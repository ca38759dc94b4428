import BucketAccess.Encoding.Percent
import BucketAccess.Web.Domain

/-!
# Hosts in URLs

The host of an http-like URL is a domain, an IPv4 address in any of its short and octal or
hexadecimal forms, or an IPv6 address in brackets; the host of another URL is kept as it is. Each is
written in one form.
-/

namespace BucketAccess.Web

inductive Fault where
  | relative
  | emptyHost
  | badPort
  | badIpv4
  | badIpv6
  | badDomain
  | badHostCharacter
  deriving DecidableEq, Repr

def Fault.message : Fault → String
  | .relative => "relative URL without a base"
  | .emptyHost => "empty host"
  | .badPort => "invalid port number"
  | .badIpv4 => "invalid IPv4 address"
  | .badIpv6 => "invalid IPv6 address"
  | .badDomain => "invalid international domain name"
  | .badHostCharacter => "invalid domain character"

def decimalText (n : Nat) : List Char := Numeral.decimal n

def hexText (n : Nat) : List Char := Nat.toDigits 16 n

def allDigits (radix : Nat) (s : List Char) : Bool := s.all fun c => (Numeral.digit? radix c).isSome

/-! ## IPv4 -/

/-- A part of an address: hexadecimal after `0x`, octal after `0`, else decimal. A mark alone is
zero. -/
def ipv4Number? (s : List Char) : Option Nat :=
  let number (radix : Nat) (digits : List Char) : Option Nat :=
    if allDigits radix digits then
      some (digits.foldl (fun n c => n * radix + (Numeral.digit? radix c).getD 0) 0)
    else none
  match s with
  | [] => none
  | '0' :: 'x' :: digits | '0' :: 'X' :: digits => number 16 digits
  | '0' :: d :: digits => number 8 (d :: digits)
  | digits => number 10 digits

/-- The parts of a name between dots, less an empty one at the end. -/
def labels (domain : List Char) : List (List Char) :=
  let parts := domain.splitOn '.'
  if parts.getLast? = some [] then parts.dropLast else parts

/-- Whether a domain can only be an address. -/
def endsInNumber (domain : List Char) : Bool :=
  match (labels domain).getLast? with
  | none | some [] => false
  | some last => allDigits 10 last || (ipv4Number? last).isSome

/-- The address whose last part fills all the bytes that the others leave. -/
def readIpv4 (domain : List Char) : Except Fault Nat :=
  match (labels domain).mapM ipv4Number? with
  | none => .error .badIpv4
  | some parts =>
    let first := parts.dropLast
    let last := parts.getLastD 0
    if parts.length > 4 ∨ first.any (255 < ·) ∨ Nat.pow 256 (4 - first.length) ≤ last then
      .error .badIpv4
    else .ok (first.foldr (fun n rest => n * Nat.pow 256 3 + rest / 256) 0 + last)

def ipv4Text (address : Nat) : List Char :=
  decimalText (address / 16777216) ++ '.' :: decimalText (address / 65536 % 256) ++
    '.' :: decimalText (address / 256 % 256) ++ '.' :: decimalText (address % 256)

/-! ## IPv6 -/

/-- One to four hexadecimal digits. -/
def ipv6Group? (s : List Char) : Option Nat :=
  if s = [] ∨ 4 < s.length ∨ !allDigits 16 s then none
  else some (s.foldl (fun n c => n * 16 + (Numeral.digit? 16 c).getD 0) 0)

/-- A number up to 255 without zeros in front. -/
def byteNumber? (s : List Char) : Option Nat :=
  if s = [] ∨ 3 < s.length ∨ !allDigits 10 s ∨ (s.head? = some '0' ∧ s ≠ ['0']) then none
  else
    let n := s.foldl (fun n c => n * 10 + (Numeral.digit? 10 c).getD 0) 0
    if n ≤ 255 then some n else none

/-- Groups with colons between them; the last may be an IPv4 address, which makes two. -/
def ipv6Groups? (dotted : Bool) : List (List Char) → Option (List Nat)
  | [] => some []
  | [s] =>
    if dotted ∧ '.' ∈ s then
      match (s.splitOn '.').mapM byteNumber? with
      | some [a, b, c, d] => some [a * 256 + b, c * 256 + d]
      | _ => none
    else (ipv6Group? s).map ([·])
  | s :: r => do
    let group ← ipv6Group? s
    let rest ← ipv6Groups? dotted r
    return group :: rest

/-- What stands before and after the first two colons in a row. -/
def splitGap : List Char → Option (List Char × List Char)
  | ':' :: ':' :: r => some ([], r)
  | c :: r => (splitGap r).map fun (before, after) => (c :: before, after)
  | [] => none

def pieces (s : List Char) : List (List Char) := if s = [] then [] else s.splitOn ':'

/-- The eight groups of an address; two colons in a row stand for one zero or more. -/
def readIpv6? (s : List Char) : Option (List Nat) :=
  match splitGap s with
  | none => (ipv6Groups? true (pieces s)).filter (·.length = 8)
  | some (before, after) => do
    let first ← ipv6Groups? false (pieces before)
    let last ← ipv6Groups? true (pieces after)
    let count := first.length + last.length
    if count ≤ 7 then some (first ++ List.replicate (8 - count) 0 ++ last) else none

/-- The length of the run of zeros at the beginning. -/
def zeroRun (groups : List Nat) : Nat := (groups.takeWhile (· = 0)).length

/-- The place and the length of the first longest run of zeros from `place` on. -/
def longestRun (place : Nat) : List Nat → Nat × Nat
  | [] => (place, 0)
  | g :: r =>
    let here := zeroRun (g :: r)
    let later := longestRun (place + 1) r
    if later.2 ≤ here then (place, here) else later

def groupsText (groups : List Nat) : List Char := [':'].intercalate (groups.map hexText)

/-- Groups without zeros in front, the first longest run of zeros left out if it is longer than
one. -/
def ipv6Text (groups : List Nat) : List Char :=
  let (place, length) := longestRun 0 groups
  if length < 2 then groupsText groups
  else groupsText (groups.take place) ++ ':' :: ':' :: groupsText (groups.drop (place + length))

def readBracketed (s : List Char) : Except Fault (List Char) :=
  let inner := s.drop 1
  if inner.getLast? = some ']' then
    match readIpv6? inner.dropLast with
    | some groups => .ok ('[' :: ipv6Text groups ++ [']'])
    | none => .error .badIpv6
  else .error .badIpv6

/-! ## Hosts -/

def isForbidden (c : Char) : Bool := c = '\x00' || "\t\n\r #/:<>?@[\\]^|".toList.contains c

def isForbiddenInDomain (c : Char) : Bool :=
  isForbidden c || c = '%' || c.toNat < 0x20 || 0x7F ≤ c.toNat

/-- The host of an http-like URL. -/
def readHost (s : List Char) : Except Fault (List Char) :=
  if s.head? = some '[' then readBracketed s
  else
    match domainAscii? (Utf8.lossyChars (Percent.decode s)) with
    | none => .error .badDomain
    | some domain =>
      if domain.any isForbiddenInDomain then .error .badDomain
      else if domain = [] then .error .emptyHost
      else if endsInNumber domain then ipv4Text <$> readIpv4 domain
      else .ok domain

def isControl (b : UInt8) : Bool := b < 0x20 || 0x7F ≤ b

/-- The host of any other URL. -/
def readOpaqueHost (s : List Char) : Except Fault (List Char) :=
  if s.head? = some '[' then readBracketed s
  else if s.any isForbidden then .error .badHostCharacter
  else .ok (Percent.encodeBut (!isControl ·) (Utf8.encode s))

end BucketAccess.Web
