import BucketAccess.Web.Host

/-!
# URLs

What a text says as an absolute URL: the scheme, the host and the port, if there are any, the path
and the query. Blanks and controls around the text, and tabs and line ends in it, do not count; the
default port of a scheme is left out; dot segments of the path are resolved. Users and fragments are
read over.
-/

namespace BucketAccess.Web

structure Url where
  scheme : String
  host : Option String
  port : Option Nat
  path : String
  query : Option String
  deriving DecidableEq, Repr

inductive SchemeKind where
  | file
  | special
  | other
  deriving DecidableEq, Repr

def SchemeKind.of (scheme : List Char) : SchemeKind :=
  if scheme = "file".toList then .file
  else if (["http", "https", "ws", "wss", "ftp"].map String.toList).contains scheme then .special
  else .other

def defaultPort? (scheme : List Char) : Option Nat :=
  if scheme = "http".toList ∨ scheme = "ws".toList then some 80
  else if scheme = "https".toList ∨ scheme = "wss".toList then some 443
  else if scheme = "ftp".toList then some 21
  else none

def SchemeKind.isSlash (k : SchemeKind) (c : Char) : Bool := c = '/' || (c = '\\' && k != .other)

/-- The end of what stands before the path. -/
def SchemeKind.endsAuthority (k : SchemeKind) (c : Char) : Bool := k.isSlash c || c = '?' || c = '#'

/-! ## Text -/

def isSurrounding (c : Char) : Bool := c.toNat ≤ 0x20

/-- The text less what does not count. -/
def relevant (s : List Char) : List Char :=
  ((s.dropWhile isSurrounding).reverse.dropWhile isSurrounding).reverse.filter fun c =>
    c != '\t' && c != '\n' && c != '\r'

def isSchemeChar (c : Char) : Bool := c.isAlphanum || c = '+' || c = '-' || c = '.'

/-- The scheme in lower case, and what follows its colon. -/
def splitScheme? (s : List Char) : Option (List Char × List Char) :=
  let scheme := s.takeWhile isSchemeChar
  match scheme, s.dropWhile isSchemeChar with
  | first :: _, ':' :: r => if first.isAlpha then some (scheme.map Char.toLower, r) else none
  | _, _ => none

/-! ## Authority -/

/-- A user and the rest after the last at sign, or no user. -/
def splitUser (authority : List Char) : Option (List Char) × List Char :=
  if '@' ∈ authority then
    let host := (authority.reverse.takeWhile (· ≠ '@')).reverse
    (some (authority.take (authority.length - host.length - 1)), host)
  else (none, authority)

/-- A host and what follows it from a colon on, which does not count inside brackets. -/
def splitPort (inBrackets : Bool) : List Char → List Char × List Char
  | [] => ([], [])
  | c :: r =>
    if c = ':' ∧ !inBrackets then ([], c :: r)
    else
      let bracketed := if c = '[' then true else if c = ']' then false else inBrackets
      let (host, rest) := splitPort bracketed r
      (c :: host, rest)

def readPortFrom (port : Nat) : List Char → Except Fault Nat
  | [] => .ok port
  | c :: r =>
    match Numeral.digit? 10 c with
    | none => .error .badPort
    | some d => if port * 10 + d ≤ 65535 then readPortFrom (port * 10 + d) r else .error .badPort

/-- A port; none if there are no digits, or if it is the one that the scheme has anyway. -/
def readPort (scheme : List Char) (digits : List Char) : Except Fault (Option Nat) := do
  let port ← readPortFrom 0 digits
  return if digits = [] ∨ defaultPort? scheme = some port then none else some port

/-- The host, empty if there is none, the port, and what follows the port from a backslash on, which
belongs to the path whatever the scheme. -/
def readAuthority (scheme : List Char) (kind : SchemeKind) (authority : List Char)
    (atEnd : Bool) : Except Fault (List Char × Option Nat × List Char) := do
  let (user, rest) := splitUser authority
  if user = some [] ∧ rest = [] ∧ !atEnd then .error .emptyHost
  let (text, afterHost) := splitPort false rest
  if kind = .special ∧ text = [] then .error .emptyHost
  let host ← if kind = .special then readHost text else readOpaqueHost text
  if host = [] ∧ afterHost ≠ [] then .error .emptyHost
  let afterColon := afterHost.drop 1
  let port ← readPort scheme (afterColon.takeWhile (· ≠ '\\'))
  let named := user.any fun u => u ≠ [] ∧ u ≠ [':']
  if host = [] ∧ named then .error .emptyHost
  return (host, port, afterColon.dropWhile (· ≠ '\\'))

/-! ## Path -/

def isPathByte (b : UInt8) : Bool :=
  !isControl b && !(Utf8.bytes " \"#<>?`\x7b\x7d").contains b

def segmentText (segment : List Char) : List Char :=
  Percent.encodeBut isPathByte (Utf8.encode segment)

/-- The segment with its escaped dots written as dots. -/
def plainDots : List Char → List Char
  | '%' :: '2' :: 'e' :: r | '%' :: '2' :: 'E' :: r => '.' :: plainDots r
  | c :: r => c :: plainDots r
  | [] => []

def isDriveLetter : List Char → Bool
  | [a, b] => a.isAlpha && (b = ':' || b = '|')
  | _ => false

/-- The segments after one more, given backwards: a single dot stands for nothing, and two dots take
the segment before away unless that is a drive. -/
def addSegment (sofar : List (List Char)) (segment : List Char) : List (List Char) :=
  let plain := plainDots segment
  if plain = ['.'] then sofar
  else if plain = ['.', '.'] then
    if sofar.head?.any isDriveLetter then sofar else sofar.drop 1
  else segment :: sofar

def isDots (segment : List Char) : Bool :=
  let plain := plainDots segment
  plain = ['.'] || plain = ['.', '.']

/-- The segments that remain of a path; dots at the end leave an empty segment there. -/
def resolveDots (sofar : List (List Char)) : List (List Char) → List (List Char)
  | [] => sofar.reverse
  | segment :: r =>
    let sofar := addSegment sofar segment
    resolveDots (if r = [] ∧ isDots segment then [] :: sofar else sofar) r

/-- Whether a drive comes to stand first while dots are resolved. -/
def meetsDrive (sofar : List (List Char)) : List (List Char) → Bool
  | [] => false
  | segment :: r =>
    sofar = [] && isDriveLetter segment || meetsDrive (addSegment sofar segment) r

/-- Texts between slashes. -/
def splitSegments (kind : SchemeKind) (s : List Char) : List (List Char) :=
  (s.map fun c => if kind.isSlash c then '/' else c).splitOn '/'

/-- The segments of the path that begins here; http-like URLs have one in any case. -/
def readSegments (kind : SchemeKind) (s : List Char) : List (List Char) :=
  let s := s.takeWhile fun c => c ≠ '?' ∧ c ≠ '#'
  match s with
  | [] => if kind = .other then [] else [[]]
  | c :: r => splitSegments kind (if kind.isSlash c then r else c :: r)

def readPath (kind : SchemeKind) (s : List Char) : List (List Char) :=
  resolveDots [] (readSegments kind s)

def pathText (segments : List (List Char)) : List Char :=
  segments.flatMap fun segment => '/' :: segmentText segment

/-! ## Query -/

def isQueryByte (kind : SchemeKind) (b : UInt8) : Bool :=
  !isControl b && !(Utf8.bytes " \"#<>").contains b && (kind = .other || b != 0x27)

/-- What stands after the first question mark, up to a fragment. -/
def readQuery (kind : SchemeKind) (s : List Char) : Option String :=
  match (s.takeWhile (· ≠ '#')).dropWhile (· ≠ '?') with
  | _ :: query =>
    some (String.ofList (Percent.encodeBut (isQueryByte kind) (Utf8.encode query)))
  | [] => none

/-! ## Kinds of URLs -/

/-- A file's URL has a host after two slashes, unless that is this machine or the path names a
drive. -/
def readFile (scheme s : List Char) : Except Fault Url := do
  let kind := SchemeKind.file
  let url (host path : List Char) : Url :=
    let segments := (readPath kind path).dropWhile (· = [])
    let isLocal := host = [] ∨ host = "localhost".toList ∨ meetsDrive [] (readSegments kind path)
    { scheme := String.ofList scheme
      host := if isLocal then none else some (String.ofList host)
      port := none
      path := String.ofList (pathText (if segments = [] then [[]] else segments))
      query := readQuery kind s }
  match s with
  | a :: b :: r =>
    if kind.isSlash a ∧ kind.isSlash b then
      let host := r.takeWhile (!kind.endsAuthority ·)
      let rest := r.dropWhile (!kind.endsAuthority ·)
      if isDriveLetter host then return url [] r
      else if host = [] then return url [] rest
      else return url (← readHost host) rest
    else return url [] s
  | s => return url [] s

/-- A URL whose authority begins here. -/
def readWithAuthority (scheme : List Char) (kind : SchemeKind) (s : List Char) :
    Except Fault Url := do
  let authority := s.takeWhile (!kind.endsAuthority ·)
  let afterAuthority := s.dropWhile (!kind.endsAuthority ·)
  let (host, port, afterPort) ← readAuthority scheme kind authority (afterAuthority = [])
  let rest := afterPort ++ afterAuthority
  return {
    scheme := String.ofList scheme
    host := if host = [] then none else some (String.ofList host)
    port := port
    path := String.ofList (pathText (readPath kind rest))
    query := readQuery kind rest }

/-- A URL without an authority; its path is of no use to this program unless it begins with a
slash. -/
def readWithoutAuthority (scheme s : List Char) : Url where
  scheme := String.ofList scheme
  host := none
  port := none
  path := String.ofList (
    match s with
    | '/' :: _ => pathText (readPath .other s)
    | _ => Percent.encodeBut (!isControl ·) (Utf8.encode (s.takeWhile fun c => c ≠ '?' ∧ c ≠ '#')))
  query := readQuery .other s

namespace Url

def read (s : List Char) : Except Fault Url :=
  match splitScheme? (relevant s) with
  | none => .error .relative
  | some (scheme, r) =>
    let kind := SchemeKind.of scheme
    match kind, r with
    | .file, r => readFile scheme r
    | .special, r => readWithAuthority scheme kind (r.dropWhile kind.isSlash)
    | .other, '/' :: '/' :: r => readWithAuthority scheme kind r
    | .other, r => .ok (readWithoutAuthority scheme r)

def parse (s : String) : Except Fault Url := read s.toList

/-- The host, with the port after a colon if there is one. -/
def authority (u : Url) : String :=
  let host := u.host.getD ""
  match u.port with
  | some port => host ++ ":" ++ String.ofList (decimalText port)
  | none => host

def text (u : Url) : String :=
  let query :=
    match u.query with
    | some q => "?" ++ q
    | none => ""
  u.scheme ++ "://" ++ u.authority ++ u.path ++ query

end Url

end BucketAccess.Web
