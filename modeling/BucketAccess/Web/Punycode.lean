/-!
# Punycode

Texts written with letters, digits and hyphens. The ASCII characters stand in front, with a hyphen
after them if there are any. Each of the others, from the least to the greatest, is a number that
says how many characters and places lie between it and the one before; numbers have digits of mixed
radix, the least first, and the last is the only one below its threshold.
-/

namespace BucketAccess.Web.Punycode

/-- Letters come before decimal digits. -/
def digit? (c : Char) : Option Nat :=
  if c.isLower then some (c.toNat - 97) else if c.isDigit then some (c.toNat - 22) else none

def digit (n : Nat) : Char := Char.ofNat (if n < 26 then n + 97 else n + 22)

/-- The threshold of the digit at a position, which counts in steps of 36. -/
def threshold (bias position : Nat) : Nat :=
  if position ≤ bias then 1 else if bias + 26 ≤ position then 26 else position - bias

theorem threshold_pos (bias position : Nat) : 0 < threshold bias position := by
  unfold threshold; grind

def damp (position delta : Nat) : Nat :=
  if 455 < delta then damp (position + 36) (delta / 35) else position + 36 * delta / (delta + 38)
termination_by delta

/-- The bias after a number, which makes the next one short if it is like this one. -/
def adapt (delta points : Nat) (first : Bool) : Nat :=
  let delta := if first then delta / 700 else delta / 2
  damp 0 (delta + delta / points)

/-! ## Reading -/

/-- Greater numbers are refused. -/
def bound : Nat := 0xFFFFFFFF

/-- A text part way through: the characters so far, the last one put in and the place after it, and
the number that is being read, which counts from that place. -/
structure Progress where
  chars : List Char
  code : Nat := 128
  place : Nat := 0
  bias : Nat := 72
  sum : Nat := 0
  weight : Nat := 1
  position : Nat := 36

/-- Puts in the character that the number says. -/
def Progress.insert (p : Progress) (sum : Nat) : Option Progress :=
  let points := p.chars.length + 1
  let code := p.code + sum / points
  let place := sum % points
  if code.isValidChar then
    some {
      chars := p.chars.insertIdx place (Char.ofNat code)
      code := code
      place := place + 1
      bias := adapt (sum - p.place) points (p.place == 0)
      sum := place + 1 }
  else none

def Progress.step (p : Progress) (c : Char) : Option Progress := do
  let digit ← digit? c
  let sum := p.sum + digit * p.weight
  let t := threshold p.bias p.position
  let weight := p.weight * (36 - t)
  if bound < sum then none
  else if digit < t then p.insert sum
  else if bound < weight then none
  else some { p with sum := sum, weight := weight, position := p.position + 36 }

/-- The ASCII characters and what comes after them; a hyphen that begins the text parts nothing. -/
def splitBasic (s : List Char) : List Char × List Char :=
  let numbers := (s.reverse.takeWhile (· ≠ '-')).reverse
  let basic := s.take (s.length - numbers.length - 1)
  if basic = [] then ([], s) else (basic, numbers)

/-- The text, which must have a character that is not ASCII. -/
def decode? (s : List Char) : Option (List Char) := do
  let (basic, numbers) := splitBasic s
  if basic.any (128 ≤ ·.toNat) then none
  let p ← numbers.foldlM Progress.step { chars := basic }
  if numbers = [] ∨ p.position ≠ 36 then none else some p.chars

/-! ## Writing -/

def digits (bias position n : Nat) : List Char :=
  let t := threshold bias position
  if n < t then [digit n]
  else digit (t + (n - t) % (36 - t)) :: digits bias (position + 36) ((n - t) / (36 - t))
termination_by n
decreasing_by
  have := threshold_pos bias position
  exact Nat.lt_of_le_of_lt (Nat.div_le_self _ _) (by omega)

/-- A text written in part: its digits, the number of characters that they and the ASCII part stand
for, and the characters and places passed since the last one of them. -/
structure Written where
  digits : List Char := []
  points : Nat
  bias : Nat := 72
  sum : Nat := 0
  first : Bool := true

/-- Goes past a character; those with this code are written. -/
def Written.pass (code : Nat) (w : Written) (c : Char) : Written :=
  if c.toNat < code then { w with sum := w.sum + 1 }
  else if c.toNat = code then
    { digits := w.digits ++ Punycode.digits w.bias 36 w.sum
      points := w.points + 1
      bias := adapt w.sum (w.points + 1) w.first
      sum := 0
      first := false }
  else w

/-- Writes the characters of a text from a code on, given the codes of those that are left. -/
def Written.put (s : List Char) (w : Written) (code : Nat) : List Nat → Written
  | [] => w
  | next :: r =>
    let here := { w with sum := w.sum + (next - code) * (w.points + 1) }
    let after := s.foldl (pass next) here
    put s { after with sum := after.sum + 1 } (next + 1) r

def encode (s : List Char) : List Char :=
  let (others, basic) := s.partition (128 ≤ ·.toNat)
  let codes := (others.map Char.toNat).eraseDups.mergeSort
  let w := Written.put s { points := basic.length } 128 codes
  (if basic = [] then [] else basic ++ ['-']) ++ w.digits

end BucketAccess.Web.Punycode
