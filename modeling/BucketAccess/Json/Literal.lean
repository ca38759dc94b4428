import BucketAccess.Json.Value

/-!
# Numbers in JSON

The number that a literal stands for. Digits are taken into the significand as long as it fits 64
bits; the rest of the whole part only counts for the exponent, and the rest of the fraction not at
all. A literal without fraction and exponent is a whole number if that fits 64 bits; any other is a
double, made from the significand by steps that are each rounded.
-/

namespace BucketAccess.Json

/-- Digits are in reading order; the exponent has a sign. -/
structure Literal where
  negative : Bool
  whole : List Nat
  fraction : List Nat
  exponent : Option (Bool × List Nat)
  deriving DecidableEq, Repr

/-- `10 ^ n`, for `n` up to 308. -/
def powerOfTen (n : Nat) : Binary64 := (Binary64.ofNat? (Nat.pow 10 n)).getD .zero

/-- Divides by a power of ten in steps of 308. -/
def divideByTens (x : Binary64) (exponent : Nat) : Binary64 :=
  if exponent ≤ 308 then (x.div? (powerOfTen exponent)).getD .zero
  else if x.isZero then x
  else divideByTens ((x.div? (powerOfTen 308)).getD .zero) (exponent - 308)
termination_by exponent

/-- `significand * 10 ^ exponent`, unless it is too large. -/
def scale? (significand : Nat) (exponent : Int) : Option Binary64 := do
  let x ← Binary64.ofNat? significand
  if exponent < 0 then return divideByTens x exponent.natAbs
  else if exponent ≤ 308 then x.mul? (powerOfTen exponent.toNat)
  else if x.isZero then return x
  else none

def fits (significand digit : Nat) : Bool := significand * 10 + digit ≤ 0xFFFFFFFFFFFFFFFF

/-- The significand after the digits of the whole part, and the number of digits left out. -/
def takeWhole (significand : Nat) : List Nat → Nat × Nat
  | [] => (significand, 0)
  | d :: r =>
    if fits significand d then takeWhole (significand * 10 + d) r
    else (significand, r.length + 1)

/-- The significand after the digits of the fraction, and the number of digits taken. -/
def takeFraction (significand : Nat) : List Nat → Nat × Nat
  | [] => (significand, 0)
  | d :: r =>
    if fits significand d then
      let (significand, taken) := takeFraction (significand * 10 + d) r
      (significand, taken + 1)
    else (significand, 0)

def digitsValue (digits : List Nat) : Nat := digits.foldl (fun n d => n * 10 + d) 0

def Literal.exponentValue (l : Literal) : Int :=
  match l.exponent with
  | none => 0
  | some (negative, digits) => if negative then -(digitsValue digits : Int) else digitsValue digits

def Literal.double? (l : Literal) : Option Number := do
  let (whole, left) := takeWhole 0 l.whole
  let (significand, taken) := takeFraction whole l.fraction
  let x ← scale? significand ((left : Int) - taken + l.exponentValue)
  return .double (if l.negative then x.neg else x)

/-- The number, unless it is too large for a double. -/
def Literal.number? (l : Literal) : Option Number :=
  let (significand, left) := takeWhole 0 l.whole
  if l.fraction = [] ∧ l.exponent = none ∧ left = 0 then
    if !l.negative then some (.whole significand)
    else if 0 < significand ∧ significand ≤ 0x8000000000000000 then
      some (.whole (-(significand : Int)))
    else l.double?
  else l.double?

end BucketAccess.Json
