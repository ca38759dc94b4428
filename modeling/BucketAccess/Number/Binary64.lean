/-!
# Doubles

Finite numbers of 64-bit binary floating point, exactly: a sign and a whole multiple of the least
positive double, 2^-1074. Results are rounded to the nearest double, a tie to the even significand;
there is no infinity, so an operation that overflows has no result.
-/

namespace BucketAccess

/-- `significand * 2 ^ unit` least doubles. -/
structure Binary64 where
  negative : Bool
  significand : Nat
  unit : Nat
  deriving DecidableEq, Repr

namespace Binary64

def zero : Binary64 := ⟨false, 0, 0⟩

def isZero (x : Binary64) : Bool := x.significand == 0

/-- The number of least doubles in the absolute value. -/
def scaled (x : Binary64) : Nat := x.significand * Nat.pow 2 x.unit

/-- Least doubles in one. -/
def one : Nat := Nat.pow 2 1074

/-- The whole number nearest a quotient, a tie to the even one. -/
def roundQuotient (num den : Nat) : Nat :=
  let q := num / den
  let twice := 2 * (num % den)
  if twice < den then q else if den < twice then q + 1 else q + q % 2

/-- The double nearest `num / den` least doubles. -/
def round (negative : Bool) (num den : Nat) : Option Binary64 :=
  let whole := num / den
  let unit := if whole < Nat.pow 2 53 then 0 else Nat.log2 whole - 52
  let m := roundQuotient num (den * Nat.pow 2 unit)
  let x : Binary64 :=
    if m = Nat.pow 2 53 then ⟨negative, Nat.pow 2 52, unit + 1⟩ else ⟨negative, m, unit⟩
  if x.unit ≤ 2045 then some x else none

def ofNat? (n : Nat) : Option Binary64 := round false (n * one) 1

def neg (x : Binary64) : Binary64 := { x with negative := !x.negative }

def mul? (x y : Binary64) : Option Binary64 :=
  round (x.negative != y.negative) (x.scaled * y.scaled) one

/-- The quotient by a number other than zero. -/
def div? (x y : Binary64) : Option Binary64 :=
  round (x.negative != y.negative) (x.scaled * one) y.scaled

/-- Equality as numbers: both zeros are alike. -/
def alike (x y : Binary64) : Bool := (x.isZero && y.isZero) || x = y

end Binary64

end BucketAccess
