import BucketAccess.Number.Binary64
import BucketAccess.Text.Numeral

/-!
# Shortest decimals

The decimal with the fewest digits among those that round to a given double, and of these the
nearest to it, of two as near the one with the even last digit. For one digit, two digits and so on,
the two neighbours of the double among the decimals of that length are tried; seventeen digits
always do.
-/

namespace BucketAccess

/-- `digits * 10 ^ exponent`. -/
structure Decimal where
  digits : Nat
  exponent : Int
  deriving DecidableEq, Repr

namespace Decimal

/-- The length of a number in decimal digits. -/
def length (n : Nat) : Nat := (Numeral.decimal n).length

def dropZerosFrom : Nat → Decimal → Decimal
  | 0, d => d
  | count + 1, d =>
    if d.digits % 10 = 0 then dropZerosFrom count ⟨d.digits / 10, d.exponent + 1⟩ else d

/-- The same number without zeros at the end of its digits. -/
def dropZeros (d : Decimal) : Decimal := dropZerosFrom (length d.digits) d

/-- A positive double as `value / scale`, between the quotients that `low` and `high` make with
`scale`; those belong to it if `closed`. -/
structure Span where
  value : Nat
  low : Nat
  high : Nat
  scale : Nat
  closed : Bool

def Span.ofBinary64 (x : Binary64) : Span :=
  let m := x.significand
  let below := if m = Nat.pow 2 52 ∧ 0 < x.unit then 1 else 2
  { value := 4 * m * Nat.pow 2 x.unit
    low := (4 * m - below) * Nat.pow 2 x.unit
    high := (4 * m + 2) * Nat.pow 2 x.unit
    scale := 4 * Binary64.one
    closed := m % 2 = 0 }

/-- The exponent of the first decimal digit. -/
def Span.magnitude (s : Span) : Int :=
  if s.scale ≤ s.value then (length (s.value / s.scale) : Int) - 1
  else -(length ((s.scale + s.value - 1) / s.value - 1) : Int)

/-- The span with its quotients multiplied by `10 ^ -exponent`. -/
def Span.shift (s : Span) (exponent : Int) : Span :=
  let up := Nat.pow 10 (-exponent).toNat
  { s with
    value := s.value * up
    low := s.low * up
    high := s.high * up
    scale := s.scale * Nat.pow 10 exponent.toNat }

/-- Whether a whole number lies in the span. -/
def Span.holds (s : Span) (c : Nat) : Bool :=
  let n := c * s.scale
  if s.closed then s.low ≤ n && n ≤ s.high else s.low < n && n < s.high

/-- The nearest whole number in the span, if one of the two next to the value is in it. -/
def Span.nearest? (s : Span) : Option Nat :=
  let below := s.value / s.scale
  let above := below + 1
  match s.holds below && 0 < below, s.holds above with
  | true, true => some (Binary64.roundQuotient s.value s.scale)
  | true, false => some below
  | false, true => some above
  | false, false => none

/-- Tries decimals of the next `tries` lengths, whose last digit counts `10 ^ exponent` first. -/
def search (s : Span) : Nat → Int → Decimal
  | 0, exponent => ⟨s.value, exponent⟩
  | tries + 1, exponent =>
    match (s.shift exponent).nearest? with
    | some c => dropZeros ⟨c, exponent⟩
    | none => search s tries (exponent - 1)

def shortest (x : Binary64) : Decimal :=
  if x.isZero then ⟨0, 0⟩
  else
    let s := Span.ofBinary64 x
    search s 17 s.magnitude

end Decimal

end BucketAccess
