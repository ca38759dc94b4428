/-!
# Numerals

Unsigned numbers in positional notation: reading with a bound, digit by digit from the left, and
writing with a fixed or a least number of digits.
-/

namespace BucketAccess.Numeral

inductive Error where
  | empty
  | badDigit
  | tooLarge
  deriving DecidableEq, Repr

def Error.message : Error → String
  | .empty => "cannot parse integer from empty string"
  | .badDigit => "invalid digit found in string"
  | .tooLarge => "number too large to fit in target type"

/-- The value of a digit, letters of either case standing for ten and more. -/
def digit? (radix : Nat) (c : Char) : Option Nat :=
  let n := c.toNat
  let v :=
    if 48 ≤ n ∧ n ≤ 57 then n - 48
    else if 97 ≤ n ∧ n ≤ 122 then n - 87
    else if 65 ≤ n ∧ n ≤ 90 then n - 55
    else radix
  if v < radix then some v else none

def readFrom (radix bound value : Nat) : List Char → Except Error Nat
  | [] => .ok value
  | c :: r =>
    match digit? radix c with
    | none => .error .badDigit
    | some d =>
      if value * radix + d ≤ bound then readFrom radix bound (value * radix + d) r
      else .error .tooLarge

/-- The number that the digits write, at most `bound`. -/
def read (radix bound : Nat) (digits : List Char) : Except Error Nat :=
  match digits with
  | [] => .error .empty
  | _ => readFrom radix bound 0 digits

/-- As `read` in base ten, after one plus sign if there is one. -/
def readSigned (bound : Nat) : List Char → Except Error Nat
  | ['+'] => .error .badDigit
  | '+' :: digits => read 10 bound digits
  | digits => read 10 bound digits

def digitChar (d : Nat) : Char := Char.ofNat (if d < 10 then 48 + d else 87 + d)

/-- The last `width` decimal digits. -/
def fixed : Nat → Nat → List Char
  | 0, _ => []
  | width + 1, n => fixed width (n / 10) ++ [digitChar (n % 10)]

def decimal (n : Nat) : List Char := Nat.toDigits 10 n

/-- At least `width` decimal digits. -/
def padded (width n : Nat) : List Char :=
  List.replicate (width - (decimal n).length) '0' ++ decimal n

end BucketAccess.Numeral
