import BucketAccess.Encoding.Hex

/-!
# Percent encoding

A byte that is a letter, a digit or one of `-`, `.`, `_`, `~` stands for itself; every other byte is
written as `%` and two upper-case hexadecimal digits. In the form style a space is written as `+`.
Decoding leaves a `%` that no two digits follow as it is.
-/

namespace BucketAccess.Percent

def isUnreserved (b : UInt8) : Bool :=
  let n := b.toNat
  (48 ≤ n && n ≤ 57) || (65 ≤ n && n ≤ 90) || (97 ≤ n && n ≤ 122) ||
    n == 45 || n == 46 || n == 95 || n == 126

def escape (b : UInt8) : List Char :=
  ['%', Hex.upperDigit (b.toNat / 16), Hex.upperDigit (b.toNat % 16)]

/-- Escapes the bytes that `keep` does not hold. -/
def encodeBut (keep : UInt8 → Bool) (bs : Bytes) : List Char :=
  bs.flatMap fun b => if keep b then [Char.ofNat b.toNat] else escape b

def encode (bs : Bytes) : List Char := encodeBut isUnreserved bs

/-- Writes each `%20`, from the left, as a plus sign. -/
def plusSpaces : List Char → List Char
  | '%' :: '2' :: '0' :: r => '+' :: plusSpaces r
  | c :: r => c :: plusSpaces r
  | [] => []

/-- As `encode`, a space as a plus sign. -/
def encodeForm (bs : Bytes) : List Char := plusSpaces (encode bs)

def decode : List Char → Bytes
  | [] => []
  | '%' :: a :: b :: r =>
    match Hex.digitValue? a, Hex.digitValue? b with
    | some high, some low => UInt8.ofNat (high * 16 + low) :: decode r
    | _, _ => 0x25 :: decode (a :: b :: r)
  | c :: r => String.utf8EncodeChar c ++ decode r

end BucketAccess.Percent
