import BucketAccess.Text.Utf8
import BucketAccess.Text.Numeral

/-!
# Hexadecimal

Bytes as pairs of hexadecimal digits.
-/

namespace BucketAccess.Hex

def lowerDigit (n : Nat) : Char := Char.ofNat (if n < 10 then 48 + n else 87 + n)

def upperDigit (n : Nat) : Char := Char.ofNat (if n < 10 then 48 + n else 55 + n)

def digitValue? (c : Char) : Option Nat := Numeral.digit? 16 c

/-- Two lower-case digits for each byte. -/
def encode (bs : Bytes) : List Char :=
  bs.flatMap fun b => [lowerDigit (b.toNat / 16), lowerDigit (b.toNat % 16)]

/-- Digits of either case. -/
def decode? : List Char → Option Bytes
  | [] => some []
  | [_] => none
  | a :: b :: r => do
    let high ← digitValue? a
    let low ← digitValue? b
    let bytes ← decode? r
    return UInt8.ofNat (high * 16 + low) :: bytes

def text (bs : Bytes) : String := String.ofList (encode bs)

end BucketAccess.Hex
