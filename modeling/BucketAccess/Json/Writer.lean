import BucketAccess.Json.Value
import BucketAccess.Number.Shortest
import BucketAccess.Encoding.Hex

/-!
# Writing JSON

Values as compact text. Strings escape quotes, backslashes and control characters. Doubles are
written with the fewest digits that read back: with a decimal point from 1e-5 up to 1e16, otherwise
with a signed exponent.
-/

namespace BucketAccess.Json

def escapeChar (c : Char) : List Char :=
  if c = '"' then ['\\', '"']
  else if c = '\\' then ['\\', '\\']
  else if c = '\x08' then ['\\', 'b']
  else if c = '\x0c' then ['\\', 'f']
  else if c = '\n' then ['\\', 'n']
  else if c = '\r' then ['\\', 'r']
  else if c = '\t' then ['\\', 't']
  else if c.toNat < 0x20 then
    ['\\', 'u', '0', '0', Hex.lowerDigit (c.toNat / 16), Hex.lowerDigit (c.toNat % 16)]
  else [c]

def stringText (s : String) : List Char := '"' :: s.toList.flatMap escapeChar ++ ['"']

def wholeText (n : Int) : List Char :=
  if n < 0 then '-' :: Numeral.decimal n.natAbs else Numeral.decimal n.natAbs

/-- Digits with a point after the first `point` of them. -/
def pointed (point : Int) (digits : List Char) : List Char :=
  if point ≤ 0 then '0' :: '.' :: List.replicate (-point).toNat '0' ++ digits
  else
    let before := digits.take point.toNat
    let after := digits.drop point.toNat
    before ++ List.replicate (point.toNat - before.length) '0' ++
      '.' :: (if after = [] then ['0'] else after)

/-- Digits with a point after the first, and the exponent of ten that this makes. -/
def scientific (exponent : Int) (digits : List Char) : List Char :=
  let after := digits.drop 1
  digits.take 1 ++ (if after = [] then [] else '.' :: after) ++
    'e' :: (if exponent < 0 then '-' else '+') :: Numeral.decimal exponent.natAbs

def doubleText (x : Binary64) : List Char :=
  let d := Decimal.shortest x
  let digits := Numeral.decimal d.digits
  let point : Int := digits.length + d.exponent
  let text :=
    if x.isZero then ['0', '.', '0']
    else if -5 < point ∧ point ≤ 16 then pointed point digits
    else scientific (point - 1) digits
  if x.negative then '-' :: text else text

def Number.text : Number → List Char
  | .whole n => wholeText n
  | .double x => doubleText x

mutual

def text : Json → List Char
  | .null => "null".toList
  | .bool true => "true".toList
  | .bool false => "false".toList
  | .number n => n.text
  | .string s => stringText s
  | .array items => '[' :: textItems items ++ [']']
  | .object members => '\x7b' :: textMembers members ++ ['\x7d']

def textItems : List Json → List Char
  | [] => []
  | [v] => text v
  | v :: w :: r => text v ++ ',' :: textItems (w :: r)

def textMembers : List (String × Json) → List Char
  | [] => []
  | [(k, v)] => stringText k ++ ':' :: text v
  | (k, v) :: m :: r => stringText k ++ ':' :: text v ++ ',' :: textMembers (m :: r)

end

def toText (v : Json) : String := String.ofList (text v)

def ofStrings (items : List String) : Json := .array (items.map .string)

end BucketAccess.Json
