import BucketAccess.Text.Numeral
import BucketAccess.Text.Utf8

/-!
# References in markup

What stands between `&` and `;`: the number of a character, in base ten or sixteen, or one of the
five predefined names. Writing a text uses the names.
-/

namespace BucketAccess.Markup

inductive ReferenceError where
  | sign
  | number (e : Numeral.Error)
  | zero
  | notCharacter (code : Nat)
  | unknownName (name : String)
  deriving DecidableEq, Repr

def ReferenceError.message : ReferenceError → String
  | .sign => "invalid character reference: unexpected number sign"
  | .number e => "invalid character reference: " ++ e.message
  | .zero => "invalid character reference: 0x0 character is not permitted in XML"
  | .notCharacter code => s!"invalid character reference: `{code}` is not a valid codepoint"
  | .unknownName name => "unknown entity &" ++ name ++ ";"

/-- The character with a number, given its digits. -/
def numbered (radix : Nat) (digits : List Char) : Except ReferenceError Char :=
  match digits with
  | '+' :: _ | '-' :: _ => .error .sign
  | _ =>
    match Numeral.read radix 0xFFFFFFFF digits with
    | .error e => .error (.number e)
    | .ok 0 => .error .zero
    | .ok code => if code.isValidChar then .ok (Char.ofNat code) else .error (.notCharacter code)

def named? (name : List Char) : Option Char :=
  if name = ['l', 't'] then some '<'
  else if name = ['g', 't'] then some '>'
  else if name = ['a', 'm', 'p'] then some '&'
  else if name = ['a', 'p', 'o', 's'] then some '\''
  else if name = ['q', 'u', 'o', 't'] then some '"'
  else none

/-- The character that a reference stands for. -/
def resolve (reference : List Char) : Except ReferenceError Char :=
  match reference with
  | '#' :: 'x' :: digits => numbered 16 digits
  | '#' :: digits => numbered 10 digits
  | name =>
    match named? name with
    | some c => .ok c
    | none => .error (.unknownName (String.ofList name))

def escapeChar (c : Char) : List Char :=
  if c = '<' then "&lt;".toList
  else if c = '>' then "&gt;".toList
  else if c = '&' then "&amp;".toList
  else if c = '\'' then "&apos;".toList
  else if c = '"' then "&quot;".toList
  else [c]

/-- A text as the content of an element. -/
def escape (s : List Char) : List Char := s.flatMap escapeChar

end BucketAccess.Markup
