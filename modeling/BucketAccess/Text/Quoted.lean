import BucketAccess.Text.HiddenTable
import BucketAccess.Text.Numeral
import BucketAccess.Text.Ranges

/-!
# Quoted texts

A text between quotes, fit for a line of a log: quotes and backslashes follow a backslash, the usual
control characters have their letters, and other characters that are not shown are written by
number.
-/

namespace BucketAccess.Text

def isHidden (c : Char) : Bool :=
  c.toNat < 32 || (0x7F ≤ c.toNat && inRanges hiddenRanges c)

def quoteChar (c : Char) : List Char :=
  if c = '\x00' then ['\\', '0']
  else if c = '\t' then ['\\', 't']
  else if c = '\n' then ['\\', 'n']
  else if c = '\r' then ['\\', 'r']
  else if c = '"' then ['\\', '"']
  else if c = '\\' then ['\\', '\\']
  else if isHidden c then '\\' :: 'u' :: '\x7b' :: Nat.toDigits 16 c.toNat ++ ['\x7d']
  else [c]

def quoted (s : String) : String := String.ofList ('"' :: s.toList.flatMap quoteChar ++ ['"'])

def quotedOption : Option String → String
  | some s => "Some(" ++ quoted s ++ ")"
  | none => "None"

def quotedList (texts : List String) : String :=
  "[" ++ ", ".intercalate (texts.map quoted) ++ "]"

end BucketAccess.Text
