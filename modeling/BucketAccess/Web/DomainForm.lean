import BucketAccess.Text.Composed
import BucketAccess.Text.LowerCase
import BucketAccess.Web.DomainFormTable
import BucketAccess.Web.DomainTable

/-!
# Domain forms

Texts that differ only in case, in compatible ways to write a character, or in characters that do
not count name the same domain. Its form is the composed text of the forms of their characters.
-/

namespace BucketAccess.Web

open Text

def isAscii (s : List Char) : Bool := s.all (·.toNat < 128)

def isDomainChar (c : Char) : Bool := c.toNat < 128 || inRuns domainRuns c

/-- The form that a table has for a character. -/
def tableForm? (c : Char) : Option (List Char) :=
  if isDomainChar c then some [c]
  else if inRanges ignoredRanges c then some []
  else
    match shiftedForms.find? fun (first, last, _) => first ≤ c.toNat && c.toNat ≤ last with
    | some (first, _, form) => some [Char.ofNat (form + (c.toNat - first))]
    | none => ((lookUp? singleForms c).map ([·]) <|> lookUp? longForms c).map (·.map Char.ofNat)

/-- The form of a character, if domains have it in any form. -/
def charForm? (c : Char) : Option (List Char) :=
  if c.toNat < 128 then some [c.toLower] else tableForm? c <|> tableForm? (lowerChar c)

def domainForm? (s : List Char) : Option (List Char) :=
  (s.mapM charForm?).map fun forms => compose forms.flatten

end BucketAccess.Web
