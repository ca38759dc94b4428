import BucketAccess.Text.Direction
import BucketAccess.Text.Joining
import BucketAccess.Web.DomainForm
import BucketAccess.Web.Punycode

/-!
# Domains

Names of hosts: labels with dots between them. A label that is not ASCII has an ASCII form, `xn--`
and the text in Punycode; the text must hold characters of domains only, be composed, not begin with
a mark or with `xn--`, and have joiners only where they may stand. If any label has something
written from right to left, each label must keep to one direction.
-/

namespace BucketAccess.Web

open Text

def asciiMark : List Char := "xn--".toList

/-- Whether a text can be a label that is not ASCII. -/
def isLabel (s : List Char) : Bool :=
  s.length ≤ 1000 && s.all isDomainChar && isComposed s && !s.head?.any isMark &&
    !asciiMark.isPrefixOf s && joinersFit [] s

structure Label where
  text : List Char
  ascii : List Char
  deriving DecidableEq, Repr

/-- A label of a domain that has its form. -/
def Label.read? (s : List Char) : Option Label :=
  if asciiMark.isPrefixOf s then
    let code := s.drop asciiMark.length
    if code.length ≤ 2000 then ((Punycode.decode? code).filter isLabel).map (⟨·, s⟩) else none
  else if isAscii s then some ⟨s, s⟩
  else if isLabel s then some ⟨s, asciiMark ++ Punycode.encode s⟩
  else none

/-- The domain that a text names, in ASCII. -/
def domainAscii? (s : List Char) : Option (List Char) := do
  let labels ← ((← domainForm? s).splitOn '.').mapM Label.read?
  let texts := labels.map Label.text
  if texts.any needsDirection && !texts.all hasDirection then none
  else some (['.'].intercalate (labels.map Label.ascii))

end BucketAccess.Web
