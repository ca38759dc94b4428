import BucketAccess.Text.Utf8

/-!
# Faults in markup

What can be wrong with the marks of a document: a construct whose end is missing, a mark that opens
nothing, or end tags that do not match the start tags.
-/

namespace BucketAccess.Markup

inductive Fault where
  | openTag
  | openAttribute (quote : Char)
  | openComment
  | openCdata
  | openDoctype
  | openInstruction
  | openDeclaration
  | unknownMark
  | openReference
  | namelessDoctype
  | mismatchedEnd (expected found : Bytes)
  | unmatchedEnd (found : Bytes)
  deriving DecidableEq, Repr

/-- A name in a message; one that is not UTF-8 is left out. -/
def shownName (name : Bytes) : String := (Utf8.strict name).toOption.getD ""

def Fault.message : Fault → String
  | .openTag => "syntax error: tag not closed: `>` not found before end of input"
  | .openAttribute quote =>
    s!"syntax error: attribute value not closed: `{quote}` not found before end of input"
  | .openComment => "syntax error: comment not closed: `-->` not found before end of input"
  | .openCdata => "syntax error: CDATA not closed: `]]>` not found before end of input"
  | .openDoctype => "syntax error: DOCTYPE not closed: `>` not found before end of input"
  | .openInstruction =>
    "syntax error: processing instruction not closed: `?>` not found before end of input"
  | .openDeclaration =>
    "syntax error: XML declaration not closed: `?>` not found before end of input"
  | .unknownMark => "syntax error: unknown or missed symbol in markup"
  | .openReference => "ill-formed document: entity or character reference not closed: `;` not " ++
    "found before end of input"
  | .namelessDoctype =>
    "ill-formed document: `<!DOCTYPE>` declaration does not contain a name of a document type"
  | .mismatchedEnd expected found => "ill-formed document: expected `</" ++ shownName expected ++
    ">`, but `</" ++ shownName found ++ ">` was found"
  | .unmatchedEnd found =>
    "ill-formed document: close tag `</" ++ shownName found ++ ">` does not match any open tag"

end BucketAccess.Markup
