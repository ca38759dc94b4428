import BucketAccess.Markup.Token

/-!
# Events of a document

Tokens whose end tags have been matched with the start tags. The list stops at the first fault,
which may be an end tag that does not match.
-/

namespace BucketAccess.Markup

inductive Event where
  | start (name : Bytes)
  | stop
  | text (content : Bytes)
  | reference (content : Bytes)
  | fault (f : Fault)
  deriving DecidableEq, Repr

namespace Event

/-- The events of tokens inside the elements with these names, the innermost first. -/
def ofTokens (opened : List Bytes) : List Token → List Event
  | [] => []
  | .fault f :: _ => [.fault f]
  | .text content :: r => .text content :: ofTokens opened r
  | .reference content :: r => .reference content :: ofTokens opened r
  | .opening name :: r => .start name :: ofTokens (name :: opened) r
  | .closing name :: r =>
    match opened with
    | [] => [.fault (.unmatchedEnd name)]
    | expected :: outer =>
      if name = expected then .stop :: ofTokens outer r
      else [.fault (.mismatchedEnd expected name)]

def ofBytes (document : Bytes) : List Event := ofTokens [] (Token.ofBytes document)

end Event

end BucketAccess.Markup
