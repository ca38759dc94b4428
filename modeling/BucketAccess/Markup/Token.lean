import BucketAccess.Markup.Fault

/-!
# Tokens of markup

A document as the tags, references and stretches of text in it, in order. Blanks at both ends of a
stretch of text do not count. Empty elements, comments, instructions and other marks leave no token,
but they end the stretch of text before them. The last token of a broken document is its fault.
-/

namespace BucketAccess.Markup

inductive Token where
  | opening (name : Bytes)
  | closing (name : Bytes)
  | text (content : Bytes)
  | reference (content : Bytes)
  | fault (f : Fault)
  deriving DecidableEq, Repr

def isBlank (b : UInt8) : Bool := b == 0x20 || b == 0x09 || b == 0x0D || b == 0x0A

def trimEnd (bs : Bytes) : Bytes := (bs.reverse.dropWhile isBlank).reverse

def trim (bs : Bytes) : Bytes := trimEnd (bs.dropWhile isBlank)

namespace Token

def texts (content : Bytes) : List Token :=
  match trim content with
  | [] => []
  | content => [.text content]

/-- Blanks after the name in an end tag do not count, unless there is no name. -/
def closingName (content : Bytes) : Bytes :=
  if content.all isBlank then content else trimEnd content

/-- What a tag says, given what stands between its angle brackets. -/
def ofTag (content : Bytes) : List Token :=
  match content with
  | 0x2F :: name => [.closing (closingName name)]
  | _ =>
    if content.getLast? = some 0x2F then []
    else [.opening (content.takeWhile (!isBlank ·))]

/-! ## Document types -/

/-- Where in a document type declaration a byte stands. -/
inductive DoctypePart where
  | head (quote : Option UInt8)
  | subset
  /-- After an angle bracket in the subset, and what follows it. -/
  | mark (seen : Bytes)
  | comment (dashes : Nat)
  | instruction (question : Bool)
  | quoting (quote : Option UInt8)
  | plain
  | tail
  deriving DecidableEq, Repr

/-- What begins, in the subset, with an angle bracket and these bytes. -/
def markBeginnings : List (Bytes × DoctypePart) := [
  (Utf8.bytes "?", .instruction false),
  (Utf8.bytes "!--", .comment 0),
  (Utf8.bytes "!ENTITY", .quoting none),
  (Utf8.bytes "!ATTLIST", .quoting none),
  (Utf8.bytes "!NOTATION", .quoting none)]

/-- Where bytes after an angle bracket lead to; what begins in no known way has no quotes. -/
def DoctypePart.ofMark (seen : Bytes) : DoctypePart :=
  match markBeginnings.find? (seen.isPrefixOf ·.1) with
  | some (beginning, part) => if seen = beginning then part else .mark seen
  | none => .plain

/-- The quote that is open after a byte. -/
def quoteAfter (b : UInt8) : Option UInt8 → Option UInt8
  | none => if b = 0x22 ∨ b = 0x27 then some b else none
  | some quote => if b = quote then none else some quote

/-- The next part, or nothing if the byte ends the declaration. -/
def DoctypePart.next? (p : DoctypePart) (b : UInt8) : Option DoctypePart :=
  let c := Char.ofNat b.toNat
  match p with
  | .head none =>
    if c = '>' then none
    else if c = '[' then some .subset
    else some (.head (quoteAfter b none))
  | .head (some quote) => some (.head (quoteAfter b (some quote)))
  | .subset => if c = ']' then some .tail else if c = '<' then some (.mark []) else some .subset
  | .mark seen => if c = '>' then some .subset else some (.ofMark (seen ++ [b]))
  | .comment dashes =>
    if c = '-' then some (.comment (dashes + 1))
    else if c = '>' ∧ 2 ≤ dashes then some .subset
    else some (.comment 0)
  | .instruction question =>
    if c = '>' ∧ question then some .subset else some (.instruction (c = '?'))
  | .quoting none => if c = '>' then some .subset else some (.quoting (quoteAfter b none))
  | .quoting (some quote) => some (.quoting (quoteAfter b (some quote)))
  | .plain => if c = '>' then some .subset else some .plain
  | .tail => if c = '>' then none else some .tail

def upperByte (b : UInt8) : UInt8 := if 0x61 ≤ b ∧ b ≤ 0x7A then b - 0x20 else b

/-- What a document type declaration leaves, given what stands after its angle bracket. -/
def ofDoctype (content : Bytes) : List Token :=
  if (content.take 8).map upperByte ≠ Utf8.bytes "!DOCTYPE" then [.fault .openDoctype]
  else if (content.drop 8).all isBlank then [.fault .namelessDoctype]
  else []

/-! ## Reading -/

/-- What is being read, with its bytes so far, the last first. -/
inductive State where
  | text (seen : Bytes)
  | reference (seen : Bytes)
  | tag (quote : Option UInt8) (seen : Bytes)
  | instruction (seen : Bytes)
  | bang
  | comment (seen : Bytes)
  | cdata (seen : Bytes)
  | doctype (part : DoctypePart) (seen : Bytes)
  deriving DecidableEq, Repr

def isDeclaration (seen : Bytes) : Bool :=
  match seen.reverse with
  | 0x3F :: 0x78 :: 0x6D :: 0x6C :: [] => true
  | 0x3F :: 0x78 :: 0x6D :: 0x6C :: b :: _ => isBlank b || b == 0x3F
  | _ => false

/-- The tokens that the end of the document leaves. -/
def State.finish : State → List Token
  | .text seen => texts seen.reverse
  | .reference _ => [.fault .openReference]
  | .tag none _ => [.fault .openTag]
  | .tag (some quote) _ => [.fault (.openAttribute (Char.ofNat quote.toNat))]
  | .instruction seen =>
    [.fault (if isDeclaration seen then .openDeclaration else .openInstruction)]
  | .bang => [.fault .unknownMark]
  | .comment _ => [.fault .openComment]
  | .cdata _ => [.fault .openCdata]
  | .doctype _ _ => [.fault .openDoctype]

/-- The tokens that a byte completes, and the state after it; nothing follows a fault. -/
def State.step (s : State) (b : UInt8) : List Token × Option State :=
  let c := Char.ofNat b.toNat
  let stop (f : Fault) : List Token × Option State := ([.fault f], none)
  let go (tokens : List Token) (s : State) : List Token × Option State := (tokens, some s)
  match s with
  | .text seen =>
    if c = '<' then go (texts seen.reverse) (.tag none [])
    else if c = '&' then go (texts seen.reverse) (.reference [])
    else go [] (.text (b :: seen))
  | .reference seen =>
    if c = ';' then go [.reference seen.reverse] (.text [])
    else if c = '&' ∨ c = '<' then stop .openReference
    else go [] (.reference (b :: seen))
  | .tag none seen =>
    if seen = [] ∧ c = '!' then go [] .bang
    else if seen = [] ∧ c = '?' then go [] (.instruction [b])
    else if c = '>' then go (ofTag seen.reverse) (.text [])
    else go [] (.tag (quoteAfter b none) (b :: seen))
  | .tag (some quote) seen => go [] (.tag (quoteAfter b (some quote)) (b :: seen))
  | .instruction seen =>
    if c = '>' ∧ seen.head? = some 0x3F then
      if seen.length = 1 then stop .openInstruction else go [] (.text [])
    else go [] (.instruction (b :: seen))
  | .bang =>
    if c = '[' then go [] (.cdata [b, 0x21])
    else if c = '-' then go [] (.comment [b, 0x21])
    else if c = 'D' ∨ c = 'd' then go [] (.doctype (.head none) [b, 0x21])
    else stop .unknownMark
  | .comment seen =>
    if c = '>' ∧ 5 ≤ seen.length ∧ seen.take 2 = Utf8.bytes "--" then
      if seen.reverse.take 3 = Utf8.bytes "!--" then go [] (.text []) else stop .openComment
    else go [] (.comment (b :: seen))
  | .cdata seen =>
    if c = '>' ∧ seen.take 2 = Utf8.bytes "]]" then
      if seen.reverse.take 8 = Utf8.bytes "![CDATA[" then go [] (.text []) else stop .openCdata
    else go [] (.cdata (b :: seen))
  | .doctype part seen =>
    match part.next? b with
    | some next => go [] (.doctype next (b :: seen))
    | none =>
      match ofDoctype seen.reverse with
      | [] => go [] (.text [])
      | faults => (faults, none)

def scan (s : State) : Bytes → List Token
  | [] => s.finish
  | b :: r =>
    match s.step b with
    | (tokens, none) => tokens
    | (tokens, some next) => tokens ++ scan next r

/-- The tokens of a document; a byte order mark at its beginning does not count. -/
def ofBytes : Bytes → List Token
  | 0xEF :: 0xBB :: 0xBF :: r => scan (.text []) r
  | bs => scan (.text []) bs

end Token

end BucketAccess.Markup
