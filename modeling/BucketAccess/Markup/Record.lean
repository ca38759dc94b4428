import BucketAccess.Markup.Event
import BucketAccess.Markup.Reference

/-!
# Records in markup

A document type fixes the root element and, below it, which elements hold text and which hold
further elements; the rest is passed over. Reading gives the known parts in document order. An
element that holds text ends at the first end tag in it, and the start tags in it do not count.
-/

namespace BucketAccess.Markup

inductive Layout where
  | text
  | group (children : List (String × Layout))

inductive Part where
  | text (name content : String)
  | group (name : String) (parts : List Part)

/-- Where a document ended too early. -/
inductive Place where
  | group (name : String)
  | text
  | passedOver
  deriving DecidableEq, Repr

inductive Error where
  | malformed (f : Fault)
  | missing (path : String)
  | otherRoot (expected found : String)
  | ended (place : Place)
  | badValue (reason : String)
  deriving DecidableEq, Repr

def Error.message : Error → String
  | .malformed f => "XML processing error: " ++ f.message
  | .missing path => "missing required XML element: " ++ path
  | .otherRoot expected found =>
    "unexpected XML element: expected <" ++ expected ++ ">, found <" ++ found ++ ">"
  | .ended (.group name) => "unexpected XML element: unexpected EOF in " ++ name
  | .ended .text => "unexpected XML element: unexpected EOF while reading text content"
  | .ended .passedOver => "unexpected XML element: unexpected EOF while skipping element"
  | .badValue reason => "failed to parse value: " ++ reason

/-! ## Values -/

def readName (name : Bytes) : Except Error String :=
  (Utf8.strict name).mapError fun e => .badValue e.message

def readText (content : Bytes) : Except Error String :=
  (Utf8.strict content).mapError fun e =>
    .badValue ("cannot decode input using UTF-8: " ++ e.message)

def readReference (content : Bytes) : Except Error Char := do
  let s ← readText content
  (resolve s.toList).mapError fun e => .badValue e.message

/-! ## Reading -/

/-- An element whose end has not been reached, with its known parts so far, the last first. -/
structure Frame where
  name : String
  children : List (String × Layout)
  parts : List Part

inductive Mode where
  | children
  /-- In the text of the element `name`. -/
  | text (name : String) (content : String)
  /-- In `depth + 1` elements that are passed over. -/
  | passOver (depth : Nat)

def Frame.add (f : Frame) (p : Part) : Frame := { f with parts := p :: f.parts }

def Frame.part (f : Frame) : Part := .group f.name f.parts.reverse

/-- Reads up to the end tag of the outermost frame. -/
def read (inner : Frame) (outer : List Frame) (mode : Mode) : List Event → Except Error (List Part)
  | [] =>
    match mode with
    | .children => .error (.ended (.group inner.name))
    | .text _ _ => .error (.ended .text)
    | .passOver _ => .error (.ended .passedOver)
  | .fault f :: _ => .error (.malformed f)
  | .start tag :: r =>
    match mode with
    | .children =>
      match readName tag with
      | .error e => .error e
      | .ok name =>
        match inner.children.lookup name with
        | some .text => read inner outer (.text name "") r
        | some (.group children) => read ⟨name, children, []⟩ (inner :: outer) .children r
        | none => read inner outer (.passOver 0) r
    | .text name content => read inner outer (.text name content) r
    | .passOver depth => read inner outer (.passOver (depth + 1)) r
  | .stop :: r =>
    match mode with
    | .children =>
      match outer with
      | [] => .ok inner.parts.reverse
      | next :: outer => read (next.add inner.part) outer .children r
    | .text name content => read (inner.add (.text name content)) outer .children r
    | .passOver 0 => read inner outer .children r
    | .passOver (depth + 1) => read inner outer (.passOver depth) r
  | .text raw :: r =>
    match mode with
    | .text name content =>
      match readText raw with
      | .error e => .error e
      | .ok more => read inner outer (.text name (content ++ more)) r
    | mode => read inner outer mode r
  | .reference raw :: r =>
    match mode with
    | .text name content =>
      match readReference raw with
      | .error e => .error e
      | .ok c => read inner outer (.text name (content.push c)) r
    | mode => read inner outer mode r

/-- Reads the root element, which must be the first element. -/
def readRoot (name : String) (children : List (String × Layout)) :
    List Event → Except Error (List Part)
  | [] => .error (.missing name)
  | .fault f :: _ => .error (.malformed f)
  | .start tag :: r =>
    if tag = Utf8.bytes name then read ⟨name, children, []⟩ [] .children r
    else .error (.otherRoot name (Utf8.lossy tag))
  | .stop :: r | .text _ :: r | .reference _ :: r => readRoot name children r

def readDocument (name : String) (children : List (String × Layout)) (document : Bytes) :
    Except Error (List Part) :=
  readRoot name children (Event.ofBytes document)

/-! ## Looking up parts -/

/-- The contents of the text elements of this name. -/
def textsNamed (name : String) (parts : List Part) : List String :=
  parts.filterMap fun
    | .text n content => if n = name then some content else none
    | .group _ _ => none

/-- The parts of each element of this name. -/
def groupsNamed (name : String) (parts : List Part) : List (List Part) :=
  parts.filterMap fun
    | .group n inner => if n = name then some inner else none
    | .text _ _ => none

/-- The last text of this name. -/
def lastText? (name : String) (parts : List Part) : Option String :=
  (textsNamed name parts).getLast?

/-- The last text of this name, or nothing written. -/
def lastText (name : String) (parts : List Part) : String := (lastText? name parts).getD ""

/-- The last element of this name. -/
def lastGroup? (name : String) (parts : List Part) : Option (List Part) :=
  (groupsNamed name parts).getLast?

/-- The parts of all elements of this name together. -/
def allGroups (name : String) (parts : List Part) : List Part := (groupsNamed name parts).flatten

def texts (names : List String) : List (String × Layout) := names.map fun n => (n, .text)

end BucketAccess.Markup
