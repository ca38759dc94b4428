import BucketAccess.Json.Record
import BucketAccess.Json.Writer
import BucketAccess.Policy.Document

/-!
# Policies as JSON

Reading and writing policies. A list with one text may be written as that text; members that are not
known do not count. Writing leaves out a sid that is empty, and an id or a condition that is absent.
-/

namespace BucketAccess.Policy

open Json

/-! ## Writing -/

def Effect.name : Effect → String
  | .allow => "Allow"
  | .deny => "Deny"

def Principal.json : Principal → Json
  | .any name => .string name
  | .kinds names => .object (names.entries.map fun e => (e.1, ofStrings e.2))

def Statement.json (s : Statement) : Json :=
  .object (
    (if s.sid.isEmpty then [] else [("Sid", .string s.sid)]) ++
    [("Effect", .string s.effect.name), ("Principal", s.principal.json),
      ("Action", ofStrings s.actions), ("Resource", ofStrings s.resources)] ++
    s.condition.toList.map fun c => ("Condition", c))

def Document.json (d : Document) : Json :=
  .object (
    d.id.toList.map (fun id => ("Id", .string id)) ++
    [("Version", .string d.version), ("Statement", .array (d.statements.map Statement.json))])

def Document.toText (d : Document) : String := d.json.toText

/-! ## Reading -/

def Effect.ofName? : String → Option Effect
  | "Allow" => some .allow
  | "Deny" => some .deny
  | _ => none

def readEffectName (s : String) : Except Fault Effect :=
  match Effect.ofName? s with
  | some e => .ok e
  | none => .error .shape

/-- An effect is a name, or an object with the name as its only key, whose value is `null`. -/
def readEffect : Draft → Except Fault Effect
  | .string s => readEffectName s
  | .hole strict _ => .error strict
  | .object [] stop => .error (stop.getD .syntactic)
  | .object ((key, value) :: more) stop => do
    let e ← (key.readKey value).bind readEffectName
    match value with
    | .null =>
      if !more.isEmpty then .error .syntactic
      Draft.ofStop stop
      return e
    | value => .error value.mismatch
  | _ => .error .syntactic

/-- The texts of a text or of a list of texts. -/
def texts? : Draft → Option (List String)
  | .string s => some [s]
  | .array items _ => items.mapM fun
    | .string s => some s
    | _ => none
  | _ => none

def names? : List (Draft × Draft) → Option (List (String × List String))
  | [] => some []
  | (.string key, d) :: r => do
    let names ← texts? d
    let rest ← names? r
    return (key, names) :: rest
  | _ :: _ => none

def principal? : Draft → Option Principal
  | .string s => some (.any s)
  | .object members _ => (names? members).map fun names => .kinds (.ofList names)
  | _ => none

/-- Reads a value as a whole before its shape is looked at. -/
def readWhole {α : Type} (room : Nat) (shape : Draft → Option α) (d : Draft) : Except Fault α := do
  let _ ← d.read room
  match shape d with
  | some a => return a
  | none => .error .shape

/-- A statement in part. -/
structure StatementParts where
  sid : Option String := none
  effect : Option Effect := none
  principal : Option Principal := none
  actions : Option (List String) := none
  resources : Option (List String) := none
  condition : Option (Option Json) := none

def statementFields (room : Nat) : List (RecordField StatementParts) := [
  field "Sid" (·.sid) (fun p v => { p with sid := some v }) readString,
  field "Effect" (·.effect) (fun p v => { p with effect := some v }) readEffect,
  field "Principal" (·.principal) (fun p v => { p with principal := some v })
    (readWhole room principal?),
  field "Action" (·.actions) (fun p v => { p with actions := some v }) (readWhole room texts?),
  field "Resource" (·.resources) (fun p v => { p with resources := some v })
    (readWhole room texts?),
  field "Condition" (·.condition) (fun p v => { p with condition := some v })
    (readOptional (·.read room))]

def StatementParts.statement? (p : StatementParts) : Option Statement := do
  let effect ← p.effect
  let principal ← p.principal
  let actions ← p.actions
  let resources ← p.resources
  return ⟨p.sid.getD "", effect, principal, actions, resources, p.condition.join⟩

/-- Reads a statement; `room` more containers may be nested in its values. -/
def readStatement (room : Nat) : Draft → Except Fault Statement :=
  readRecord (statementFields room) {} StatementParts.statement?

structure DocumentParts where
  id : Option (Option String) := none
  version : Option String := none
  statements : Option (List Statement) := none

/-- At most this many containers are nested in a text. -/
def depthLimit : Nat := 127

def documentFields : List (RecordField DocumentParts) := [
  field "Id" (·.id) (fun p v => { p with id := some v }) (readOptional readString),
  field "Version" (·.version) (fun p v => { p with version := some v }) readString,
  field "Statement" (·.statements) (fun p v => { p with statements := some v })
    (readList (readStatement (depthLimit - 3)))]

def DocumentParts.document? (p : DocumentParts) : Option Document := do
  let version ← p.version
  return ⟨p.id.join, version, p.statements.getD []⟩

def Statement.ofText (s : String) : Except Fault Statement :=
  readText (readStatement (depthLimit - 1)) s

def Document.ofText (s : String) : Except Fault Document :=
  readText (readRecord documentFields {} DocumentParts.document?) s

end BucketAccess.Policy
