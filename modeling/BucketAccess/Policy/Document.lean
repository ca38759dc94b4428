import BucketAccess.Json.Value
import BucketAccess.Policy.AccessModel
import BucketAccess.SortedMap

/-!
# Bucket policies

A policy is a list of statements, known by their sids. Merging a statement puts it in the place of
those with its sid, or at the end if there are none; removing takes all statements of a sid away.
-/

namespace BucketAccess.Policy

inductive Effect where
  | allow
  | deny
  deriving DecidableEq, Repr

/-- Whom a statement is about: a text such as `*`, or lists of names by kind. -/
inductive Principal where
  | any (name : String)
  | kinds (names : SortedMap (List String))
  deriving DecidableEq

structure Statement where
  sid : String
  effect : Effect
  principal : Principal
  actions : List String
  resources : List String
  condition : Option Json

structure Document where
  id : Option String
  version : String
  statements : List Statement

/-- The principals with these locators. -/
def Principal.locators (names : List String) : Principal :=
  .kinds (SortedMap.empty.insert "AWS" names)

/-- The statement that allows a principal what the model says on a bucket. -/
def Statement.grant (sid locator : String) (model : AccessModel) (bucket : String) : Statement :=
  { sid := sid
    effect := .allow
    principal := .locators [locator]
    actions := model.actions
    resources := [bucketLocator bucket, objectsLocator bucket]
    condition := none }

/-- Equality up to the sign of zeros in conditions. -/
def Statement.alike (s t : Statement) : Bool :=
  s.sid = t.sid && s.effect = t.effect && s.principal = t.principal && s.actions = t.actions &&
    s.resources = t.resources &&
    match s.condition, t.condition with
    | none, none => true
    | some a, some b => a.alike b
    | _, _ => false

namespace Document

def empty : Document := ⟨none, "2012-10-17", []⟩

def isEmpty (d : Document) : Bool := d.statements.isEmpty

def contains (d : Document) (sid : String) : Bool := d.statements.any (·.sid = sid)

def merge (d : Document) (s : Statement) : Document :=
  { d with
    statements :=
      if d.contains s.sid then d.statements.map fun t => if t.sid = s.sid then s else t
      else d.statements ++ [s] }

def remove (d : Document) (sid : String) : Document :=
  { d with statements := d.statements.filter (·.sid ≠ sid) }

def alike (d e : Document) : Bool :=
  d.id = e.id && d.version = e.version && d.statements.length = e.statements.length &&
    (d.statements.zip e.statements).all fun p => p.1.alike p.2

end Document

end BucketAccess.Policy
