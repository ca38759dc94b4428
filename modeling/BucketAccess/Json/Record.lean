import BucketAccess.Json.Reader

/-!
# Records in JSON

A record is written as an object with its fields as members, of which unknown ones are passed over,
or as an array of its fields in their order. The fault that comes first in the text counts.
-/

namespace BucketAccess.Json

def readString : Draft → Except Fault String
  | .string s => .ok s
  | d => .error d.mismatch

/-- A whole number up to `bound`. -/
def readNat (bound : Nat) : Draft → Except Fault Nat
  | .number (.whole n) => if 0 ≤ n ∧ n ≤ bound then .ok n.toNat else .error .shape
  | d => .error d.mismatch

/-- Nothing for `null`. -/
def readOptional {α : Type} (reader : Draft → Except Fault α) : Draft → Except Fault (Option α)
  | .null => .ok none
  | d => some <$> reader d

def readItems {α : Type} (reader : Draft → Except Fault α) : List Draft → Except Fault (List α)
  | [] => .ok []
  | d :: r => do
    let item ← reader d
    let items ← readItems reader r
    return item :: items

def readList {α : Type} (reader : Draft → Except Fault α) : Draft → Except Fault (List α)
  | .array items stop => do
    let items ← readItems reader items
    Draft.ofStop stop
    return items
  | d => .error d.mismatch

/-! ## Fields -/

/-- A field of a record that is read in part: `set` reads its value. -/
structure RecordField (α : Type) where
  name : String
  isSet : α → Bool
  set : α → Draft → Except Fault α

/-- A field that is kept as an optional value. -/
def field {α β : Type} (name : String) (get : α → Option β) (put : α → β → α)
    (reader : Draft → Except Fault β) : RecordField α where
  name := name
  isSet a := (get a).isSome
  set a d := put a <$> reader d

def readMembers {α : Type} (fields : List (RecordField α)) (a : α) :
    List (Draft × Draft) → Except Fault α
  | [] => .ok a
  | (key, d) :: r => do
    let name ← Draft.readKey key d
    match fields.find? (·.name == name) with
    | none =>
      d.skip
      readMembers fields a r
    | some f =>
      if f.isSet a then .error .shape
      else readMembers fields (← f.set a d) r

/-- Items without a field are too many. -/
def readFields {α : Type} (a : α) : List (RecordField α) → List Draft → Except Fault α
  | _, [] => .ok a
  | [], _ :: _ => .error .syntactic
  | f :: fields, d :: r => do readFields (← f.set a d) fields r

/-- Reads a record from `start`, where no field is set; `finish` fails if a field is missing that
has to be there. -/
def readRecord {α β : Type} (fields : List (RecordField α)) (start : α) (finish : α → Option β) :
    Draft → Except Fault β
  | .object members stop => do
    let a ← readMembers fields start members
    Draft.ofStop stop
    match finish a with
    | some b => return b
    | none => .error .shape
  | .array items stop => do
    let a ← readFields start fields items
    Draft.ofStop stop
    match finish a with
    | some b => return b
    | none => .error .shape
  | d => .error d.mismatch

end BucketAccess.Json
