import BucketAccess.Number.Binary64

/-!
# JSON values

Whole numbers are kept apart from the others, which are doubles. A value that was read has the
members of its objects in ascending order of their keys.
-/

namespace BucketAccess

inductive Json.Number where
  | whole (n : Int)
  | double (x : Binary64)
  deriving DecidableEq, Repr

inductive Json where
  | null
  | bool (b : Bool)
  | number (n : Json.Number)
  | string (s : String)
  | array (items : List Json)
  | object (members : List (String × Json))

namespace Json

/-- Why a text is not the JSON of a value: it ends too early, it is no JSON, or it says something
else. -/
inductive Fault where
  | ended
  | syntactic
  | shape
  deriving DecidableEq, Repr

def Number.alike : Number → Number → Bool
  | .whole m, .whole n => m = n
  | .double x, .double y => x.alike y
  | _, _ => false

mutual

/-- Equality with both zeros alike. -/
def alike : Json → Json → Bool
  | .null, .null => true
  | .bool a, .bool b => a = b
  | .number a, .number b => a.alike b
  | .string a, .string b => a = b
  | .array a, .array b => alikeItems a b
  | .object a, .object b => alikeMembers a b
  | _, _ => false

def alikeItems : List Json → List Json → Bool
  | [], [] => true
  | a :: r, b :: s => alike a b && alikeItems r s
  | _, _ => false

def alikeMembers : List (String × Json) → List (String × Json) → Bool
  | [], [] => true
  | (k, a) :: r, (l, b) :: s => k = l && alike a b && alikeMembers r s
  | _, _ => false

end

end Json

end BucketAccess
