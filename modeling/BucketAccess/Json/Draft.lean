import BucketAccess.Json.Value

/-!
# Drafts of JSON

A JSON text as far as it can be read. What a text says depends on who reads it: a value that nobody
needs is only passed over, which forgives numbers too large for a double, halves of surrogate pairs
and deep nesting, while a value that is needed is read strictly. A draft holds enough for both, and
for telling which fault of the text comes first.
-/

namespace BucketAccess.Json

inductive Draft where
  | null
  | bool (b : Bool)
  | number (n : Number)
  | string (s : String)
  /-- A scalar that can be passed over but not read. -/
  | loose
  /-- After each comma there is a further item, if only a hole. `stop` says why no more items follow
  the last, unless it is the closing bracket. -/
  | array (items : List Draft) (stop : Option Fault)
  /-- A key that is no string has a hole for its value. -/
  | object (members : List (Draft × Draft)) (stop : Option Fault)
  /-- The text breaks off here, or in a string that begins here: the faults for a strict reader and
  for one who passes over. -/
  | hole (strict lax : Fault)
  /-- As `hole`, in a word or a number. -/
  | fragment (strict lax : Fault)

namespace Draft

/-- The fault of a text that has something else where a scalar or a container of another kind is
expected. -/
def mismatch : Draft → Fault
  | .loose => .syntactic
  | .hole strict _ | .fragment strict _ => strict
  | _ => .shape

def ofStop : Option Fault → Except Fault Unit
  | none => .ok ()
  | some f => .error f

/-! ## Passing over -/

mutual

def skip : Draft → Except Fault Unit
  | .array items stop => do skipItems items; ofStop stop
  | .object members stop => do skipMembers members; ofStop stop
  | .hole _ lax | .fragment _ lax => .error lax
  | _ => .ok ()

def skipItems : List Draft → Except Fault Unit
  | [] => .ok ()
  | d :: r => do skip d; skipItems r

def skipMembers : List (Draft × Draft) → Except Fault Unit
  | [] => .ok ()
  | (_, d) :: r => do skip d; skipMembers r

end

/-! ## Reading strictly -/

/-- The key of a member; `value` says what is wrong after a key that is no string. -/
def readKey (key value : Draft) : Except Fault String :=
  match key, value with
  | .string s, _ => .ok s
  | .loose, _ => .error .syntactic
  | _, .hole strict _ => .error strict
  | _, _ => .error .syntactic

/-- A member in its place among members in ascending order, in place of one with its key. -/
def insertMember (key : String) (value : Json) : List (String × Json) → List (String × Json)
  | [] => [(key, value)]
  | (k, v) :: r =>
    if key < k then (key, value) :: (k, v) :: r
    else if k < key then (k, v) :: insertMember key value r
    else (key, value) :: r

mutual

/-- The value, if at most `room` containers are nested in it. -/
def read (room : Nat) : Draft → Except Fault Json
  | .null => .ok .null
  | .bool b => .ok (.bool b)
  | .number n => .ok (.number n)
  | .string s => .ok (.string s)
  | .loose => .error .syntactic
  | .hole strict _ | .fragment strict _ => .error strict
  | .array items stop =>
    match room with
    | 0 => .error .syntactic
    | room + 1 => do
      let items ← readItems room items
      ofStop stop
      return .array items
  | .object members stop =>
    match room with
    | 0 => .error .syntactic
    | room + 1 => do
      let members ← readMembers room [] members
      ofStop stop
      return .object members

def readItems (room : Nat) : List Draft → Except Fault (List Json)
  | [] => .ok []
  | d :: r => do
    let item ← read room d
    let items ← readItems room r
    return item :: items

/-- The members, added to those in `sofar`; of two with one key the later counts. -/
def readMembers (room : Nat) (sofar : List (String × Json)) :
    List (Draft × Draft) → Except Fault (List (String × Json))
  | [] => .ok sofar
  | (key, d) :: r => do
    let key ← readKey key d
    let value ← read room d
    readMembers room (insertMember key value sofar) r

end

end Draft

end BucketAccess.Json
