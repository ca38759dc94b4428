/-!
# Sorted maps

Finite maps from texts, kept as the list of their entries with ascending keys. Keys are ordered
character by character, which is also the order of their bytes. So two maps are equal when they hold
the same entries.
-/

namespace BucketAccess

/-! ## Entries in order -/

def Ascending {α : Type} (entries : List (String × α)) : Prop :=
  entries.Pairwise fun a b => a.1 < b.1

def insertEntry {α : Type} (key : String) (value : α) : List (String × α) → List (String × α)
  | [] => [(key, value)]
  | (k, v) :: r =>
    if key < k then (key, value) :: (k, v) :: r
    else if k < key then (k, v) :: insertEntry key value r
    else (key, value) :: r

theorem mem_insertEntry {α : Type} {key : String} {value : α} {e : String × α} :
    {entries : List (String × α)} → e ∈ insertEntry key value entries →
      e = (key, value) ∨ e ∈ entries
  | [], h => by simpa [insertEntry] using h
  | (k, v) :: r, h => by
    unfold insertEntry at h
    split at h
    · simpa using h
    · split at h
      · rcases List.mem_cons.1 h with h | h
        · simp [h]
        · rcases mem_insertEntry h with h | h <;> simp [h]
      · rcases List.mem_cons.1 h with h | h <;> simp [h]

theorem key_eq_of_not_lt {a b : String} (h : ¬a < b) (h' : ¬b < a) : a = b :=
  String.le_antisymm (String.not_lt.1 h') (String.not_lt.1 h)

theorem Ascending.insertEntry {α : Type} {key : String} {value : α} :
    {entries : List (String × α)} → Ascending entries →
      Ascending (insertEntry key value entries)
  | [], _ => by simp [Ascending, BucketAccess.insertEntry]
  | (k, v) :: r, h => by
    have ⟨first, rest⟩ := List.pairwise_cons.1 h
    unfold BucketAccess.insertEntry
    split
    case isTrue before =>
      refine List.pairwise_cons.2 ⟨fun e he => ?_, h⟩
      rcases List.mem_cons.1 he with rfl | he
      · exact before
      · exact String.lt_trans before (first e he)
    case isFalse notBefore =>
      split
      case isTrue after =>
        refine List.pairwise_cons.2 ⟨fun e he => ?_, Ascending.insertEntry rest⟩
        rcases mem_insertEntry he with rfl | he
        · exact after
        · exact first e he
      case isFalse notAfter =>
        obtain rfl := key_eq_of_not_lt notBefore notAfter
        exact List.pairwise_cons.2 ⟨first, rest⟩

/-! ## Maps -/

structure SortedMap (α : Type) where
  entries : List (String × α)
  ascending : Ascending entries

namespace SortedMap

variable {α : Type}

def empty : SortedMap α := ⟨[], List.Pairwise.nil⟩

/-- The map with this value under the key, in place of the value before. -/
def insert (m : SortedMap α) (key : String) (value : α) : SortedMap α :=
  ⟨insertEntry key value m.entries, m.ascending.insertEntry⟩

def erase (m : SortedMap α) (key : String) : SortedMap α :=
  ⟨m.entries.filter (·.1 != key), m.ascending.filter _⟩

def get? (m : SortedMap α) (key : String) : Option α := m.entries.lookup key

def isEmpty (m : SortedMap α) : Bool := m.entries.isEmpty

/-- Of two entries with one key the later counts. -/
def ofList (entries : List (String × α)) : SortedMap α :=
  entries.foldl (fun m e => m.insert e.1 e.2) empty

theorem ext {m n : SortedMap α} (h : m.entries = n.entries) : m = n := by
  cases m; cases n; congr

instance [DecidableEq α] : DecidableEq (SortedMap α) := fun m n =>
  if h : m.entries = n.entries then isTrue (ext h) else isFalse fun e => h (congrArg entries e)

end SortedMap

end BucketAccess
