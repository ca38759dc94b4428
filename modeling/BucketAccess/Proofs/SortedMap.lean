import BucketAccess.SortedMap
import Mathlib.Data.List.Perm.Basic

/-!
# Sorted maps from entries in any order

Entries that are put in one after the other make the same map in whatever order they come, as long
as no two have one key.
-/

namespace BucketAccess

variable {α : Type} {key : String} {value : α} {entries l m : List (String × α)}

/-- A new key only adds an entry. -/
theorem insertEntry_perm (h : ∀ e ∈ entries, e.1 ≠ key) :
    (insertEntry key value entries).Perm ((key, value) :: entries) := by
  induction entries with
  | nil => exact .refl _
  | cons e r ih =>
    rw [List.forall_mem_cons] at h
    unfold insertEntry
    split
    · exact .refl _
    · next notBefore =>
      split
      · exact ((ih h.2).cons e).trans (.swap (key, value) e r)
      · next notAfter => exact absurd (key_eq_of_not_lt notBefore notAfter).symm h.1

/-- Only one order is ascending. -/
theorem Ascending.eq_of_perm (hl : Ascending l) (hm : Ascending m) (h : l.Perm m) : l = m :=
  h.eq_of_pairwise (fun _ _ _ _ before after => absurd after (String.lt_asymm before)) hl hm

theorem Ascending.nodup_keys (h : Ascending entries) : (entries.map Prod.fst).Nodup :=
  List.pairwise_map.2 (h.imp fun before => String.ne_of_lt before)

/-- Entries with new keys that are put in are added, and the order stays ascending. -/
theorem foldl_insertEntry_perm (hm : Ascending m) (h : ((l ++ m).map Prod.fst).Nodup) :
    Ascending (l.foldl (fun m e => insertEntry e.1 e.2 m) m) ∧
      (l.foldl (fun m e => insertEntry e.1 e.2 m) m).Perm (l ++ m) := by
  induction l generalizing m with
  | nil => exact ⟨hm, .refl _⟩
  | cons e l ih =>
    have new : ∀ x ∈ m, x.1 ≠ e.1 := by
      intro x hx same
      rw [List.cons_append, List.map_cons, List.nodup_cons] at h
      exact h.1 (List.mem_map.2 ⟨x, List.mem_append_right l hx, same⟩)
    have put : (insertEntry e.1 e.2 m).Perm (e :: m) := insertEntry_perm new
    have moved : (l ++ insertEntry e.1 e.2 m).Perm (e :: l ++ m) :=
      (put.append_left l).trans List.perm_middle
    obtain ⟨ascending, perm⟩ := ih hm.insertEntry ((moved.map Prod.fst).nodup_iff.2 h)
    exact ⟨ascending, perm.trans moved⟩

theorem foldl_insertEntry_eq (hm : Ascending m) (h : l.Perm m) :
    l.foldl (fun m e => insertEntry e.1 e.2 m) [] = m := by
  have nodup : ((l ++ []).map Prod.fst).Nodup := by
    rw [List.append_nil]
    exact (h.map Prod.fst).nodup_iff.2 hm.nodup_keys
  obtain ⟨ascending, perm⟩ := foldl_insertEntry_perm List.Pairwise.nil nodup
  rw [List.append_nil] at perm
  exact ascending.eq_of_perm hm (perm.trans h)

theorem SortedMap.entries_foldl_insert (m : SortedMap α) :
    (l.foldl (fun m e => m.insert e.1 e.2) m).entries =
      l.foldl (fun m e => insertEntry e.1 e.2 m) m.entries := by
  induction l generalizing m with
  | nil => rfl
  | cons e l ih => exact ih (m.insert e.1 e.2)

/-! ## One key -/

theorem lookup_insertEntry_self : (insertEntry key value entries).lookup key = some value := by
  induction entries with
  | nil => simp [insertEntry]
  | cons e r ih =>
    obtain ⟨k, v⟩ := e
    unfold insertEntry
    split
    case isTrue => rw [List.lookup_cons_self]
    case isFalse =>
      split
      case isTrue after =>
        have hne : (key == k) = false := by simpa using Ne.symm (String.ne_of_lt after)
        rw [List.lookup_cons, hne]
        exact ih
      case isFalse => rw [List.lookup_cons_self]

theorem lookup_insertEntry_of_ne {k : String} (h : k ≠ key) :
    (insertEntry key value entries).lookup k = entries.lookup k := by
  have hne : (k == key) = false := by simpa using h
  induction entries with
  | nil => simp [insertEntry, List.lookup_cons, hne]
  | cons e r ih =>
    obtain ⟨k', v⟩ := e
    unfold insertEntry
    split
    case isTrue => rw [List.lookup_cons, hne]
    case isFalse notBefore =>
      split
      case isTrue => rw [List.lookup_cons, ih, ← List.lookup_cons]
      case isFalse notAfter =>
        rw [← key_eq_of_not_lt notBefore notAfter, List.lookup_cons, List.lookup_cons, hne]

theorem filter_insertEntry :
    (insertEntry key value entries).filter (·.1 != key) = entries.filter (·.1 != key) := by
  induction entries with
  | nil => simp [insertEntry]
  | cons e r ih =>
    unfold insertEntry
    split
    case isTrue => rw [List.filter_cons_of_neg (by simp)]
    case isFalse notBefore =>
      split
      case isTrue => rw [List.filter_cons, List.filter_cons, ih]
      case isFalse notAfter =>
        have same := key_eq_of_not_lt notBefore notAfter
        rw [List.filter_cons_of_neg (by simp), List.filter_cons_of_neg (by simpa using same.symm)]

namespace SortedMap

variable {m : SortedMap α} {k : String}

@[simp] theorem get?_insert_self (m : SortedMap α) (key : String) (value : α) :
    (m.insert key value).get? key = some value := lookup_insertEntry_self

theorem get?_insert_of_ne (h : k ≠ key) : (m.insert key value).get? k = m.get? k :=
  lookup_insertEntry_of_ne h

theorem get?_erase_of_ne (h : k ≠ key) : (m.erase key).get? k = m.get? k := by
  show (m.entries.filter (·.1 != key)).lookup k = m.entries.lookup k
  induction m.entries with
  | nil => rfl
  | cons e r ih =>
    by_cases he : e.1 = key
    · have hne : (k == e.1) = false := by simpa [he] using h
      rw [List.filter_cons_of_neg (by simpa using he), ih, List.lookup_cons, hne]
    · rw [List.filter_cons_of_pos (by simpa using he), List.lookup_cons, ih, ← List.lookup_cons]

theorem get?_insert (m : SortedMap α) (key : String) (value : α) (k : String) :
    (m.insert key value).get? k = if k = key then some value else m.get? k := by
  split
  case isTrue h => rw [h, get?_insert_self]
  case isFalse h => exact get?_insert_of_ne h

theorem get?_erase (m : SortedMap α) (key k : String) :
    (m.erase key).get? k = if k = key then none else m.get? k := by
  split
  case isTrue h =>
    refine List.lookup_eq_none_iff.2 fun e he => ?_
    have hne := (List.mem_filter.1 he).2
    rw [h]
    simpa using Ne.symm (bne_iff_ne.1 hne)
  case isFalse h => exact get?_erase_of_ne h

/-- Nothing is left of what was put in under the key. -/
theorem erase_insert (m : SortedMap α) (key : String) (value : α) :
    (m.insert key value).erase key = m.erase key := ext filter_insertEntry

@[simp] theorem erase_erase (m : SortedMap α) (key : String) :
    (m.erase key).erase key = m.erase key :=
  ext (by simp [erase])

end SortedMap

/-! ## All keys -/

theorem Ascending.lookup_eq_some_iff (h : Ascending entries) :
    entries.lookup key = some value ↔ (key, value) ∈ entries := by
  induction entries with
  | nil => simp
  | cons e r ih =>
    obtain ⟨k, v⟩ := e
    obtain ⟨first, rest⟩ := List.pairwise_cons.1 h
    by_cases same : key = k
    · subst same
      have later : (key, value) ∉ r := fun hr =>
        String.lt_irrefl key (first (key, value) hr)
      rw [List.lookup_cons_self, List.mem_cons, or_iff_left later, Option.some.injEq,
        Prod.mk.injEq, and_iff_right rfl, eq_comm]
    · have hne : (key == k) = false := by simpa using same
      have notFirst : (key, value) ≠ (k, v) := fun he => same (Prod.mk.inj he).1
      rw [List.lookup_cons, hne, List.mem_cons, or_iff_right notFirst]
      exact ih rest

/-- Two maps are equal if they hold the same under every key. -/
theorem SortedMap.ext_get? {m n : SortedMap α} (h : ∀ key, m.get? key = n.get? key) : m = n := by
  have nodup : ∀ m : SortedMap α, m.entries.Nodup :=
    fun m =>
    m.ascending.imp fun before same => String.ne_of_lt before (congrArg Prod.fst same)
  have perm : m.entries.Perm n.entries := by
    refine (List.perm_ext_iff_of_nodup (nodup m) (nodup n)).2 fun e => ?_
    rw [← m.ascending.lookup_eq_some_iff, ← n.ascending.lookup_eq_some_iff]
    exact iff_of_eq (congrArg (· = some e.2) (h e.1))
  exact ext (m.ascending.eq_of_perm n.ascending perm)

/-- A map is made from its entries in any order. -/
theorem SortedMap.ofList_eq {m : SortedMap α} (h : l.Perm m.entries) : ofList l = m :=
  ext ((entries_foldl_insert empty).trans (foldl_insertEntry_eq m.ascending h))

end BucketAccess
