import BucketAccess.Policy.Document

/-!
# Statements of a policy

What merging and removing do to the list of statements, seen by sid: which statements they leave as
they are, and which sids there are afterwards. Comparing a policy with what a removal leaves of it
tells whether it had a statement of the sid.
-/

namespace BucketAccess

/-! ## Likeness -/

theorem Binary64.alike_refl (x : Binary64) : x.alike x = true := by simp [alike]

theorem Json.Number.alike_refl (n : Json.Number) : n.alike n = true := by
  cases n with
  | whole => simp [alike]
  | double x => exact x.alike_refl

namespace Json

mutual

theorem alike_refl : (a : Json) → alike a a = true
  | .null => rfl
  | .bool _ => by simp [alike]
  | .number n => by simpa [alike] using n.alike_refl
  | .string _ => by simp [alike]
  | .array items => by simpa [alike] using alikeItems_refl items
  | .object members => by simpa [alike] using alikeMembers_refl members

theorem alikeItems_refl : (items : List Json) → alikeItems items items = true
  | [] => rfl
  | a :: r => by simp [alikeItems, alike_refl a, alikeItems_refl r]

theorem alikeMembers_refl : (members : List (String × Json)) → alikeMembers members members = true
  | [] => rfl
  | (k, a) :: r => by simp [alikeMembers, alike_refl a, alikeMembers_refl r]

end

end Json

namespace Policy

theorem Statement.alike_refl (s : Statement) : s.alike s = true := by
  unfold alike
  cases s.condition <;> simp [Json.alike_refl]

namespace Document

variable {d : Document} {s : Statement} {sid : String} {q : String → Bool}

theorem alike_refl (d : Document) : d.alike d = true := by
  have h : ∀ l : List Statement, (l.zip l).all (fun p => p.1.alike p.2) = true := by
    intro l
    induction l with
    | nil => rfl
    | cons a r ih => simp [List.zip_cons_cons, a.alike_refl, ih]
  simp [alike, h]

/-! ## Removal -/

theorem remove_eq_self (h : ∀ t ∈ d.statements, t.sid ≠ sid) : d.remove sid = d := by
  have : d.statements.filter (·.sid ≠ sid) = d.statements :=
    List.filter_eq_self.2 fun t ht => by simpa using h t ht
  unfold remove
  rw [this]

theorem remove_alike_iff : (d.remove sid).alike d = true ↔ ∀ t ∈ d.statements, t.sid ≠ sid := by
  constructor
  · intro h
    simp only [alike, remove, Bool.and_eq_true, decide_eq_true_eq] at h
    have := List.length_filter_eq_length_iff.1 (of_decide_eq_true h.1.2)
    intro t ht
    simpa using this t ht
  · intro h
    rw [remove_eq_self h]
    exact d.alike_refl

theorem remove_isEmpty_iff : (d.remove sid).isEmpty = true ↔ ∀ t ∈ d.statements, t.sid = sid := by
  simp [isEmpty, remove]

/-! ## Merging -/

theorem filter_merge (h : q s.sid = false) :
    (d.merge s).statements.filter (fun t => q t.sid) = d.statements.filter (fun t => q t.sid) := by
  unfold merge
  simp only
  split
  · induction d.statements with
    | nil => rfl
    | cons t r ih =>
      by_cases ht : t.sid = s.sid
      · simp [ht, h, ih]
      · simp [ht, List.filter_cons, ih]
  · simp [h]

theorem statements_merge_ne_nil : (d.merge s).statements ≠ [] := by
  unfold merge
  simp only
  split
  · next h =>
    intro hn
    simp only [List.map_eq_nil_iff] at hn
    simp [contains, hn] at h
  · simp

theorem map_sid_merge : (d.merge s).statements.map (·.sid) =
    if d.contains s.sid then d.statements.map (·.sid) else d.statements.map (·.sid) ++ [s.sid] := by
  unfold merge
  simp only
  split
  · rw [List.map_map]
    refine List.map_congr_left fun t _ => ?_
    by_cases ht : t.sid = s.sid <;> simp [ht]
  · simp

/-- The statements of the sid are all the merged one. -/
theorem eq_of_mem_merge {t : Statement} (ht : t ∈ (d.merge s).statements) (hs : t.sid = s.sid) :
    t = s := by
  unfold merge at ht
  simp only at ht
  split at ht
  · obtain ⟨x, -, rfl⟩ := List.mem_map.1 ht
    by_cases hx : x.sid = s.sid
    · simp [hx]
    · simp [hx] at hs
  · next hc =>
    rcases List.mem_append.1 ht with ht | ht
    · simp only [contains, List.any_eq_true, not_exists] at hc
      exact absurd (by simpa using hs) (fun h => hc t ⟨ht, by simpa using h⟩)
    · simpa using ht

theorem mem_merge : s ∈ (d.merge s).statements := by
  unfold merge
  simp only
  split
  · next h =>
    simp only [contains, List.any_eq_true] at h
    obtain ⟨t, ht, hs⟩ := h
    exact List.mem_map.2 ⟨t, ht, by simp [by simpa using hs]⟩
  · simp

theorem merge_merge : (d.merge s).merge s = d.merge s := by
  have hc : (d.merge s).contains s.sid = true := by
    simp only [contains, List.any_eq_true]
    exact ⟨s, mem_merge, by simp⟩
  have hid : ∀ t ∈ (d.merge s).statements, (if t.sid = s.sid then s else t) = t := by
    intro t ht
    by_cases hs : t.sid = s.sid
    · simp [eq_of_mem_merge ht hs]
    · simp [hs]
  rw [merge, if_pos hc, List.map_congr_left hid, List.map_id']

end Document

end Policy

end BucketAccess
