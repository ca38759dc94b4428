import Mathlib.Data.List.Basic
import Mathlib.Data.List.Forall2

/-!
# Texts in pieces

What lies between the separators of a text or before the first of them, texts with separators
between them, and pieces that are read one by one.
-/

namespace BucketAccess.Text

variable {separator c : Char} {s piece : List Char} {pieces : List (List Char)}

theorem one_le_length_splitOn (separator : Char) (s : List Char) :
    1 ≤ (s.splitOn separator).length :=
  List.length_pos_iff.2 (List.splitOn_ne_nil separator s)

/-- There is one piece more than separators. -/
theorem length_splitOn (separator : Char) (s : List Char) :
    (s.splitOn separator).length = s.count separator + 1 := by
  induction s with
  | nil => rfl
  | cons x s ih =>
    rw [List.splitOn_cons_eq_if_modifyHead, List.count_cons]
    split
    · rw [List.length_cons, ih]
    · rw [List.length_modifyHead, ih, Nat.add_zero]

theorem of_mem_splitOn (h : piece ∈ s.splitOn separator) : separator ∉ piece ∧ piece ⊆ s := by
  induction s generalizing piece with
  | nil =>
    rw [List.splitOn_nil, List.mem_singleton] at h
    rw [h]
    exact ⟨List.not_mem_nil, List.Subset.refl _⟩
  | cons x s ih =>
    rw [List.splitOn_cons_eq_if_modifyHead] at h
    split at h
    · rcases List.mem_cons.1 h with rfl | h
      · exact ⟨List.not_mem_nil, List.nil_subset _⟩
      · exact ⟨(ih h).1, List.Subset.trans (ih h).2 (List.subset_cons_self x s)⟩
    · next hx =>
      obtain ⟨first, rest, hfirst⟩ := List.exists_cons_of_ne_nil (List.splitOn_ne_nil separator s)
      rw [hfirst, List.modifyHead_cons] at h
      rw [hfirst] at ih
      rcases List.mem_cons.1 h with rfl | h
      · obtain ⟨hno, hsub⟩ := ih (.head _)
        have hne : separator ≠ x := fun he => hx (by simp [he])
        exact ⟨List.not_mem_cons_of_ne_of_not_mem hne hno, List.cons_subset_cons x hsub⟩
      · obtain ⟨hno, hsub⟩ := ih (.tail _ h)
        exact ⟨hno, List.Subset.trans hsub (List.subset_cons_self x s)⟩

theorem of_mem_intercalate (h : c ∈ [separator].intercalate pieces) :
    c = separator ∨ ∃ piece ∈ pieces, c ∈ piece := by
  induction pieces with
  | nil => simp at h
  | cons first rest ih =>
    cases rest with
    | nil => exact .inr ⟨first, .head _, by simpa using h⟩
    | cons second rest =>
      rw [List.intercalate_cons_cons] at h
      rcases List.mem_append.1 h with h | h
      · rcases List.mem_append.1 h with h | h
        · exact .inr ⟨first, .head _, h⟩
        · exact .inl (List.mem_singleton.1 h)
      · exact (ih h).imp_right fun ⟨piece, hmem, hc⟩ => ⟨piece, .tail _ hmem, hc⟩

section Parting

variable {isKept : Char → Bool} {first : List Char}

theorem takeWhile_append_cons (hfirst : ∀ x ∈ first, isKept x = true) (hc : isKept c = false)
    (rest : List Char) : (first ++ c :: rest).takeWhile isKept = first := by
  rw [List.takeWhile_append_of_pos hfirst, List.takeWhile_cons_of_neg (by simp [hc]),
    List.append_nil]

theorem dropWhile_append_cons (hfirst : ∀ x ∈ first, isKept x = true) (hc : isKept c = false)
    (rest : List Char) : (first ++ c :: rest).dropWhile isKept = c :: rest := by
  rw [List.dropWhile_append_of_pos hfirst, List.dropWhile_cons_of_neg (by simp [hc])]

theorem keeps_of_not_mem (h : separator ∉ first) : ∀ x ∈ first, decide (x ≠ separator) = true :=
  fun _ hx => decide_eq_true fun he => h (he ▸ hx)

/-- What comes before the first separator. -/
theorem takeWhile_ne_append (h : separator ∉ first) (rest : List Char) :
    (first ++ separator :: rest).takeWhile (· ≠ separator) = first :=
  takeWhile_append_cons (keeps_of_not_mem h) (by simp) rest

theorem dropWhile_ne_append (h : separator ∉ first) (rest : List Char) :
    (first ++ separator :: rest).dropWhile (· ≠ separator) = separator :: rest :=
  dropWhile_append_cons (keeps_of_not_mem h) (by simp) rest

end Parting

section Reading

variable {α β : Type} {read : α → Option β} {as : List α} {bs : List β}

theorem mapM_eq_some_iff :
    as.mapM read = some bs ↔ List.Forall₂ (fun a b => read a = some b) as bs := by
  induction as generalizing bs with
  | nil =>
    rw [List.forall₂_nil_left_iff, List.mapM_nil, Option.pure_def, Option.some.injEq]
    exact eq_comm
  | cons a as ih =>
    rw [List.forall₂_cons_left_iff, List.mapM_cons]
    simp only [Option.bind_eq_bind, Option.bind_eq_some_iff, Option.pure_def, Option.some.injEq, ih]
    constructor
    · rintro ⟨b, hb, rest, hrest, rfl⟩
      exact ⟨b, rest, hb, hrest, rfl⟩
    · rintro ⟨b, rest, hb, hrest, rfl⟩
      exact ⟨b, hb, rest, hrest, rfl⟩

theorem exists_of_mem_mapM (h : as.mapM read = some bs) :
    ∀ b ∈ bs, ∃ a ∈ as, read a = some b := by
  rw [mapM_eq_some_iff] at h
  induction h with
  | nil => exact nofun
  | cons hread _ ih =>
    refine List.forall_mem_cons.2 ⟨⟨_, .head _, hread⟩, fun b hb => ?_⟩
    obtain ⟨a, ha, hread⟩ := ih b hb
    exact ⟨a, .tail _ ha, hread⟩

theorem isSome_of_mapM (h : as.mapM read = some bs) : ∀ a ∈ as, (read a).isSome := by
  rw [mapM_eq_some_iff] at h
  induction h with
  | nil => exact nofun
  | cons hread _ ih => exact List.forall_mem_cons.2 ⟨by simp [hread], ih⟩

end Reading

end BucketAccess.Text
