import BucketAccess.Proofs.Policy.Document
import BucketAccess.Provision.Operations

/-!
# Edits of a bucket's policy

A bucket has a policy or none. An edit puts a statement into it or takes the statements of a sid out
of it; the policy goes with its last statement. Edits keep policies sound and leave alone what has
another sid.
-/

namespace BucketAccess.Policy

open Provision (withStatement)

inductive Edit where
  | put (s : Statement)
  | take (sid : String)

namespace Edit

def sid : Edit → String
  | put s => s.sid
  | take sid => sid

def apply : Edit → Option Document → Option Document
  | put s, p => some (withStatement p s)
  | take _, none => none
  | take sid, some d =>
    if ∀ s ∈ d.statements, s.sid ≠ sid then some d
    else if ∀ s ∈ d.statements, s.sid = sid then none
    else some (d.remove sid)

end Edit

/-- The statements of a policy that may be absent. -/
def statementsOf (p : Option Document) : List Statement := (p.map Document.statements).getD []

/-- Not empty, and of each sid other than the empty one at most one statement. -/
def Sound (p : Option Document) : Prop :=
  ∀ d ∈ p, d.statements ≠ [] ∧ ((d.statements.map Statement.sid).filter (· ≠ "")).Nodup

variable {p : Option Document} {e : Edit} {s : Statement}

/-! ## Statements -/

theorem statementsOf_put (p : Option Document) (s : Statement) :
    statementsOf ((Edit.put s).apply p) = ((p.getD .empty).merge s).statements := by
  cases p with
  | none => rfl
  | some d => rfl

theorem withStatement_ne_nil (p : Option Document) (s : Statement) :
    (withStatement p s).statements ≠ [] := by
  have h : (withStatement p s).statements = _ := statementsOf_put p s
  rw [h]
  exact Document.statements_merge_ne_nil

theorem statementsOf_take (p : Option Document) (sid : String) :
    statementsOf ((Edit.take sid).apply p) = (statementsOf p).filter (·.sid ≠ sid) := by
  cases p with
  | none => rfl
  | some d =>
    simp only [Edit.apply]
    split
    · next h =>
      rw [statementsOf, Option.map_some, Option.getD_some, List.filter_eq_self.2]
      exact fun t ht => by simpa using h t ht
    · split
      · next h =>
        symm
        exact List.filter_eq_nil_iff.2 fun t ht => by simpa using h t ht
      · rfl

theorem statementsOf_getD (p : Option Document) : (p.getD .empty).statements = statementsOf p := by
  cases p <;> rfl

theorem take_eq_self {d : Document} {sid : String} (h : ∀ s ∈ d.statements, s.sid ≠ sid) :
    (Edit.take sid).apply (some d) = some d := if_pos h

/-- An edit may be made twice. -/
theorem apply_apply (e : Edit) (p : Option Document) : e.apply (e.apply p) = e.apply p := by
  cases e with
  | put s =>
    cases p with
    | none => simp [Edit.apply, withStatement, Document.merge, Document.contains]
    | some d => exact congrArg some Document.merge_merge
  | take sid =>
    cases p with
    | none => rfl
    | some d =>
      by_cases hn : ∀ s ∈ d.statements, s.sid ≠ sid
      · rw [take_eq_self hn, take_eq_self hn]
      · by_cases hall : ∀ s ∈ d.statements, s.sid = sid
        · have hgone : (Edit.take sid).apply (some d) = none := (if_neg hn).trans (if_pos hall)
          rw [hgone]
          rfl
        · have hrest : (Edit.take sid).apply (some d) = some (d.remove sid) :=
            (if_neg hn).trans (if_neg hall)
          rw [hrest]
          exact take_eq_self fun t ht => by simpa using (List.mem_filter.1 ht).2

/-- Taking the statements of a sid undoes the put of the only one. -/
theorem take_put (h : ∀ d ∈ p, d.statements ≠ [] ∧ ∀ t ∈ d.statements, t.sid ≠ s.sid) :
    (Edit.take s.sid).apply ((Edit.put s).apply p) = p := by
  cases p with
  | none => simp [Edit.apply, withStatement]
  | some d =>
    obtain ⟨hne, hothers⟩ := h d rfl
    have hput : withStatement (some d) s = { d with statements := d.statements ++ [s] } := by
      have hc : ¬d.contains s.sid = true := by
        simpa [Document.contains] using hothers
      rw [withStatement, Document.merge, if_neg hc]
    obtain ⟨t, ht⟩ := List.exists_mem_of_ne_nil d.statements hne
    have hsome : ¬∀ x ∈ d.statements ++ [s], x.sid ≠ s.sid := fun hn => hn s (by simp) rfl
    have hother : ¬∀ x ∈ d.statements ++ [s], x.sid = s.sid :=
      fun hall => hothers t ht (hall t (List.mem_append_left _ ht))
    have hrest : (d.statements ++ [s]).filter (·.sid ≠ s.sid) = d.statements := by
      rw [List.filter_append, List.filter_eq_self.2 fun x hx => by simpa using hothers x hx]
      simp
    rw [Edit.apply, hput, Edit.apply, if_neg hsome, if_neg hother, Document.remove, hrest]

theorem filter_apply {q : String → Bool} (h : q e.sid = false) :
    (statementsOf (e.apply p)).filter (fun t => q t.sid) =
      (statementsOf p).filter fun t => q t.sid := by
  cases e with
  | put s => rw [statementsOf_put, Document.filter_merge h, statementsOf_getD]
  | take sid =>
    rw [statementsOf_take, List.filter_filter]
    refine List.filter_congr fun t _ => ?_
    have hq : q sid = false := h
    by_cases ht : t.sid = sid
    · simp [ht, hq]
    · simp [ht]

/-! ## Soundness -/

theorem Sound.apply (h : Sound p) : Sound (e.apply p) := by
  cases e with
  | put s =>
    rintro d ⟨⟩
    have hd : (withStatement p s).statements = ((p.getD .empty).merge s).statements :=
      statementsOf_put p s
    refine ⟨withStatement_ne_nil p s, ?_⟩
    rw [hd]
    have hp : (((p.getD .empty).statements.map Statement.sid).filter (· ≠ "")).Nodup := by
      cases p with
      | none => exact List.nodup_nil
      | some d => exact (h d rfl).2
    rw [Document.map_sid_merge]
    split
    · exact hp
    · next hc =>
      rw [List.filter_append, List.nodup_append]
      refine ⟨hp, List.Pairwise.filter _ (by simp), ?_⟩
      rintro sid hsid _ hs rfl
      obtain ⟨t, ht, rfl⟩ := List.mem_map.1 (List.mem_filter.1 hsid).1
      have hts : t.sid = s.sid := List.mem_singleton.1 (List.mem_filter.1 hs).1
      exact hc (List.any_eq_true.2 ⟨t, ht, decide_eq_true hts⟩)
  | take sid =>
    cases p with
    | none => exact h
    | some d =>
      simp only [Edit.apply]
      split
      · exact h
      · split
        · exact fun _ hd => nomatch hd
        · next hall =>
          rintro _ ⟨⟩
          refine ⟨?_, ?_⟩
          · intro hn
            exact hall (by simpa [Document.remove] using hn)
          · exact (h d rfl).2.sublist ((List.filter_sublist.map _).filter _)

/-- A put statement is the only one of its sid. -/
theorem Sound.filter_put (h : Sound p) (hs : s.sid ≠ "") :
    (statementsOf ((Edit.put s).apply p)).filter (·.sid = s.sid) = [s] := by
  have hnodup := (h.apply (e := .put s) _ rfl).2
  have hcount := List.nodup_iff_count.1 hnodup s.sid
  rw [List.count_filter (by simpa using hs), List.count_eq_countP, List.countP_map,
    List.countP_eq_length_filter] at hcount
  have hstatements := statementsOf_put p s
  have hmem : s ∈ (statementsOf ((Edit.put s).apply p)).filter (·.sid = s.sid) := by
    rw [hstatements]
    exact List.mem_filter.2 ⟨Document.mem_merge, by simp⟩
  have hlength : ((statementsOf ((Edit.put s).apply p)).filter (·.sid = s.sid)).length = 1 :=
    Nat.le_antisymm hcount (List.length_pos_of_mem hmem)
  obtain ⟨t, ht⟩ := List.length_eq_one_iff.1 hlength
  rw [ht] at hmem
  rw [ht, List.mem_singleton.1 hmem]

theorem filter_take (p : Option Document) (sid : String) :
    (statementsOf ((Edit.take sid).apply p)).filter (·.sid = sid) = [] := by
  rw [statementsOf_take]
  simp [List.filter_filter]

end BucketAccess.Policy
