import BucketAccess.Proofs.Policy.Edit
import Mathlib.Data.List.Nodup

/-!
# Policies as ordered maps

A document under any sequence of merges and removals. It keeps its id, its version and all
statements of other sids; a merge leaves the places of the sid's statements as they are, however
many there are. A document whose sids differ is a map from sids to statements whose entries stand in
the order in which they came.
-/

namespace BucketAccess.Policy

/-! ## Maps -/

/-- Statements by sid, the oldest first. -/
abbrev Entries := List (String × Statement)

namespace Entries

/-- Puts a statement in the place of the sid's entry, or after all others. -/
def insert (sid : String) (s : Statement) : Entries → Entries
  | [] => [(sid, s)]
  | e :: r => if e.1 = sid then (sid, s) :: r else e :: insert sid s r

def erase (sid : String) : Entries → Entries
  | [] => []
  | e :: r => if e.1 = sid then r else e :: erase sid r

def edit (m : Entries) : Edit → Entries
  | .put s => m.insert s.sid s
  | .take sid => m.erase sid

end Entries

/-- Each statement as the entry of its sid. -/
def entriesOf (l : List Statement) : Entries := l.map fun s => (s.sid, s)

/-! ## Documents -/

namespace Document

variable {d : Document} {s : Statement} {sid : String}

def edit (d : Document) : Edit → Document
  | .put s => d.merge s
  | .take sid => d.remove sid

def after (d : Document) (edits : List Edit) : Document := edits.foldl edit d

def sids (d : Document) : List String := d.statements.map Statement.sid

/-- The number of statements of a sid. -/
def count (d : Document) (sid : String) : Nat := d.statements.countP (·.sid = sid)

/-- What the merging of `s` into `before` makes of it: all statements of the sid are `s`, where they
stood, or else `s` comes at the end. -/
structure Merged (before : Document) (s : Statement) (merged : Document) : Prop where
  equal : ∀ t ∈ merged.statements, t.sid = s.sid → t = s
  count : merged.count s.sid = max 1 (before.count s.sid)
  place : ∀ (i : Nat) (t : Statement), before.statements[i]? = some t →
    merged.statements[i]? = some (if t.sid = s.sid then s else t)
  length : before.contains s.sid = true →
    merged.statements.length = before.statements.length
  appended : before.contains s.sid = false → merged.statements = before.statements ++ [s]

theorem contains_iff : d.contains sid = true ↔ ∃ t ∈ d.statements, t.sid = sid := by
  simp [contains]

theorem contains_eq_false_iff : d.contains sid = false ↔ ∀ t ∈ d.statements, t.sid ≠ sid := by
  simp [contains]

theorem statements_merge_of_contains (h : d.contains s.sid = true) :
    (d.merge s).statements = d.statements.map fun t => if t.sid = s.sid then s else t := if_pos h

theorem statements_merge_of_not_contains (h : d.contains s.sid = false) :
    (d.merge s).statements = d.statements ++ [s] := if_neg (by simp [h])

theorem count_eq_zero (h : d.contains sid = false) : d.count sid = 0 := by
  rw [count, List.countP_eq_zero]
  intro t ht
  simpa using contains_eq_false_iff.1 h t ht

theorem one_le_count (h : d.contains sid = true) : 1 ≤ d.count sid := by
  obtain ⟨t, ht, hsid⟩ := contains_iff.1 h
  exact List.countP_pos_iff.2 ⟨t, ht, by simpa using hsid⟩

theorem count_merge : (d.merge s).count s.sid = max 1 (d.count s.sid) := by
  cases hc : d.contains s.sid with
  | true =>
    have hsame : (d.merge s).count s.sid = d.count s.sid := by
      unfold count
      rw [statements_merge_of_contains hc, List.countP_map]
      refine List.countP_congr fun t _ => ?_
      by_cases ht : t.sid = s.sid <;> simp [ht]
    have hone := one_le_count hc
    omega
  | false =>
    have hnone := count_eq_zero hc
    have hlast : (d.merge s).count s.sid = d.count s.sid + 1 := by
      unfold count
      rw [statements_merge_of_not_contains hc, List.countP_append, List.countP_singleton]
      simp
    omega

theorem merged_merge (d : Document) (s : Statement) : Merged d s (d.merge s) where
  equal _ ht hs := eq_of_mem_merge ht hs
  count := count_merge
  place i t hi := by
    cases hc : d.contains s.sid with
    | true => rw [statements_merge_of_contains hc, List.getElem?_map, hi, Option.map_some]
    | false =>
      have hother := contains_eq_false_iff.1 hc t (List.mem_of_getElem? hi)
      have hlt : i < d.statements.length := (List.getElem?_eq_some_iff.1 hi).1
      rw [statements_merge_of_not_contains hc, List.getElem?_append_left hlt, hi, if_neg hother]
  length hc := by rw [statements_merge_of_contains hc, List.length_map]
  appended := statements_merge_of_not_contains

/-- A document differs from what a removal leaves of it if it has a statement of the sid. -/
theorem remove_ne_self_iff : d.remove sid ≠ d ↔ d.contains sid = true := by
  rw [← Bool.not_eq_false, not_iff_not, contains_eq_false_iff]
  refine ⟨fun h => ?_, remove_eq_self⟩
  rw [← remove_alike_iff, h]
  exact d.alike_refl

theorem remove_alike_eq_false_iff : (d.remove sid).alike d = false ↔ d.contains sid = true := by
  rw [← Bool.not_eq_true, remove_alike_iff, ← contains_eq_false_iff, Bool.not_eq_false]

/-! ## One edit -/

theorem id_edit (d : Document) (e : Edit) : (d.edit e).id = d.id := by cases e <;> rfl

theorem version_edit (d : Document) (e : Edit) : (d.edit e).version = d.version := by
  cases e <;> rfl

theorem filter_edit {q : String → Bool} {e : Edit} (h : q e.sid = false) :
    (d.edit e).statements.filter (fun t => q t.sid) =
      d.statements.filter fun t => q t.sid := by
  cases e with
  | put s => exact filter_merge h
  | take sid =>
    show (d.statements.filter _).filter _ = _
    rw [List.filter_filter]
    refine List.filter_congr fun t _ => ?_
    have hq : q sid = false := h
    by_cases ht : t.sid = sid
    · simp [ht, hq]
    · simp [ht]

theorem nodup_edit (h : d.sids.Nodup) (e : Edit) : (d.edit e).sids.Nodup := by
  cases e with
  | take sid => exact h.sublist (List.filter_sublist.map _)
  | put s =>
    show ((d.merge s).statements.map Statement.sid).Nodup
    rw [map_sid_merge]
    split
    · exact h
    · next hc =>
      have hnew : ∀ t ∈ d.statements, t.sid ≠ s.sid := by simpa [contains] using hc
      refine List.nodup_append.2 ⟨h, List.nodup_singleton _, fun x hx y hy => ?_⟩
      obtain ⟨t, ht, rfl⟩ := List.mem_map.1 hx
      rw [List.mem_singleton.1 hy]
      exact hnew t ht

/-- Inserting replaces the one statement of the sid. -/
theorem insert_entriesOf {l : List Statement} (h : (l.map Statement.sid).Nodup) (s : Statement) :
    (entriesOf l).insert s.sid s =
      entriesOf (if l.any (·.sid = s.sid) then l.map fun t => if t.sid = s.sid then s else t
        else l ++ [s]) := by
  induction l with
  | nil => rfl
  | cons t r ih =>
    obtain ⟨hfirst, hrest⟩ := List.nodup_cons.1 h
    by_cases ht : t.sid = s.sid
    · have hothers : r.map (fun u => if u.sid = s.sid then s else u) = r := by
        refine (List.map_congr_left fun u hu => if_neg fun hs => ?_).trans (List.map_id' r)
        exact hfirst (List.mem_map.2 ⟨u, hu, hs.trans ht.symm⟩)
      simp [entriesOf, Entries.insert, ht, hothers]
    · have hstep : (entriesOf (t :: r)).insert s.sid s =
          (t.sid, t) :: (entriesOf r).insert s.sid s := if_neg ht
      rw [hstep, ih hrest, List.any_cons, decide_eq_false ht, Bool.false_or]
      split <;> simp [entriesOf, ht]

theorem erase_entriesOf {l : List Statement} (h : (l.map Statement.sid).Nodup) (sid : String) :
    (entriesOf l).erase sid = entriesOf (l.filter (·.sid ≠ sid)) := by
  induction l with
  | nil => rfl
  | cons t r ih =>
    obtain ⟨hfirst, hrest⟩ := List.nodup_cons.1 h
    by_cases ht : t.sid = sid
    · have hothers : r.filter (·.sid ≠ sid) = r := by
        refine List.filter_eq_self.2 fun u hu => decide_eq_true fun hs => ?_
        exact hfirst (List.mem_map.2 ⟨u, hu, hs.trans ht.symm⟩)
      rw [List.filter_cons, if_neg (by simpa using ht), hothers]
      exact if_pos ht
    · have hstep : (entriesOf (t :: r)).erase sid = (t.sid, t) :: (entriesOf r).erase sid :=
        if_neg ht
      rw [hstep, ih hrest, List.filter_cons, if_pos (by simpa using ht)]
      rfl

theorem entriesOf_edit (h : d.sids.Nodup) (e : Edit) :
    entriesOf (d.edit e).statements = (entriesOf d.statements).edit e := by
  cases e with
  | put s => exact (insert_entriesOf h s).symm
  | take sid => exact (erase_entriesOf h sid).symm

/-! ## Sequences of edits -/

theorem id_after (d : Document) (edits : List Edit) : (d.after edits).id = d.id := by
  induction edits generalizing d with
  | nil => rfl
  | cons e r ih => exact (ih (d.edit e)).trans (d.id_edit e)

theorem version_after (d : Document) (edits : List Edit) :
    (d.after edits).version = d.version := by
  induction edits generalizing d with
  | nil => rfl
  | cons e r ih => exact (ih (d.edit e)).trans (d.version_edit e)

theorem filter_after {q : String → Bool} {edits : List Edit} (h : ∀ e ∈ edits, q e.sid = false) :
    (d.after edits).statements.filter (fun t => q t.sid) =
      d.statements.filter fun t => q t.sid := by
  induction edits generalizing d with
  | nil => rfl
  | cons e r ih =>
    obtain ⟨hfirst, hrest⟩ := List.forall_mem_cons.1 h
    exact (ih hrest).trans (filter_edit hfirst)

theorem entriesOf_after (h : d.sids.Nodup) (edits : List Edit) :
    entriesOf (d.after edits).statements = edits.foldl Entries.edit (entriesOf d.statements) := by
  induction edits generalizing d with
  | nil => rfl
  | cons e r ih =>
    rw [List.foldl_cons, ← entriesOf_edit h e]
    exact ih (nodup_edit h e)

/-- A document under merges and removals. What it is after any of them, it is after one more. -/
theorem ordered_by_sid (d : Document) (edits : List Edit) :
    (d.after edits).id = d.id ∧ (d.after edits).version = d.version ∧
      (d.after edits).statements.filter (fun t => t.sid ∉ edits.map Edit.sid) =
        d.statements.filter (fun t => t.sid ∉ edits.map Edit.sid) ∧
      (∀ s, Merged (d.after edits) s (d.after (edits ++ [.put s]))) ∧
      (∀ sid, ∀ t ∈ (d.after (edits ++ [.take sid])).statements, t.sid ≠ sid) ∧
      (d.sids.Nodup → entriesOf (d.after edits).statements =
        edits.foldl Entries.edit (entriesOf d.statements)) ∧
      ∀ sid, ((d.after edits).contains sid = true ↔
          (d.after edits).remove sid ≠ d.after edits) ∧
        ((d.after edits).contains sid = true ↔
          ((d.after edits).remove sid).alike (d.after edits) = false) := by
  have hlast : ∀ e, d.after (edits ++ [e]) = (d.after edits).edit e :=
    fun e => List.foldl_concat ..
  refine ⟨d.id_after edits, d.version_after edits, ?_, fun s => ?_, fun sid t ht => ?_,
    fun h => entriesOf_after h edits,
    fun sid => ⟨remove_ne_self_iff.symm, remove_alike_eq_false_iff.symm⟩⟩
  · exact filter_after (q := (· ∉ edits.map Edit.sid)) fun e he => by
      simpa using ⟨e, he, rfl⟩
  · rw [hlast]
    exact merged_merge _ s
  · rw [hlast] at ht
    simpa using (List.mem_filter.1 ht).2

/-- Of three sids one is replaced where it stands, and one goes and comes back. -/
theorem ordered_by_sid_returned :
    entriesOf ((Document.mk none "v" [.grant "a" "old" .readOnly "x",
        .grant "b" "old" .readOnly "x", .grant "c" "old" .readOnly "x"]).after
      [.put (.grant "b" "new" .readOnly "x"), .take "a",
        .put (.grant "a" "new" .readOnly "x")]).statements =
      [("b", .grant "b" "new" .readOnly "x"), ("c", .grant "c" "old" .readOnly "x"),
        ("a", .grant "a" "new" .readOnly "x")] := by
  obtain ⟨-, -, -, -, -, hentries, -⟩ := ordered_by_sid (Document.mk none "v"
    [.grant "a" "old" .readOnly "x", .grant "b" "old" .readOnly "x",
      .grant "c" "old" .readOnly "x"])
    [.put (.grant "b" "new" .readOnly "x"), .take "a", .put (.grant "a" "new" .readOnly "x")]
  exact hentries (by decide)

end Document

end BucketAccess.Policy
