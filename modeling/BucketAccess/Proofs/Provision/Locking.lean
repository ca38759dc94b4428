import BucketAccess.Proofs.Provision.Access

/-!
# Locking

An operation takes the lock of its bucket id before all other calls and gives it back after them,
whether it succeeds or fails. So at any time it is before its first call, or has the lock, or makes
no more calls.
-/

namespace BucketAccess.Provision

variable {S U α : Type}

def Call.isLocking : Call S U → Bool
  | .lock _ | .unlock _ => true
  | _ => false

/-- Makes no more calls. -/
def Idle : Program (api S U) α → Prop
  | .done _ => True
  | .note _ rest => Idle rest
  | .call _ _ => False

/-- Has the lock of the key, and gives it back after all its other calls. -/
def Inside (key : String) : Program (api S U) α → Prop
  | .done _ => False
  | .note _ rest => Inside key rest
  | .call c next =>
    (c = .unlock key ∧ ∀ r, Idle (next r)) ∨ c.isLocking = false ∧ ∀ r, Inside key (next r)

/-- Takes the lock of the key first, if it makes any call. -/
def Outside (key : String) : Program (api S U) α → Prop
  | .done _ => True
  | .note _ rest => Outside key rest
  | .call c next => c = .lock key ∧ ∀ r, Inside key (next r)

variable {p : Program (api S U) α} {key : String}

/-! ## From traces -/

theorem idle_of_ends (h : ∀ t a, p.Ends t a → t = []) : Idle p := by
  induction p with
  | done a => trivial
  | note e rest ih => exact ih fun t a ht => h t a (.note ht)
  | call c next =>
    obtain ⟨t, a, ht, -⟩ := Program.exists_ends Call.bad (Program.call c next)
    obtain rfl := h t a ht
    obtain ⟨_, _, hnil, -⟩ := Program.ends_call.1 ht
    cases hnil

theorem inside_of_ends (h : ∀ t a, p.Ends t a →
    ∃ body, t = body ++ [⟨.unlock key, ()⟩] ∧ ∀ u ∈ body, u.call.isLocking = false) :
    Inside key p := by
  induction p with
  | done a =>
    obtain ⟨body, hbody, -⟩ := h [] a (.done a)
    simp at hbody
  | note e rest ih => exact ih fun t a ht => h t a (.note ht)
  | call c next ih =>
    have hnext : ∀ r t a, (next r).Ends t a → (c = .unlock key ∧ t = []) ∨
        (c.isLocking = false ∧
          ∃ body, t = body ++ [⟨.unlock key, ()⟩] ∧ ∀ u ∈ body, u.call.isLocking = false) := by
      intro r t a ht
      obtain ⟨body, hbody, hfree⟩ := h _ a (.call ht)
      cases body with
      | nil =>
        obtain ⟨hu, rfl⟩ := List.cons.inj hbody
        exact .inl ⟨congrArg Turn.call hu, rfl⟩
      | cons u body =>
        obtain ⟨rfl, rfl⟩ := List.cons.inj hbody
        exact .inr ⟨hfree _ (.head _), body, rfl, fun w hw => hfree w (.tail _ hw)⟩
    by_cases hc : c = .unlock key
    · refine .inl ⟨hc, fun r => idle_of_ends fun t a ht => ?_⟩
      rcases hnext r t a ht with ⟨-, ht⟩ | ⟨hfree, -⟩
      · exact ht
      · rw [hc] at hfree
        cases hfree
    · have hfree : c.isLocking = false := by
        obtain ⟨t, a, ht, -⟩ := Program.exists_ends Call.bad (next c.bad)
        exact ((hnext c.bad t a ht).resolve_left fun hn => hc hn.1).1
      exact .inr ⟨hfree, fun r => ih r fun t a ht =>
        ((hnext r t a ht).resolve_left fun hn => hc hn.1).2⟩

theorem outside_of_ends (h : ∀ t a, p.Ends t a →
    t = [] ∨ ∃ body, t = locked key body ∧ ∀ u ∈ body, u.call.isLocking = false) :
    Outside key p := by
  induction p with
  | done a => trivial
  | note e rest ih => exact ih fun t a ht => h t a (.note ht)
  | call c next =>
    have hnext : ∀ r t a, (next r).Ends t a → c = .lock key ∧
        ∃ body, t = body ++ [⟨.unlock key, ()⟩] ∧ ∀ u ∈ body, u.call.isLocking = false := by
      intro r t a ht
      obtain ⟨body, hbody, hfree⟩ := (h _ a (.call ht)).resolve_left nofun
      obtain ⟨hu, rfl⟩ := List.cons.inj hbody
      exact ⟨congrArg Turn.call hu, body, rfl, hfree⟩
    obtain ⟨t, a, ht, -⟩ := Program.exists_ends Call.bad (next c.bad)
    exact ⟨(hnext c.bad t a ht).1, fun r => inside_of_ends fun t a ht => (hnext r t a ht).2⟩

/-- Before its first call it is still to take the lock. -/
theorem Outside.of_reaches (hp : Outside key p) {q : Program (api S U) α} (h : p.Reaches [] q) :
    Outside key q := by
  generalize ht : ([] : List (Turn (api S U))) = t at h
  induction h with
  | refl => exact hp
  | note _ ih => exact ih hp ht
  | call => cases ht

/-! ## Operations -/

namespace Access

theorem Whole.isLocking_eq_false {access : Access} {full : List (Turn (api S U))}
    {got : Option Granted} (h : Whole access full got) : ∀ u ∈ full, u.call.isLocking = false := by
  cases h with
  | grant a _ _ =>
    refine List.forall_mem_append.2 ⟨List.forall_mem_append.2 ⟨?_, ?_⟩, ?_⟩
    · simp [Call.isLocking]
    · split <;> simp [Call.isLocking]
    · simp [Call.isLocking]
  | revoke a _ _ _ =>
    refine List.forall_mem_append.2 ⟨List.forall_mem_append.2 ⟨List.forall_mem_append.2
      ⟨?_, ?_⟩, ?_⟩, ?_⟩
    · simp [Call.isLocking]
    · intro u hu
      obtain ⟨e, -, rfl⟩ := List.mem_map.1 hu
      rfl
    · simp [Call.isLocking]
    · unfold editTurns
      split
      · simp
      · split
        · simp
        · split <;> simp [Call.isLocking]

theorem outside [Inhabited S] [Inhabited U] (access : Access) :
    Outside access.bucketId (access.program (S := S) (U := U)) := by
  refine outside_of_ends fun t outcome h => ?_
  rcases conforms h with ⟨e, rfl, rfl | rfl⟩ | ⟨body, full, got, rfl, hwhole, hstop⟩
  · exact .inl rfl
  · exact .inr ⟨[], rfl, by simp⟩
  · refine .inr ⟨body, rfl, fun u hu => ?_⟩
    obtain ⟨w, hw, hcall⟩ := hstop.exists_call hu
    exact hcall ▸ hwhole.isLocking_eq_false w hw

end Access

end BucketAccess.Provision
