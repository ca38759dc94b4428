import BucketAccess.Proofs.Program.Attempt

/-!
# Failing fast

An attempt fails fast if a call whose reply is a failure is its last one, it then fails with an
error that has this failure as its cause, and it fails for no other reason. So its calls are those
of a run without failures, up to the first that fails. What counts as a failure of a call is
`cause`, the cause of an error is `why`.
-/

namespace BucketAccess

variable {σ τ : Signature} {ε δ α β κ ι : Type}

def FailsFast (cause : Turn σ → Option κ) (why : ε → Option κ) : Program σ (Except ε α) → Prop
  | .done r => ∃ a, r = .ok a
  | .note _ rest => FailsFast cause why rest
  | .call c next => ∀ r,
    match cause ⟨c, r⟩ with
    | none => FailsFast cause why (next r)
    | some k => ∃ e, why e = some k ∧ (next r).Ends [] (.error e)

/-- The error of an answer that is a failure. -/
def failure? (r : Except ε α) : Option ε :=
  match r with
  | .ok _ => none
  | .error e => some e

/-- `t` and `r` against the calls `full` of a run without failures, which ends with `a`. -/
inductive FailStop (cause : Turn σ → Option κ) (why : ε → Option κ) (full : List (Turn σ)) (a : α) :
    List (Turn σ) → Except ε α → Prop where
  | whole : (∀ u ∈ full, cause u = none) → FailStop cause why full a full (.ok a)
  | cut {before after : List (Turn σ)} {u v : Turn σ} {k : κ} {e : ε} :
      full = before ++ u :: after → (∀ w ∈ before, cause w = none) → v.call = u.call →
      cause v = some k → why e = some k → FailStop cause why full a (before ++ [v]) (.error e)

theorem FailStop.map {cause : Turn σ → Option κ} {why : ε → Option κ} {full t : List (Turn σ)}
    {a : α} {r : Except ε α} (h : FailStop cause why full a t r) (f : α → β) :
    FailStop cause why full (f a) t (r.map f) := by
  cases h with
  | whole hall => exact .whole hall
  | cut hfull hbefore hcall hv he => exact .cut hfull hbefore hcall hv he

/-- All its calls are calls of the run without failures. -/
theorem FailStop.exists_call {cause : Turn σ → Option κ} {why : ε → Option κ}
    {full t : List (Turn σ)} {a : α} {r : Except ε α} (h : FailStop cause why full a t r)
    {u : Turn σ} (hu : u ∈ t) : ∃ w ∈ full, w.call = u.call := by
  cases h with
  | whole => exact ⟨u, hu, rfl⟩
  | cut hfull _ hcall _ _ =>
    rw [hfull]
    rcases List.mem_append.1 hu with hu | hu
    · exact ⟨u, List.mem_append_left _ hu, rfl⟩
    · rw [List.mem_singleton.1 hu]
      exact ⟨_, List.mem_append_right _ (.head _), hcall.symm⟩

namespace FailsFast

variable {cause : Turn σ → Option κ} {why : ε → Option κ}

/-! ## Parts -/

theorem pure (a : α) : FailsFast cause why (Pure.pure a : Attempt σ ε α).run := ⟨a, rfl⟩

theorem log (level : Log.Level) (message : String) (fields : List (String × Log.Value)) :
    FailsFast cause why (Attempt.log level message fields : Attempt σ ε Unit).run := ⟨(), rfl⟩

/-- One call, whose reply is the outcome. -/
theorem ask {c : σ.Call} {next : σ.Reply c → Program σ (Except ε α)} {k : ε → κ}
    (outcome : σ.Reply c → Except ε α) (hn : ∀ r, next r = .done (outcome r))
    (hc : ∀ r, cause ⟨c, r⟩ = (failure? (outcome r)).map k) :
    FailsFast cause (fun e => some (k e)) (.call c next) := by
  intro r
  rw [hc r, hn r]
  cases outcome r with
  | ok a => exact ⟨a, rfl⟩
  | error e => exact ⟨e, rfl, .done _⟩

theorem reply {cause : Turn σ → Option ε} {c : σ.Call} {next : σ.Reply c → Program σ (Except ε α)}
    (outcome : σ.Reply c → Except ε α) (hn : ∀ r, next r = .done (outcome r))
    (hc : ∀ r, cause ⟨c, r⟩ = failure? (outcome r)) : FailsFast cause some (.call c next) :=
  .ask outcome hn fun r => (hc r).trans Option.map_id'.symm

theorem bind_program {p : Program σ (Except ε α)} {f : Except ε α → Program σ (Except δ β)}
    {why' : δ → Option κ} (hp : FailsFast cause why p) (hok : ∀ a, FailsFast cause why' (f (.ok a)))
    (herror : ∀ e, ∃ e', why' e' = why e ∧ (f (.error e)).Ends [] (.error e')) :
    FailsFast cause why' (p.bind f) := by
  induction p with
  | done r =>
    obtain ⟨a, rfl⟩ := hp
    exact hok a
  | note _ rest ih => exact ih hp
  | call c next ih =>
    intro r
    have h := hp r
    split
    · next hc =>
      rw [hc] at h
      exact ih r h
    · next k hc =>
      rw [hc] at h
      obtain ⟨e, he, hn⟩ := h
      obtain ⟨e', he', hf⟩ := herror e
      exact ⟨e', he'.trans he, Program.ends_bind.2 ⟨[], [], _, rfl, hn, hf⟩⟩

theorem bind {p : Attempt σ ε α} {f : α → Attempt σ ε β} (hp : FailsFast cause why p.run)
    (hf : ∀ a, FailsFast cause why (f a).run) : FailsFast cause why (p >>= f).run := by
  rw [Attempt.run_bind]
  exact bind_program hp hf fun e => ⟨e, rfl, .done _⟩

theorem mapError {p : Attempt σ ε α} {f : ε → δ} {why' : δ → Option κ}
    (hp : FailsFast cause why p.run) (hf : ∀ e, why' (f e) = why e) :
    FailsFast cause why' (p.mapError f).run := by
  rw [Attempt.run_mapError]
  exact bind_program hp (fun a => ⟨a, rfl⟩) fun e => ⟨f e, hf e, .done _⟩

/-- The calls may be made as calls of another kind, one for one. -/
theorem via {cause' : Turn τ → Option ι} {f : σ.Call → τ.Call} {k : κ → ι}
    {g : (c : σ.Call) → τ.Reply (f c) → σ.Reply c}
    (hc : ∀ c r, cause' ⟨f c, r⟩ = (cause ⟨c, g c r⟩).map k) {p : Program σ (Except ε α)}
    (hp : FailsFast cause why p) :
    FailsFast cause' (fun e => (why e).map k)
      (p.via fun c => .call (f c) fun r => .done (g c r)) := by
  induction p with
  | done r => exact hp
  | note _ rest ih => exact ih hp
  | call c next ih =>
    intro r
    have h := hp (g c r)
    rw [hc c r]
    cases hr : cause ⟨c, g c r⟩ with
    | none =>
      rw [hr] at h
      exact ih _ h
    | some x =>
      rw [hr] at h
      obtain ⟨e, he, hn⟩ := h
      exact ⟨e, congrArg (Option.map k) he, hn.via⟩

/-! ## Runs -/

/-- Whatever the replies so far, there are replies with which the rest succeeds. -/
theorem exists_ok {good : (c : σ.Call) → σ.Reply c} (hgood : ∀ c, cause ⟨c, good c⟩ = none)
    {p : Program σ (Except ε α)} (hp : FailsFast cause why p) : ∃ t a, p.Ends t (.ok a) := by
  induction p with
  | done r =>
    obtain ⟨a, rfl⟩ := hp
    exact ⟨[], a, .done _⟩
  | note _ rest ih =>
    obtain ⟨t, a, h⟩ := ih hp
    exact ⟨t, a, .note h⟩
  | call c next ih =>
    have h := hp (good c)
    rw [hgood c] at h
    obtain ⟨t, a, h⟩ := ih _ h
    exact ⟨⟨c, good c⟩ :: t, a, .call h⟩

theorem failStop {good : (c : σ.Call) → σ.Reply c} (hgood : ∀ c, cause ⟨c, good c⟩ = none)
    {p : Program σ (Except ε α)} (hp : FailsFast cause why p) {t : List (Turn σ)} {r : Except ε α}
    (h : p.Ends t r) : ∃ full a, p.Ends full (.ok a) ∧ FailStop cause why full a t r := by
  induction p generalizing t with
  | done r' =>
    obtain ⟨a, rfl⟩ := hp
    obtain ⟨rfl, rfl⟩ := Program.ends_done.1 h
    exact ⟨[], a, .done _, .whole (by simp)⟩
  | note _ rest ih =>
    obtain ⟨full, a, hfull, hstop⟩ := ih hp (Program.ends_note.1 h)
    exact ⟨full, a, .note hfull, hstop⟩
  | call c next ih =>
    obtain ⟨x, t', rfl, hx⟩ := Program.ends_call.1 h
    have hn := hp x
    cases hc : cause ⟨c, x⟩ with
    | some k =>
      -- the first failure: the run goes on from a good reply instead
      rw [hc] at hn
      obtain ⟨e, he, hend⟩ := hn
      obtain ⟨rfl, rfl⟩ := hend.eq_of_nil hx
      have hg := hp (good c)
      rw [hgood c] at hg
      obtain ⟨after, a, hok⟩ := exists_ok hgood hg
      exact ⟨⟨c, good c⟩ :: after, a, .call hok, .cut (List.nil_append _).symm (by simp) rfl hc he⟩
    | none =>
      rw [hc] at hn
      obtain ⟨full, a, hfull, hstop⟩ := ih x hn hx
      refine ⟨⟨c, x⟩ :: full, a, .call hfull, ?_⟩
      cases hstop with
      | whole hall => exact .whole (by simpa [hc] using hall)
      | cut hfull hbefore hcall hv he =>
        rw [← List.cons_append]
        exact .cut (by rw [hfull]; rfl) (by simpa [hc] using hbefore) hcall hv he

end FailsFast

end BucketAccess
