import BucketAccess.Proofs.Program.FailFast

/-!
# Interrupted runs

Runs against a backend, whose answers and effects are given by a relation between states. A run is
interrupted if one of its calls fails, and then the backend may have done what it was asked to, or
not. A program that fails fast leaves a state then that its whole run would have passed.
-/

namespace BucketAccess

open Program (Follows)

variable {σ τ : Signature} {ε δ α β κ S : Type}

/-! ## Runs -/

/-- A run without failures of the backend. -/
def Completes (step : S → Turn σ → S → Prop) (p : Program σ α) (s : S) (t : List (Turn σ)) (a : α)
    (s' : S) : Prop :=
  p.Ends t a ∧ Follows step s t s'

/-- There are runs without failures, and all of them end like this. -/
def Ensures (step : S → Turn σ → S → Prop) (p : Program σ α) (s : S)
    (post : List (Turn σ) → α → S → Prop) : Prop :=
  (∃ t a s', Completes step p s t a s') ∧ ∀ t a s', Completes step p s t a s' → post t a s'

theorem Ensures.mono {step : S → Turn σ → S → Prop} {p : Program σ α} {s : S}
    {post post' : List (Turn σ) → α → S → Prop} (h : Ensures step p s post)
    (hpost : ∀ t a m, post t a m → post' t a m) : Ensures step p s post' :=
  ⟨h.1, fun t a m hm => hpost t a m (h.2 t a m hm)⟩

/-- A run in which one call fails, and takes effect or not, and that leaves `m`. -/
def Interrupted (step : S → Turn σ → S → Prop) (fails : Turn σ → Prop) (p : Program σ α)
    (s m : S) : Prop :=
  ∃ before v after a s₁ s₂, p.Ends (before ++ v :: after) a ∧ Follows step s before s₁ ∧ fails v ∧
    (s₂ = s₁ ∨ ∃ r, step s₁ ⟨v.call, r⟩ s₂) ∧ Follows step s₂ after m

/-! ## Conditions on runs -/

/-- In every run from a state that `step` allows, each call is one that `may` be made, before and
after each call the state is in `mid`, and the end is in `post`. -/
def Holds (step : S → Turn σ → S → Prop) (may : σ.Call → Prop) (mid : S → Prop)
    (post : α → S → Prop) : Program σ α → S → Prop
  | .done a, s => post a s
  | .note _ rest, s => Holds step may mid post rest s
  | .call c next, s => may c ∧ mid s ∧
    ∀ r s', step s ⟨c, r⟩ s' → mid s' ∧ Holds step may mid post (next r) s'

/-- The same of an attempt that succeeds. -/
def Succeeds (step : S → Turn σ → S → Prop) (may : σ.Call → Prop) (mid : S → Prop)
    (post : α → S → Prop) (p : Attempt σ ε α) (s : S) : Prop :=
  Holds step may mid (fun r s' => ∃ a, r = .ok a ∧ post a s') p.run s

variable {step : S → Turn σ → S → Prop} {may : σ.Call → Prop} {mid : S → Prop} {s : S}

namespace Holds

theorem bind {mid' : α → S → Prop} {post : β → S → Prop} {p : Program σ α} {f : α → Program σ β}
    (hp : Holds step may mid mid' p s)
    (hf : ∀ a m, mid' a m → Holds step may mid post (f a) m) :
    Holds step may mid post (p.bind f) s := by
  induction p generalizing s with
  | done a => exact hf a s hp
  | note _ rest ih => exact ih hp
  | call c next ih =>
    obtain ⟨hmay, hmid, hnext⟩ := hp
    refine ⟨hmay, hmid, fun r s' hs => ?_⟩
    obtain ⟨hmid', hrest⟩ := hnext r s' hs
    exact ⟨hmid', ih r hrest⟩

theorem mono {may' : σ.Call → Prop} {post post' : α → S → Prop} {p : Program σ α}
    (hp : Holds step may mid post p s) (hmay : ∀ c, may c → may' c)
    (h : ∀ a m, post a m → post' a m) : Holds step may' mid post' p s := by
  induction p generalizing s with
  | done a => exact h a s hp
  | note _ rest ih => exact ih hp
  | call c next ih =>
    obtain ⟨hc, hmid, hnext⟩ := hp
    exact ⟨hmay c hc, hmid, fun r s' hs => ⟨(hnext r s' hs).1, ih r (hnext r s' hs).2⟩⟩

/-- Calls that are made as calls of another kind, one for one. -/
theorem via {step : S → Turn τ → S → Prop} {may : τ.Call → Prop} {f : σ.Call → τ.Call}
    {g : (c : σ.Call) → τ.Reply (f c) → σ.Reply c} {step' : S → Turn σ → S → Prop}
    (hstep : ∀ s c r s', step s ⟨f c, r⟩ s' → step' s ⟨c, g c r⟩ s') {post : α → S → Prop}
    {p : Program σ α} (hp : Holds step' (fun c => may (f c)) mid post p s) :
    Holds step may mid post (p.via fun c => .call (f c) fun r => .done (g c r)) s := by
  induction p generalizing s with
  | done a => exact hp
  | note _ rest ih => exact ih hp
  | call c next ih =>
    obtain ⟨hmay, hmid, hnext⟩ := hp
    refine ⟨hmay, hmid, fun r s' hs => ?_⟩
    obtain ⟨hmid', hrest⟩ := hnext (g c r) s' (hstep s c r s' hs)
    exact ⟨hmid', ih _ hrest⟩

/-- Whole runs. -/
theorem completes {post : α → S → Prop} {p : Program σ α} (hp : Holds step may mid post p s)
    {t : List (Turn σ)} {a : α} {s' : S} (h : Completes step p s t a s') :
    post a s' ∧ ∀ u ∈ t, may u.call := by
  obtain ⟨ht, hf⟩ := h
  induction ht generalizing s with
  | done a =>
    obtain rfl := hf
    exact ⟨hp, nofun⟩
  | note _ ih => exact ih hp hf
  | call _ ih =>
    obtain ⟨hmay, -, hnext⟩ := hp
    obtain ⟨m, hm, hf⟩ := hf
    obtain ⟨hpost, hall⟩ := ih (hnext _ m hm).2 hf
    exact ⟨hpost, List.forall_mem_cons.2 ⟨hmay, hall⟩⟩

/-- Runs that end at a failure, with or without the effect of the call that failed. -/
theorem interrupted {cause : Turn σ → Option κ} {why : ε → Option κ}
    {post : Except ε α → S → Prop} {p : Program σ (Except ε α)} (hfast : FailsFast cause why p)
    (hp : Holds step may mid post p s) {m : S}
    (h : Interrupted step (fun u => (cause u).isSome) p s m) : mid m := by
  obtain ⟨before, v, after, r, s₁, s₂, ht, hbefore, hv, heffect, hafter⟩ := h
  induction p generalizing before s with
  | done a => simp at ht
  | note _ rest ih => exact ih hfast hp before (Program.ends_note.1 ht) hbefore
  | call c next ih =>
    obtain ⟨x, t, hturns, hx⟩ := Program.ends_call.1 ht
    obtain ⟨-, hmid, hnext⟩ := hp
    have hfast := hfast x
    cases before with
    | nil =>
      obtain ⟨rfl, rfl⟩ := List.cons.inj hturns
      obtain rfl := hbefore
      obtain ⟨k, hk⟩ := Option.isSome_iff_exists.1 hv
      rw [hk] at hfast
      obtain ⟨e, -, hend⟩ := hfast
      obtain ⟨rfl, -⟩ := hend.eq_of_nil hx
      obtain rfl := hafter
      rcases heffect with rfl | ⟨y, hy⟩
      · exact hmid
      · exact (hnext y _ hy).1
    | cons u before =>
      obtain ⟨rfl, rfl⟩ := List.cons.inj hturns
      obtain ⟨s', hs, hbefore⟩ := hbefore
      cases hc : cause ⟨c, x⟩ with
      | none =>
        rw [hc] at hfast
        exact ih x hfast (hnext x s' hs).2 before hx hbefore
      | some k =>
        rw [hc] at hfast
        obtain ⟨e, -, hend⟩ := hfast
        obtain ⟨hnil, -⟩ := hend.eq_of_nil hx
        simp at hnil

end Holds

namespace Succeeds

variable {post : α → S → Prop} {p : Attempt σ ε α}

theorem pure {a : α} (h : post a s) :
    Succeeds step may mid post (Pure.pure a : Attempt σ ε α) s := ⟨a, rfl, h⟩

theorem log {post : Unit → S → Prop} {level : Log.Level} {message : String}
    {fields : List (String × Log.Value)} (h : post () s) :
    Succeeds step may mid post (Attempt.log level message fields : Attempt σ ε Unit) s :=
  ⟨(), rfl, h⟩

theorem bind {mid' : β → S → Prop} {p : Attempt σ ε β} {f : β → Attempt σ ε α}
    (hp : Succeeds step may mid mid' p s)
    (hf : ∀ b m, mid' b m → Succeeds step may mid post (f b) m) :
    Succeeds step may mid post (p >>= f) s := by
  unfold Succeeds
  rw [Attempt.run_bind]
  refine Holds.bind hp fun r m hr => ?_
  obtain ⟨b, rfl, hb⟩ := hr
  exact hf b m hb

theorem weaken {post' : α → S → Prop} (hp : Succeeds step may mid post p s)
    (h : ∀ a m, post a m → post' a m) : Succeeds step may mid post' p s := by
  refine Holds.mono hp (fun _ hc => hc) fun r m hr => ?_
  obtain ⟨a, rfl, ha⟩ := hr
  exact ⟨a, rfl, h a m ha⟩

theorem log_bind {level : Log.Level} {message : String} {fields : List (String × Log.Value)}
    {f : Unit → Attempt σ ε α} (hf : Succeeds step may mid post (f ()) s) :
    Succeeds step may mid post (Attempt.log level message fields >>= f) s := hf

theorem bind_same {p : Attempt σ ε β} {f : β → Attempt σ ε α}
    (hp : Succeeds step may mid (fun _ m => m = s) p s)
    (hf : ∀ b, Succeeds step may mid post (f b) s) : Succeeds step may mid post (p >>= f) s :=
  hp.bind fun b _ hm => hm ▸ hf b

theorem mapError {g : ε → δ} (hp : Succeeds step may mid post p s) :
    Succeeds step may mid post (p.mapError g) s := by
  unfold Succeeds
  rw [Attempt.run_mapError]
  refine Holds.bind hp fun r m hr => ?_
  obtain ⟨a, rfl, ha⟩ := hr
  exact ⟨a, rfl, ha⟩

theorem tryCatch {h : ε → Attempt σ ε α} (hp : Succeeds step may mid post p s) :
    Succeeds step may mid post (MonadExcept.tryCatch p h) s := by
  unfold Succeeds
  rw [Attempt.run_tryCatch]
  refine Holds.bind hp fun r m hr => ?_
  obtain ⟨a, rfl, ha⟩ := hr
  exact ⟨a, rfl, ha⟩

/-- One call, whose reply is the outcome. -/
theorem ask {c : σ.Call} {next : σ.Reply c → Program σ (Except ε α)}
    (outcome : σ.Reply c → Except ε α) (hn : ∀ r, next r = .done (outcome r)) (hmay : may c)
    (hmid : mid s) (hstep : ∀ r s', step s ⟨c, r⟩ s' →
      mid s' ∧ ∃ a, outcome r = .ok a ∧ post a s') :
    Succeeds step may mid post (Attempt.ofProgram (.call c next)) s := by
  refine ⟨hmay, hmid, fun r s' hs => ?_⟩
  obtain ⟨hmid', a, ha, hpost⟩ := hstep r s' hs
  rw [hn r]
  exact ⟨hmid', a, ha, hpost⟩

end Succeeds

/-! ## Existence -/

theorem exists_completes (htotal : ∀ c s, ∃ r s', step s ⟨c, r⟩ s') (p : Program σ α) (s : S) :
    ∃ t a s', Completes step p s t a s' := by
  induction p generalizing s with
  | done a => exact ⟨[], a, s, .done a, rfl⟩
  | note _ rest ih =>
    obtain ⟨t, a, s', ht, hf⟩ := ih s
    exact ⟨t, a, s', .note ht, hf⟩
  | call c next ih =>
    obtain ⟨r, m, hm⟩ := htotal c s
    obtain ⟨t, a, s', ht, hf⟩ := ih r m
    exact ⟨⟨c, r⟩ :: t, a, s', .call ht, m, hm, hf⟩

end BucketAccess
