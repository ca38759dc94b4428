import BucketAccess.Proofs.Program.Trace

/-!
# Attempts

Traces of programs that may fail, put together from those of their parts: `Returns p t a` says that
the attempt succeeds with `a` by the calls of `t`.
-/

namespace BucketAccess

namespace Attempt

variable {σ τ : Signature} {ε δ α β κ : Type}

/-! ## Success -/

def Returns (p : Attempt σ ε α) (t : List (Turn σ)) (a : α) : Prop := p.run.Ends t (.ok a)

theorem run_bind (p : Attempt σ ε α) (f : α → Attempt σ ε β) :
    (p >>= f).run = p.run.bind fun r =>
      match r with
      | .ok a => (f a).run
      | .error e => .done (.error e) := rfl

@[simp]
theorem run_pure (a : α) : (pure a : Attempt σ ε α).run = .done (.ok a) := rfl

@[simp]
theorem returns_pure {a b : α} {t : List (Turn σ)} :
    Returns (pure a : Attempt σ ε α) t b ↔ t = [] ∧ a = b := by
  simp [Returns]

theorem returns_bind {p : Attempt σ ε α} {f : α → Attempt σ ε β} {t : List (Turn σ)} {b : β} :
    Returns (p >>= f) t b ↔ ∃ t₁ t₂ a, t = t₁ ++ t₂ ∧ Returns p t₁ a ∧ Returns (f a) t₂ b := by
  simp only [Returns, run_bind, Program.ends_bind]
  constructor
  · rintro ⟨t₁, t₂, r, rfl, h₁, h₂⟩
    cases r with
    | ok a => exact ⟨t₁, t₂, a, rfl, h₁, h₂⟩
    | error e => simp at h₂
  · rintro ⟨t₁, t₂, a, rfl, h₁, h₂⟩
    exact ⟨t₁, t₂, .ok a, rfl, h₁, h₂⟩

theorem not_returns_throw {e : ε} {f : α → Attempt σ ε β} {t : List (Turn σ)} {b : β} :
    ¬ Returns (throw e >>= f) t b := by
  intro h
  obtain ⟨_, _, a, -, ha, -⟩ := returns_bind.1 h
  cases (Program.ends_done.1 ha).2

@[simp]
theorem returns_log {level : Log.Level} {message : String} {fields : List (String × Log.Value)}
    {t : List (Turn σ)} : Returns (log level message fields : Attempt σ ε Unit) t () ↔ t = [] := by
  simp [Returns, log, ExceptT.run, ExceptT.lift, ExceptT.mk, Program.log, Program.bind]

theorem run_mapError (f : ε → δ) (p : Attempt σ ε α) :
    (p.mapError f).run = p.run.bind fun r => .done (r.mapError f) := rfl

@[simp]
theorem returns_mapError {f : ε → δ} {p : Attempt σ ε α} {t : List (Turn σ)} {a : α} :
    Returns (p.mapError f) t a ↔ Returns p t a := by
  simp only [Returns, run_mapError, Program.ends_bind, Program.ends_done]
  constructor
  · rintro ⟨t₁, t₂, r, rfl, h, rfl, hr⟩
    cases r with
    | ok b => cases hr; simpa using h
    | error e => cases hr
  · intro h; exact ⟨t, [], .ok a, by simp, h, rfl, rfl⟩

theorem ends_mapError {f : ε → δ} {p : Attempt σ ε α} {t : List (Turn σ)} {r : Except δ α} :
    (p.mapError f).run.Ends t r ↔ ∃ x, p.run.Ends t x ∧ r = x.mapError f :=
  Program.ends_bind_silent fun _ => .done _

theorem run_tryCatch (p : Attempt σ ε α) (h : ε → Attempt σ ε α) :
    (tryCatch p h).run = p.run.bind fun r =>
      match r with
      | .ok a => .done (.ok a)
      | .error e => (h e).run := rfl

/-- An error is caught without a call. -/
theorem ends_tryCatch {p : Attempt σ ε α} {h : ε → Attempt σ ε α} {g : ε → Except ε α}
    (hh : ∀ e, (h e).run.Ends [] (g e)) {t : List (Turn σ)} {r : Except ε α} :
    (tryCatch p h).run.Ends t r ↔ ∃ x, p.run.Ends t x ∧ r = x.tryCatch g := by
  rw [run_tryCatch]
  refine Program.ends_bind_silent fun x => ?_
  cases x with
  | ok a => exact .done _
  | error e => exact hh e

theorem run_map (f : α → β) (p : Attempt σ ε α) :
    (f <$> p).run = p.run.bind fun r =>
      match r with
      | .ok a => .done (.ok (f a))
      | .error e => .done (.error e) := rfl

theorem ends_map {f : α → β} {p : Attempt σ ε α} {t : List (Turn σ)} {r : Except ε β} :
    (f <$> p).run.Ends t r ↔ ∃ x, p.run.Ends t x ∧ r = x.map f := by
  rw [run_map]
  refine Program.ends_bind_silent fun x => ?_
  cases x <;> exact .done _

/-- Nothing is the result where an error is caught. -/
theorem ends_recover {p : Attempt σ ε α} {h : ε → Attempt σ ε (Option α)}
    {g : ε → Except ε (Option α)} (hh : ∀ e, (h e).run.Ends [] (g e)) {t : List (Turn σ)}
    {r : Except ε (Option α)} :
    (tryCatch (some <$> p) h).run.Ends t r ↔
      ∃ x, p.run.Ends t x ∧ r = (x.map some).tryCatch g := by
  rw [ends_tryCatch hh]
  constructor
  · rintro ⟨y, hy, rfl⟩
    obtain ⟨x, hx, rfl⟩ := ends_map.1 hy
    exact ⟨x, hx, rfl⟩
  · rintro ⟨x, hx, rfl⟩
    exact ⟨_, ends_map.2 ⟨x, hx, rfl⟩, rfl⟩

/-- What follows an event and an attempt makes no calls. -/
theorem ends_log_bind {level : Log.Level} {message : String} {fields : List (String × Log.Value)}
    {p : Attempt σ ε α} {f : α → Attempt σ ε β} {g : α → Except ε β}
    (hf : ∀ a, (f a).run.Ends [] (g a)) {t : List (Turn σ)} {r : Except ε β} :
    (log level message fields >>= fun _ => p >>= f).run.Ends t r ↔
      ∃ x, p.run.Ends t x ∧ r = x.bind g := by
  show Program.Ends (.note ⟨level, message, fields⟩ (p >>= f).run) t r ↔ _
  rw [Program.ends_note, run_bind]
  refine Program.ends_bind_silent fun x => ?_
  cases x with
  | ok a => exact hf a
  | error e => exact .done _

end Attempt

end BucketAccess
