import BucketAccess.Program

/-!
# Traces

A program seen from outside: the calls that it makes, each with the reply to it. `Ends p t a` says
that `p` may make the calls of `t`, be replied to as in `t`, and end with `a`; replies are
arbitrary, so the traces of a program are all its behaviours. `turns` is the one trace against
given answers.
-/

namespace BucketAccess

/-- A call and the reply to it. -/
structure Turn (σ : Signature) where
  call : σ.Call
  reply : σ.Reply call

namespace Program

variable {σ τ : Signature} {α β S : Type}

inductive Ends : Program σ α → List (Turn σ) → α → Prop where
  | done (a : α) : Ends (done a) [] a
  | note {e : Log.Event} {rest : Program σ α} {t : List (Turn σ)} {a : α} :
      Ends rest t a → Ends (note e rest) t a
  | call {c : σ.Call} {next : σ.Reply c → Program σ α} {r : σ.Reply c} {t : List (Turn σ)} {a : α} :
      Ends (next r) t a → Ends (call c next) (⟨c, r⟩ :: t) a

@[simp]
theorem ends_done {a b : α} {t : List (Turn σ)} : Ends (done a) t b ↔ t = [] ∧ a = b := by
  constructor
  · intro h; cases h; exact ⟨rfl, rfl⟩
  · rintro ⟨rfl, rfl⟩; exact .done a

@[simp]
theorem ends_note {e : Log.Event} {rest : Program σ α} {t : List (Turn σ)} {a : α} :
    Ends (note e rest) t a ↔ Ends rest t a := by
  constructor
  · intro h; cases h; assumption
  · exact .note

@[simp]
theorem ends_call {c : σ.Call} {next : σ.Reply c → Program σ α} {t : List (Turn σ)} {a : α} :
    Ends (call c next) t a ↔ ∃ r t', t = ⟨c, r⟩ :: t' ∧ Ends (next r) t' a := by
  constructor
  · intro h; cases h with
    | call h => exact ⟨_, _, rfl, h⟩
  · rintro ⟨r, t', rfl, h⟩; exact .call h

theorem ends_ask {c : σ.Call} {r : σ.Reply c} {t : List (Turn σ)} :
    Ends (call c done) t r ↔ t = [⟨c, r⟩] := by
  simp only [ends_call, ends_done]
  constructor
  · rintro ⟨_, _, rfl, rfl, rfl⟩; rfl
  · rintro rfl; exact ⟨_, _, rfl, rfl, rfl⟩

@[simp]
theorem pure_eq_done (a : α) : (pure a : Program σ α) = done a := rfl

@[simp]
theorem map_eq_bind (f : α → β) (p : Program σ α) : f <$> p = p.bind fun a => done (f a) := rfl

theorem ends_bind {p : Program σ α} {f : α → Program σ β} {t : List (Turn σ)} {b : β} :
    Ends (p.bind f) t b ↔ ∃ t₁ t₂ a, t = t₁ ++ t₂ ∧ Ends p t₁ a ∧ Ends (f a) t₂ b := by
  induction p generalizing t with
  | done a =>
    constructor
    · intro h; exact ⟨[], t, a, rfl, .done a, h⟩
    · rintro ⟨t₁, t₂, a', rfl, h₁, h₂⟩
      obtain ⟨rfl, rfl⟩ := ends_done.1 h₁
      exact h₂
  | note e rest ih => simpa [bind] using ih
  | call c next ih =>
    constructor
    · intro h
      obtain ⟨r, t', rfl, hr⟩ := ends_call.1 h
      obtain ⟨t₁, t₂, a, rfl, h₁, h₂⟩ := (ih r).1 hr
      exact ⟨⟨c, r⟩ :: t₁, t₂, a, rfl, .call h₁, h₂⟩
    · rintro ⟨t₁, t₂, a, rfl, h₁, h₂⟩
      obtain ⟨r, t', rfl, hr⟩ := ends_call.1 h₁
      exact .call ((ih r).2 ⟨t', t₂, a, rfl, hr, h₂⟩)

/-- Without a call there is nothing to branch on. -/
theorem Ends.eq_of_nil {p : Program σ α} {t : List (Turn σ)} {a b : α} (ha : Ends p [] a)
    (hb : Ends p t b) : t = [] ∧ a = b := by
  induction p with
  | done => simp_all
  | note e rest ih => exact ih (ends_note.1 ha) (ends_note.1 hb)
  | call c next => obtain ⟨r, t', h, -⟩ := ends_call.1 ha; cases h

/-- What is done with the result makes no calls. -/
theorem ends_bind_silent {p : Program σ α} {f : α → Program σ β} {g : α → β}
    (hf : ∀ a, Ends (f a) [] (g a)) {t : List (Turn σ)} {b : β} :
    Ends (p.bind f) t b ↔ ∃ a, Ends p t a ∧ b = g a := by
  rw [ends_bind]
  constructor
  · rintro ⟨t₁, t₂, a, rfl, h₁, h₂⟩
    obtain ⟨rfl, rfl⟩ := (hf a).eq_of_nil h₂
    exact ⟨a, by rwa [List.append_nil], rfl⟩
  · rintro ⟨a, h, rfl⟩
    exact ⟨t, [], a, (List.append_nil t).symm, h, hf a⟩

/-- A program each of whose calls is made as one call of another kind. -/
theorem ends_via {perform : (c : σ.Call) → Program τ (σ.Reply c)} {lift : Turn σ → Turn τ}
    (single : ∀ c t r, Ends (perform c) t r ↔ t = [lift ⟨c, r⟩]) {p : Program σ α}
    {t : List (Turn τ)} {a : α} :
    Ends (p.via perform) t a ↔ ∃ t', t = t'.map lift ∧ Ends p t' a := by
  induction p generalizing t with
  | done b =>
    simp only [via, ends_done]
    constructor
    · rintro ⟨rfl, rfl⟩; exact ⟨[], rfl, rfl, rfl⟩
    · rintro ⟨t', rfl, rfl, rfl⟩; exact ⟨rfl, rfl⟩
  | note e rest ih => simpa [via] using ih
  | call c next ih =>
    simp only [via, ends_bind, single, ih]
    constructor
    · rintro ⟨-, -, r, rfl, rfl, t', rfl, h⟩
      exact ⟨⟨c, r⟩ :: t', rfl, .call h⟩
    · rintro ⟨t', rfl, h⟩
      obtain ⟨r, t', rfl, hr⟩ := ends_call.1 h
      exact ⟨[lift ⟨c, r⟩], t'.map lift, r, rfl, rfl, t', rfl, hr⟩

theorem Ends.via {perform : (c : σ.Call) → Program τ (σ.Reply c)} {p : Program σ α} {a : α}
    (h : Ends p [] a) : Ends (p.via perform) [] a := by
  induction p with
  | done b =>
    obtain ⟨-, rfl⟩ := ends_done.1 h
    exact .done b
  | note e rest ih => exact .note (ih (ends_note.1 h))
  | call c next => obtain ⟨r, t', ht, -⟩ := ends_call.1 h; cases ht

/-- Makes these calls, is answered so, and then has `q` still to do. -/
inductive Reaches : Program σ α → List (Turn σ) → Program σ α → Prop where
  | refl (p : Program σ α) : Reaches p [] p
  | note {e : Log.Event} {rest q : Program σ α} {t : List (Turn σ)} :
      Reaches rest t q → Reaches (note e rest) t q
  | call {c : σ.Call} {next : σ.Reply c → Program σ α} {r : σ.Reply c} {t : List (Turn σ)}
      {q : Program σ α} : Reaches (next r) t q → Reaches (call c next) (⟨c, r⟩ :: t) q

theorem Reaches.ends {p q : Program σ α} {t t' : List (Turn σ)} {a : α} (h : Reaches p t q)
    (hq : Ends q t' a) : Ends p (t ++ t') a := by
  induction h with
  | refl => exact hq
  | note _ ih => exact .note (ih hq)
  | call _ ih => exact .call (ih hq)

theorem Reaches.of_note {p rest : Program σ α} {e : Log.Event} {t : List (Turn σ)}
    (h : Reaches p t (Program.note e rest)) : Reaches p t rest := by
  generalize hq : Program.note e rest = q at h
  induction h with
  | refl =>
    subst hq
    exact .note (.refl rest)
  | note _ ih => exact .note (ih hq)
  | call _ ih => exact .call (ih hq)

/-- Any choice of replies brings a program to its end. -/
theorem exists_ends (reply : (c : σ.Call) → σ.Reply c) (p : Program σ α) :
    ∃ t a, Ends p t a ∧ ∀ u ∈ t, u = ⟨u.call, reply u.call⟩ := by
  induction p with
  | done a => exact ⟨[], a, .done a, by simp⟩
  | note e rest ih =>
    obtain ⟨t, a, h, ht⟩ := ih
    exact ⟨t, a, .note h, ht⟩
  | call c next ih =>
    obtain ⟨t, a, h, ht⟩ := ih (reply c)
    refine ⟨⟨c, reply c⟩ :: t, a, .call h, fun u hu => ?_⟩
    rcases List.mem_cons.1 hu with rfl | hu
    · rfl
    · exact ht u hu

/-! ## Against given answers -/

/-- The calls that are made against `answer`, with their replies. -/
def turns (answer : (c : σ.Call) → S → σ.Reply c × S) : Program σ α → S → List (Turn σ)
  | done _, _ => []
  | note _ rest, s => rest.turns answer s
  | call c next, s => ⟨c, (answer c s).1⟩ :: (next (answer c s).1).turns answer (answer c s).2

theorem ends_turns (answer : (c : σ.Call) → S → σ.Reply c × S) (p : Program σ α) (s : S) :
    Ends p (p.turns answer s) (p.run answer s).1 := by
  induction p generalizing s with
  | done a => exact .done a
  | note e rest ih => exact .note (ih s)
  | call c next ih => exact .call (ih _ _)

/-! ## States along a trace -/

/-- The turns of `t` one after the other, each of which `step` allows, lead from `s` to `s'`. -/
def Follows (step : S → Turn σ → S → Prop) : S → List (Turn σ) → S → Prop
  | s, [], s' => s' = s
  | s, u :: t, s' => ∃ m, step s u m ∧ Follows step m t s'

theorem follows_append {step : S → Turn σ → S → Prop} {t₁ t₂ : List (Turn σ)} {s s' : S} :
    Follows step s (t₁ ++ t₂) s' ↔ ∃ m, Follows step s t₁ m ∧ Follows step m t₂ s' := by
  induction t₁ generalizing s with
  | nil => simp [Follows]
  | cons u t ih =>
    simp only [List.cons_append, Follows, ih]
    constructor
    · rintro ⟨x, hx, m, h₁, h₂⟩; exact ⟨m, ⟨x, hx, h₁⟩, h₂⟩
    · rintro ⟨m, ⟨x, hx, h₁⟩, h₂⟩; exact ⟨x, hx, m, h₁, h₂⟩

theorem Follows.map {T : Type} {step : S → Turn σ → S → Prop} {step' : T → Turn σ → T → Prop}
    {f : S → T} (hf : ∀ s u s', step s u s' → step' (f s) u (f s')) {t : List (Turn σ)} {s s' : S}
    (h : Follows step s t s') : Follows step' (f s) t (f s') := by
  induction t generalizing s with
  | nil => exact congrArg f h
  | cons u t ih =>
    obtain ⟨m, hm, h⟩ := h
    exact ⟨f m, hf s u m hm, ih h⟩

theorem follows_turns {step : S → Turn σ → S → Prop} {answer : (c : σ.Call) → S → σ.Reply c × S}
    (ha : ∀ c s, step s ⟨c, (answer c s).1⟩ (answer c s).2) (p : Program σ α) (s : S) :
    Follows step s (p.turns answer s) (p.run answer s).2.2 := by
  induction p generalizing s with
  | done a => rfl
  | note e rest ih => exact ih s
  | call c next ih => exact ⟨_, ha c s, ih _ _⟩

end Program

end BucketAccess
