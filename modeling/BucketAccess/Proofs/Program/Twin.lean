import BucketAccess.Proofs.Program.Attempt
import Mathlib.Data.List.Forall2

/-!
# Twins

Two programs side by side, each with replies of its own. Twins make the same calls and write the
same events as long as what they are answered is alike, and end with values in a relation. A program
is its own twin where alike replies to its calls are the same replies.
-/

namespace BucketAccess

/-- When two replies to a call are alike. -/
abbrev Likeness (σ : Signature) := (c : σ.Call) → σ.Reply c → σ.Reply c → Prop

variable {σ τ : Signature} {α β γ δ ε ζ : Type}

/-- Replies to this call are alike only if they are the same. -/
def Likeness.IsExact (like : Likeness σ) (c : σ.Call) : Prop := ∀ r r', like c r r' → r = r'

/-- Answers that a run may get: how its `n`-th call is answered, whichever it is. -/
abbrev Script (σ : Signature) := Nat → (c : σ.Call) → σ.Reply c

/-- Counts the calls and answers each by the script. -/
def Script.answer (s : Script σ) (c : σ.Call) (n : Nat) : σ.Reply c × Nat := (s n c, n + 1)

/-- From the `n`-th call on, calls are answered as in these turns. -/
def Script.Gives (s : Script σ) : Nat → List (Turn σ) → Prop
  | _, [] => True
  | n, u :: t => s n u.call = u.reply ∧ s.Gives (n + 1) t

namespace Program

theorem run_of_ends {s : Script σ} {p : Program σ α} {t : List (Turn σ)} {a : α} (h : Ends p t a)
    {n : Nat} (hs : s.Gives n t) : (p.run s.answer n).1 = a := by
  induction h generalizing n with
  | done a => rfl
  | note _ ih => exact ih hs
  | @call c next r t a _ ih =>
    show ((next (s n c)).run s.answer (n + 1)).1 = a
    rw [show s n c = r from hs.1]
    exact ih hs.2

/-- Calls that are made as calls of another kind, with a trace for each. -/
theorem Ends.flatten {perform : (c : σ.Call) → Program τ (σ.Reply c)} {p : Program σ α}
    {t : List (Turn σ)} {a : α} (h : Ends p t a) {parts : List (List (Turn τ))}
    (hparts : List.Forall₂ (fun u part => Ends (perform u.call) part u.reply) t parts) :
    Ends (p.via perform) parts.flatten a := by
  induction h generalizing parts with
  | done a =>
    cases hparts
    exact .done a
  | note _ ih => exact .note (ih hparts)
  | call _ ih =>
    cases hparts with
    | cons hfirst hrest => exact ends_bind.2 ⟨_, _, _, rfl, hfirst, ih hrest⟩

/-! ## The calls of a program -/

/-- Whatever it is answered, the program makes only such calls. -/
def OnlyCalls (P : σ.Call → Prop) : Program σ α → Prop
  | done _ => True
  | note _ rest => rest.OnlyCalls P
  | call c next => P c ∧ ∀ r, (next r).OnlyCalls P

variable {P : σ.Call → Prop}

theorem OnlyCalls.bind {p : Program σ α} {f : α → Program σ β} (hp : p.OnlyCalls P)
    (hf : ∀ a, (f a).OnlyCalls P) : (p.bind f).OnlyCalls P := by
  induction p with
  | done a => exact hf a
  | note e rest ih => exact ih hp
  | call c next ih => exact ⟨hp.1, fun r => ih r (hp.2 r)⟩

theorem OnlyCalls.mono {Q : σ.Call → Prop} (hPQ : ∀ c, P c → Q c) {p : Program σ α}
    (hp : p.OnlyCalls P) : p.OnlyCalls Q := by
  induction p with
  | done a => trivial
  | note e rest ih => exact ih hp
  | call c next ih => exact ⟨hPQ c hp.1, fun r => ih r (hp.2 r)⟩

/-- The calls by which other calls are made. -/
theorem OnlyCalls.via {perform : (c : τ.Call) → Program σ (τ.Reply c)}
    (hperform : ∀ c, (perform c).OnlyCalls P) (p : Program τ α) : (p.via perform).OnlyCalls P := by
  induction p with
  | done a => trivial
  | note e rest ih => exact ih
  | call c next ih => exact (hperform c).bind fun r => ih r

/-- The calls of a program are those of its traces, if each call can be answered. -/
theorem onlyCalls_iff (reply : (c : σ.Call) → σ.Reply c) {p : Program σ α} :
    p.OnlyCalls P ↔ ∀ t a, Ends p t a → ∀ u ∈ t, P u.call := by
  constructor
  · intro hp t a h
    induction h with
    | done a => simp
    | note _ ih => exact ih hp
    | call _ ih => exact List.forall_mem_cons.2 ⟨hp.1, ih (hp.2 _)⟩
  · intro h
    induction p with
    | done a => trivial
    | note e rest ih => exact ih fun t a hr => h t a (.note hr)
    | call c next ih =>
      obtain ⟨t, a, ht, -⟩ := exists_ends reply (next (reply c))
      refine ⟨h _ a (.call ht) _ (.head _), fun r => ih r fun t a hr u hu => ?_⟩
      exact h _ a (.call hr) u (.tail _ hu)

/-! ## Two programs -/

inductive Twin (like : Likeness σ) (R : α → β → Prop) : Program σ α → Program σ β → Prop where
  | done {a : α} {b : β} : R a b → Twin like R (done a) (done b)
  | note {e : Log.Event} {p : Program σ α} {q : Program σ β} :
      Twin like R p q → Twin like R (note e p) (note e q)
  | call {c : σ.Call} {next : σ.Reply c → Program σ α} {next' : σ.Reply c → Program σ β} :
      (∀ r r', like c r r' → Twin like R (next r) (next' r')) →
        Twin like R (call c next) (call c next')

namespace Twin

variable {like : Likeness σ} {R : α → β → Prop} {p : Program σ α} {q : Program σ β}

theorem bind {S : γ → δ → Prop} {f : α → Program σ γ} {g : β → Program σ δ}
    (h : Twin like R p q) (hf : ∀ a b, R a b → Twin like S (f a) (g b)) :
    Twin like S (p.bind f) (q.bind g) := by
  induction h with
  | done hab => exact hf _ _ hab
  | note _ ih => exact .note ih
  | call _ ih => exact .call fun r r' hr => ih r r' hr

theorem refl {p : Program σ α} (h : p.OnlyCalls like.IsExact) {R : α → α → Prop}
    (hR : ∀ a, R a a) : Twin like R p p := by
  induction p with
  | done a => exact .done (hR a)
  | note e rest ih => exact .note (ih h)
  | call c next ih =>
    refine .call fun r r' hr => ?_
    obtain rfl := h.1 r r' hr
    exact ih r (h.2 r)

/-- Calls may be made as calls of another kind, if alike replies to these make alike replies. -/
theorem via {like' : Likeness τ} {perform : (c : σ.Call) → Program τ (σ.Reply c)}
    (hperform : ∀ c, Twin like' (like c) (perform c) (perform c)) (h : Twin like R p q) :
    Twin like' R (p.via perform) (q.via perform) := by
  induction h with
  | done hab => exact .done hab
  | note _ ih => exact .note ih
  | call _ ih => exact (hperform _).bind fun r r' hr => ih r r' hr

/-- What twins do when they are run: the same, up to the values they end with. -/
theorem run (h : Twin like R p q) {s s' : Script σ} (hs : ∀ n c, like c (s n c) (s' n c))
    (n : Nat) :
    R (p.run s.answer n).1 (q.run s'.answer n).1 ∧
      (q.run s'.answer n).2.1 = (p.run s.answer n).2.1 ∧
      (q.turns s'.answer n).map Turn.call = (p.turns s.answer n).map Turn.call := by
  induction h generalizing n with
  | done hab => exact ⟨hab, rfl, rfl⟩
  | @note e p q _ ih =>
    obtain ⟨hvalue, hevents, hcalls⟩ := ih n
    refine ⟨hvalue, ?_, hcalls⟩
    show e :: (q.run s'.answer n).2.1 = e :: (p.run s.answer n).2.1
    rw [hevents]
  | @call c next next' _ ih =>
    obtain ⟨hvalue, hevents, hcalls⟩ := ih _ _ (hs n c) (n + 1)
    refine ⟨hvalue, hevents, ?_⟩
    show c :: ((next' (s' n c)).turns s'.answer (n + 1)).map Turn.call =
      c :: ((next (s n c)).turns s.answer (n + 1)).map Turn.call
    rw [hcalls]

end Twin

end Program

/-! ## Attempts -/

/-- Two attempts succeed with values in a relation, or fail for the same reason. -/
inductive Outcomes (R : α → β → Prop) : Except ε α → Except ε β → Prop where
  | ok {a : α} {b : β} : R a b → Outcomes R (.ok a) (.ok b)
  | error (e : ε) : Outcomes R (.error e) (.error e)

theorem Outcomes.refl {R : α → α → Prop} (hR : ∀ a, R a a) (x : Except ε α) : Outcomes R x x := by
  cases x with
  | ok a => exact .ok (hR a)
  | error e => exact .error e

/-- Outcomes are the same up to what a function forgets. -/
theorem outcomes_of_map_eq {f : α → γ} {x x' : Except ε α} (h : x.map f = x'.map f) :
    Outcomes (fun a b => f a = f b) x x' := by
  cases x with
  | ok a =>
    cases x' with
    | ok b => exact .ok (Except.ok.inj h)
    | error e => cases h
  | error e =>
    cases x' with
    | ok b => cases h
    | error e' =>
      cases h
      exact .error e

theorem Outcomes.mapError {R : α → β → Prop} {x : Except ε α} {y : Except ε β} (f : ε → ζ)
    (h : Outcomes R x y) : Outcomes R (x.mapError f) (y.mapError f) := by
  cases h with
  | ok h => exact .ok h
  | error e => exact .error (f e)

namespace Attempt

section
variable {P : σ.Call → Prop} {p : Attempt σ ε α}

/-- Whatever it is answered, the attempt makes only such calls. -/
def OnlyCalls (P : σ.Call → Prop) (p : Attempt σ ε α) : Prop := p.run.OnlyCalls P

namespace OnlyCalls

theorem pure (a : α) : OnlyCalls P (Pure.pure a : Attempt σ ε α) := trivial

theorem throw (e : ε) : OnlyCalls P (MonadExcept.throw e : Attempt σ ε α) := trivial

theorem throw_bind (e : ε) (f : α → Attempt σ ε β) :
    OnlyCalls P (MonadExcept.throw e >>= f : Attempt σ ε β) := trivial

theorem ofExcept (r : Except ε α) : OnlyCalls P (Attempt.ofExcept r : Attempt σ ε α) := trivial

theorem log (level : Log.Level) (message : String) (fields : List (String × Log.Value)) :
    OnlyCalls P (Attempt.log level message fields : Attempt σ ε Unit) := trivial

theorem ask {c : σ.Call} (h : P c) : OnlyCalls P (Attempt.ask c : Attempt σ ε (σ.Reply c)) :=
  ⟨h, fun _ => trivial⟩

theorem bind {f : α → Attempt σ ε β} (hp : OnlyCalls P p) (hf : ∀ a, OnlyCalls P (f a)) :
    OnlyCalls P (p >>= f) := by
  unfold OnlyCalls
  rw [run_bind]
  refine Program.OnlyCalls.bind hp fun r => ?_
  cases r with
  | ok a => exact hf a
  | error e => trivial

theorem mapError (f : ε → δ) (hp : OnlyCalls P p) : OnlyCalls P (p.mapError f) := by
  unfold OnlyCalls
  rw [run_mapError]
  exact Program.OnlyCalls.bind hp fun _ => trivial

end OnlyCalls

end

/-- Twins whose outcomes are alike: both fail, for the same reason, or neither does. -/
def Twin (like : Likeness σ) (R : α → β → Prop) (p : Attempt σ ε α) (q : Attempt σ ε β) : Prop :=
  Program.Twin like (Outcomes R) p.run q.run

namespace Twin

variable {like : Likeness σ} {R : α → β → Prop} {p : Attempt σ ε α} {q : Attempt σ ε β}

theorem pure {a : α} {b : β} (h : R a b) :
    Twin like R (Pure.pure a : Attempt σ ε α) (Pure.pure b : Attempt σ ε β) := .done (.ok h)

theorem throw (e : ε) :
    Twin like R (MonadExcept.throw e : Attempt σ ε α) (MonadExcept.throw e : Attempt σ ε β) :=
  .done (.error e)

theorem ofExcept {x : Except ε α} {y : Except ε β} (h : Outcomes R x y) :
    Twin like R (Attempt.ofExcept x : Attempt σ ε α) (Attempt.ofExcept y) := .done h

theorem ask (c : σ.Call) :
    Twin like (like c) (Attempt.ask c : Attempt σ ε (σ.Reply c)) (Attempt.ask c) :=
  .call fun _ _ h => .done (.ok h)

theorem refl {p : Attempt σ ε α} (h : p.OnlyCalls like.IsExact) {R : α → α → Prop}
    (hR : ∀ a, R a a) : Twin like R p p := Program.Twin.refl h (Outcomes.refl hR)

theorem bind {S : γ → ζ → Prop} {f : α → Attempt σ ε γ} {g : β → Attempt σ ε ζ}
    (h : Twin like R p q) (hf : ∀ a b, R a b → Twin like S (f a) (g b)) :
    Twin like S (p >>= f) (q >>= g) := by
  unfold Twin
  rw [run_bind, run_bind]
  refine Program.Twin.bind h fun x y hxy => ?_
  cases hxy with
  | ok hab => exact hf _ _ hab
  | error e => exact .done (.error e)

/-- The same attempt on both sides first. -/
theorem bind_same {p : Attempt σ ε α} {S : γ → ζ → Prop} {f : α → Attempt σ ε γ}
    {g : α → Attempt σ ε ζ} (h : p.OnlyCalls like.IsExact)
    (hf : ∀ a, Twin like S (f a) (g a)) : Twin like S (p >>= f) (p >>= g) :=
  bind (refl h fun _ => rfl) fun a b hab => by
    obtain rfl : a = b := hab
    exact hf a

theorem mapError {f : ε → δ} (h : Twin like R p q) :
    Twin like R (p.mapError f) (q.mapError f) := by
  unfold Twin
  rw [run_mapError, run_mapError]
  exact Program.Twin.bind h fun x y hxy => .done (hxy.mapError f)

end Twin

end Attempt

end BucketAccess
