import BucketAccess.LockPool
import BucketAccess.Proofs.Provision.History
import BucketAccess.Proofs.Provision.Locking
import Mathlib.Logic.Function.Basic

/-!
# Interleavings

Operations that run at the same time, on the bucket of one id. Each step is the next of any of them;
one that waits for the lock stays where it is. However the steps fall, the world ends up as if the
operations had run one after the other, in the order in which they took the lock.
-/

namespace BucketAccess.Provision

open Policy (Document Statement Edit statementsOf)

variable {S U W α : Type}

/-! ## Steps -/

/-- The result of a program that is over. -/
def outcome? {σ : Signature} : Program σ α → Option α
  | .done a => some a
  | _ => none

/-- Operations under way, by label: what each has left to do, who took the lock so far, and what the
collaborators are like. -/
structure System (S U W : Type) where
  left : String → Program (api S U) (Except Error (Option Granted))
  pool : LockPool
  world : W
  order : List String

/-- The pool after a call of the operation with this label, unless that has to wait. -/
def Call.pool? (pool : LockPool) (label : String) : Call S U → Option LockPool
  | .lock key => pool.acquire? key label
  | .unlock _ => pool.release? label
  | _ => some pool

def Call.takesLock : Call S U → Bool
  | .lock _ => true
  | _ => false

theorem pool?_of_free {c : Call S U} (h : c.isLocking = false) {pool : LockPool} {label : String} :
    c.pool? pool label = some pool := by
  cases c <;> first | rfl | cases h

theorem takesLock_of_free {c : Call S U} (h : c.isLocking = false) : c.takesLock = false := by
  cases c <;> first | rfl | cases h

namespace System

def start (ops : String → Access) (slots : Nat) (w : W) : System S U W :=
  ⟨fun l => (ops l).program, .new slots, w, []⟩

/-- The next step of the operation with label `l`, if it is not over and need not wait. -/
def advance (answer : (c : Call S U) → W → c.Reply × W) (s : System S U W) (l : String) :
    System S U W :=
  match s.left l with
  | .done _ => s
  | .note _ rest => { s with left := Function.update s.left l rest }
  | .call c next =>
    match c.pool? s.pool l with
    | none => s
    | some pool =>
      { left := Function.update s.left l (next (answer c s.world).1)
        pool := pool
        world := (answer c s.world).2
        order := if c.takesLock then s.order ++ [l] else s.order }

def run (answer : (c : Call S U) → W → c.Reply × W) (schedule : List String)
    (s : System S U W) : System S U W :=
  schedule.foldl (advance answer) s

end System

/-! ## One after the other -/

/-- The result and the world at the end. -/
def final (answer : (c : Call S U) → W → c.Reply × W) (p : Program (api S U) α) (w : W) : α × W :=
  ((p.run answer w).1, (p.run answer w).2.2)

/-- The world after all operations of `order`, each of which ends before the next begins. -/
def serial (answer : (c : Call S U) → W → c.Reply × W) (ops : String → Access)
    (order : List String) (w : W) : W :=
  order.foldl (fun w l => (final answer (ops l).program w).2) w

variable {answer : (c : Call S U) → W → c.Reply × W} {ops : String → Access} {who : List String}
  {key : String} {w₀ : W} {holder : Option String} {s : System S U W} {l : String}

theorem serial_concat (order : List String) (l : String) (w : W) :
    serial answer ops (order ++ [l]) w =
      (final answer (ops l).program (serial answer ops order w)).2 := by
  simp [serial]

theorem final_of_reaches {p q : Program (api S U) α} (h : p.Reaches [] q) (w : W) :
    final answer p w = final answer q w := by
  generalize ht : ([] : List (Turn (api S U))) = t at h
  induction h with
  | refl => rfl
  | note _ ih => exact ih ht
  | call => cases ht

theorem exists_final_of_idle (answer : (c : Call S U) → W → c.Reply × W)
    {p : Program (api S U) α} (h : Idle p) : ∃ a, ∀ w, final answer p w = (a, w) := by
  induction p with
  | done a => exact ⟨a, fun _ => rfl⟩
  | note e rest ih => exact ih h
  | call c next => exact h.elim

/-! ## The invariant -/

/-- The operations that took the lock are over, but for the holder of the lock. If the holder went
on alone now, the world would be that of the serial run. -/
structure Ordered (answer : (c : Call S U) → W → c.Reply × W) (ops : String → Access)
    (who : List String) (key : String) (w₀ : W) (holder : Option String) (s : System S U W) :
    Prop where
  held : s.pool.held = holder.toList.map fun l => (l, s.pool.slot key)
  nodup : s.order.Nodup
  subset : ∀ l ∈ s.order, l ∈ who
  waiting : ∀ l ∈ who, l ∉ s.order → (ops l).program.Reaches [] (s.left l)
  idle : ∀ l ∈ s.order, holder ≠ some l → Idle (s.left l)
  inside : ∀ l, holder = some l → l ∈ s.order ∧ Inside key (s.left l)
  outcome : ∀ before l after, s.order = before ++ l :: after →
    (final answer (s.left l) s.world).1 =
      (final answer (ops l).program (serial answer ops before w₀)).1
  world : serial answer ops s.order w₀ =
    holder.elim s.world fun l => (final answer (s.left l) s.world).2

theorem ordered_start (slots : Nat) :
    Ordered answer ops who key w₀ none (System.start (S := S) (U := U) ops slots w₀) where
  held := rfl
  nodup := List.nodup_nil
  subset := nofun
  waiting l _ _ := .refl _
  idle := nofun
  inside := nofun
  outcome before l after h := by simp [System.start] at h
  world := rfl

namespace Ordered

variable (h : Ordered answer ops who key w₀ holder s)

include h

/-- An operation that is not the holder and took the lock is over, so the world is nothing to it. -/
theorem final_of_idle (hl : l ∈ s.order) (hh : holder ≠ some l) (w w' : W) :
    (final answer (s.left l) w).1 = (final answer (s.left l) w').1 := by
  obtain ⟨a, ha⟩ := exists_final_of_idle answer (h.idle l hl hh)
  rw [ha, ha]

/-- What is left of one operation is nothing to those that wait. -/
theorem waiting_update {k : String} (hk : k ∈ who) (hout : k ∉ s.order) (hkl : k ≠ l)
    (q : Program (api S U) (Except Error (Option Granted))) :
    (ops k).program.Reaches [] (Function.update s.left l q k) := by
  rw [Function.update_of_ne hkl]
  exact h.waiting k hk hout

/-- Nor to the outcomes of the others, if nobody else is the holder. -/
theorem outcome_update (hothers : ∀ k, k ≠ l → holder ≠ some k)
    {q : Program (api S U) (Except Error (Option Granted))} {w : W}
    (hq : final answer q w = final answer (s.left l) s.world) {before after : List String}
    {k : String} (ho : s.order = before ++ k :: after) :
    (final answer (Function.update s.left l q k) w).1 =
      (final answer (ops k).program (serial answer ops before w₀)).1 := by
  by_cases hkl : k = l
  · subst hkl
    rw [Function.update_self, hq]
    exact h.outcome before k after ho
  · have hk : k ∈ s.order := by rw [ho]; simp
    rw [Function.update_of_ne hkl, h.final_of_idle hk (hothers k hkl) w s.world]
    exact h.outcome before k after ho

theorem note {e : Log.Event} {rest : Program (api S U) (Except Error (Option Granted))}
    (hn : s.left l = .note e rest) :
    Ordered answer ops who key w₀ holder { s with left := Function.update s.left l rest } := by
  -- nothing that is said of a program minds the note before it
  have hkeep : ∀ P : Program (api S U) (Except Error (Option Granted)) → Prop,
      (P (.note e rest) → P rest) → ∀ k, P (s.left k) → P (Function.update s.left l rest k) := by
    intro P hP k hk
    by_cases hkl : k = l
    · rw [hkl, Function.update_self]
      rw [hkl, hn] at hk
      exact hP hk
    · rwa [Function.update_of_ne hkl]
  have hfinal : ∀ k w, final answer (Function.update s.left l rest k) w =
      final answer (s.left k) w :=
    fun k w => hkeep (fun p => final answer p w = final answer (s.left k) w) id k rfl
  refine ⟨h.held, h.nodup, h.subset, ?_, ?_, ?_, ?_, ?_⟩
  · exact fun k hk hout =>
      hkeep (fun p => (ops k).program.Reaches [] p) .of_note k (h.waiting k hk hout)
  · exact fun k hk hh => hkeep Idle id k (h.idle k hk hh)
  · exact fun k hh => ⟨(h.inside k hh).1, hkeep (Inside key) id k (h.inside k hh).2⟩
  · exact fun before k after ho =>
      (congrArg Prod.fst (hfinal k _)).trans (h.outcome before k after ho)
  · have hworld := h.world
    cases holder with
    | none => exact hworld
    | some k => exact hworld.trans (congrArg Prod.snd (hfinal k _)).symm

variable {c : Call S U} {next : c.Reply → Program (api S U) (Except Error (Option Granted))}
  {pool : LockPool}

omit h in
theorem final_of_call (hc : s.left l = .call c next) :
    final answer (next (answer c s.world).1) (answer c s.world).2 =
      final answer (s.left l) s.world := by
  rw [hc]
  rfl

/-- A call of the holder that leaves the lock alone. -/
theorem ask (hh : holder = some l) (hc : s.left l = .call c next)
    (hnext : ∀ r, Inside key (next r)) :
    Ordered answer ops who key w₀ holder
      { s with left := Function.update s.left l (next (answer c s.world).1)
               world := (answer c s.world).2 } := by
  subst hh
  have hl := (h.inside l rfl).1
  have hothers : ∀ k, k ≠ l → some l ≠ some k := fun k hkl he => hkl (Option.some.inj he).symm
  refine ⟨h.held, h.nodup, h.subset, ?_, ?_, ?_, ?_, ?_⟩
  · exact fun k hk hout => h.waiting_update hk hout (fun he => hout (he ▸ hl)) _
  · intro k hk hn
    have hkl : k ≠ l := fun he => hn (congrArg some he.symm)
    simp only [Function.update_of_ne hkl]
    exact h.idle k hk hn
  · rintro k ⟨⟩
    refine ⟨hl, ?_⟩
    simp only [Function.update_self]
    exact hnext _
  · exact fun before k after ho => h.outcome_update hothers (final_of_call hc) ho
  · refine h.world.trans ?_
    simp only [Option.elim_some, Function.update_self, final_of_call hc]

/-- The lock goes to an operation that has waited for it. -/
theorem acquire (hh : holder = none) (hl : l ∈ who) (hout : l ∉ s.order)
    (hc : s.left l = .call c next) (hnext : ∀ r, Inside key (next r))
    (hsize : pool.size = s.pool.size) (hpool : pool.held = [(l, s.pool.slot key)]) :
    Ordered answer ops who key w₀ (some l)
      { left := Function.update s.left l (next (answer c s.world).1)
        pool := pool
        world := (answer c s.world).2
        order := s.order ++ [l] } := by
  subst hh
  have hfinal : final answer (next (answer c s.world).1) (answer c s.world).2 =
      final answer (ops l).program s.world :=
    (final_of_call hc).trans (final_of_reaches (h.waiting l hl hout) s.world).symm
  have hne : ∀ k ∈ s.order, k ≠ l := fun k hk he => hout (he ▸ hk)
  refine ⟨?_, ?_, ?_, ?_, ?_, ?_, ?_, ?_⟩
  · simp [hpool, LockPool.slot, hsize]
  · exact List.nodup_append.2 ⟨h.nodup, by simp, by simpa using hne⟩
  · exact List.forall_mem_append.2 ⟨h.subset, by simpa using hl⟩
  · intro k hk hkout
    rw [List.mem_append, not_or] at hkout
    exact h.waiting_update hk hkout.1 (by simpa using hkout.2) _
  · intro k hk hn
    have hkl : k ≠ l := fun he => hn (congrArg some he.symm)
    have hk : k ∈ s.order := by simpa [hkl] using hk
    simp only [Function.update_of_ne hkl]
    exact h.idle k hk nofun
  · rintro k ⟨⟩
    refine ⟨by simp, ?_⟩
    simp only [Function.update_self]
    exact hnext _
  · intro before k after ho
    rcases List.eq_nil_or_concat after with rfl | ⟨after, x, rfl⟩
    · -- the operation that has the lock now
      obtain ⟨rfl, hkl⟩ := List.append_inj' ho rfl
      obtain rfl : l = k := by simpa using hkl
      simp only [Function.update_self, hfinal, h.world, Option.elim_none]
    · rw [List.concat_eq_append, ← List.cons_append, ← List.append_assoc] at ho
      obtain ⟨ho, -⟩ := List.append_inj' ho rfl
      exact h.outcome_update (fun _ _ => nofun) (final_of_call hc) ho
  · simp only [serial_concat, h.world, Option.elim_none, Option.elim_some, Function.update_self,
      hfinal]

theorem release (hh : holder = some l) (hc : s.left l = .call c next) (hnext : ∀ r, Idle (next r))
    (hpool : pool.held = []) :
    Ordered answer ops who key w₀ none
      { s with left := Function.update s.left l (next (answer c s.world).1)
               pool := pool
               world := (answer c s.world).2 } := by
  subst hh
  have hl := (h.inside l rfl).1
  have hothers : ∀ k, k ≠ l → some l ≠ some k := fun k hkl he => hkl (Option.some.inj he).symm
  obtain ⟨a, ha⟩ := exists_final_of_idle answer (hnext (answer c s.world).1)
  refine ⟨hpool, h.nodup, h.subset, ?_, ?_, nofun, ?_, ?_⟩
  · exact fun k hk hout => h.waiting_update hk hout (fun he => hout (he ▸ hl)) _
  · intro k hk _
    by_cases hkl : k = l
    · subst hkl
      simp only [Function.update_self]
      exact hnext _
    · simp only [Function.update_of_ne hkl]
      exact h.idle k hk (hothers k hkl)
  · exact fun before k after ho => h.outcome_update hothers (final_of_call hc) ho
  · refine h.world.trans ?_
    simp only [Option.elim_some, Option.elim_none, ← final_of_call hc, ha]

theorem advance [Inhabited S] [Inhabited U] (hl : l ∈ who) (hkey : (ops l).bucketId = key) :
    ∃ holder', Ordered answer ops who key w₀ holder' (s.advance answer l) := by
  unfold System.advance
  split
  · exact ⟨holder, h⟩
  · next e rest hn => exact ⟨holder, h.note hn⟩
  · next c next hc =>
    split
    · exact ⟨holder, h⟩
    · next pool hp =>
      by_cases hout : l ∈ s.order
      · by_cases hh : holder = some l
        · have hinside := (h.inside l hh).2
          rw [hc] at hinside
          rcases hinside with ⟨rfl, hnext⟩ | ⟨hfree, hnext⟩
          · have hheld : pool.held = [] := by
              have hany : s.pool.held.any (·.1 == l) = true := by simp [h.held, hh]
              simp only [Call.pool?, LockPool.release?, if_pos hany] at hp
              cases hp
              simp [LockPool.drop, h.held, hh]
            exact ⟨none, h.release hh hc hnext hheld⟩
          · obtain rfl : s.pool = pool := Option.some.inj ((pool?_of_free hfree).symm.trans hp)
            rw [takesLock_of_free hfree]
            exact ⟨holder, h.ask hh hc hnext⟩
        · have hidle := h.idle l hout hh
          rw [hc] at hidle
          exact hidle.elim
      · have houtside := (hkey ▸ (ops l).outside).of_reaches (h.waiting l hl hout)
        rw [hc] at houtside
        obtain ⟨rfl, hnext⟩ := houtside
        -- a holder would keep the slot
        have hh : holder = none := by
          cases holder with
          | none => rfl
          | some k => simp [Call.pool?, LockPool.acquire?, LockPool.isHeld, h.held] at hp
        subst hh
        have hfree : s.pool.isHeld (s.pool.slot key) = false := by
          simp [LockPool.isHeld, h.held]
        simp only [Call.pool?, LockPool.acquire?, hfree] at hp
        cases hp
        exact ⟨some l, h.acquire rfl hl hout hc hnext rfl (by simp [LockPool.drop, h.held])⟩

end Ordered

theorem ordered_run [Inhabited S] [Inhabited U] (hkey : ∀ l ∈ who, (ops l).bucketId = key)
    {schedule : List String} (hs : ∀ l ∈ schedule, l ∈ who) (slots : Nat) :
    ∃ holder, Ordered answer ops who key w₀ holder
      ((System.start (S := S) (U := U) ops slots w₀).run answer schedule) := by
  suffices hrun : ∀ s : System S U W, (∃ holder, Ordered answer ops who key w₀ holder s) →
      ∃ holder, Ordered answer ops who key w₀ holder (s.run answer schedule) from
    hrun _ ⟨none, ordered_start slots⟩
  intro s h
  induction schedule generalizing s with
  | nil => exact h
  | cons l rest ih =>
    obtain ⟨holder, h⟩ := h
    have hl := hs l (.head _)
    exact ih (fun k hk => hs k (.tail _ hk)) _ (h.advance hl (hkey l hl))

/-! ## Policies -/

variable {policy : W → Option Document} {bucket : String}

theorem follows_policy
    (hpolicy : ∀ c w, PolicyStep bucket (policy w) ⟨c, (answer c w).1⟩ (policy (answer c w).2))
    (p : Program (api S U) α) (w : W) :
    Program.Follows (PolicyStep bucket) (policy w) (p.turns answer w)
      (policy (final answer p w).2) := by
  have h : Program.Follows (fun w u w' => PolicyStep bucket (policy w) u (policy w')) w
      (p.turns answer w) (final answer p w).2 := Program.follows_turns hpolicy p w
  exact h.map (f := policy) fun _ _ _ hs => hs

/-- Operations for others leave the statements of a principal alone. -/
theorem filter_serial [Inhabited S] [Inhabited U] {principal : String}
    (hpolicy : ∀ c w, PolicyStep bucket (policy w) ⟨c, (answer c w).1⟩ (policy (answer c w).2))
    {order : List String} (horder : ∀ l ∈ order, (ops l).target? ≠ some (bucket, principal))
    (w : W) :
    (statementsOf (policy (serial answer ops order w))).filter (·.sid = principal) =
      (statementsOf (policy w)).filter (·.sid = principal) := by
  induction order generalizing w with
  | nil => rfl
  | cons l rest ih =>
    refine (ih (fun k hk => horder k (.tail _ hk)) _).trans ?_
    have hends := Program.ends_turns answer (ops l).program w
    refine Access.filter_eq (q := fun sid => decide (sid = principal)) hends
      (follows_policy hpolicy _ w) fun pr ht => decide_eq_false ?_
    rintro rfl
    exact horder l (.head _) ht

/-- What holds when all operations of `who` are over. -/
structure Serialized (answer : (c : Call S U) → W → c.Reply × W) (ops : String → Access)
    (who : List String) (key : String) (w₀ : W) (s : System S U W) : Prop where
  nodup : s.order.Nodup
  subset : ∀ l ∈ s.order, l ∈ who
  /-- The world, and with it the policy of the bucket, is that of the serial run. -/
  world : s.world = serial answer ops s.order w₀
  outcome : ∀ before l after, s.order = before ++ l :: after →
    outcome? (s.left l) =
      some (final answer (ops l).program (serial answer ops before w₀)).1
  /-- Without the lock an operation fails, and does nothing to the world. -/
  unlocked : ∀ l ∈ who, l ∉ s.order → ∃ e, outcome? (s.left l) = some (.error e) ∧
    ∀ w, final answer (ops l).program w = (.error e, w)
  /-- A grant that succeeds is in the policy, if no other operation is for its principal. -/
  granted : ∀ id, ResourceId.decode key = .ok id → ∀ policy : W → Option Document,
    (∀ c w, PolicyStep id.resource (policy w) ⟨c, (answer c w).1⟩ (policy (answer c w).2)) →
    ∀ l ∈ who, ∀ r got, ops l = .grant r → outcome? (s.left l) = some (.ok got) →
    (∀ k ∈ who, k ≠ l → (ops k).target? ≠ (ops l).target?) →
    ∃ before after grantee model locator, s.order = before ++ l :: after ∧
      r.check = .ok (grantee, model) ∧
      locator? ((ops l).program.turns answer (serial answer ops before w₀)) = some locator ∧
      .grant r.principal locator model id.resource ∈ statementsOf (policy s.world)

theorem final_of_outcome? {p : Program (api S U) α} {a : α} (h : outcome? p = some a) (w : W) :
    final answer p w = (a, w) := by
  cases p with
  | done b =>
    cases h
    rfl
  | note => cases h
  | call => cases h

theorem Ordered.holder_eq_none (h : Ordered answer ops who key w₀ holder s)
    (hover : ∀ l ∈ who, (outcome? (s.left l)).isSome) : holder = none := by
  cases holder with
  | none => rfl
  | some l =>
    obtain ⟨hl, hinside⟩ := h.inside l rfl
    have hsome := hover l (h.subset l hl)
    cases hp : s.left l with
    | done => rw [hp] at hinside; exact hinside.elim
    | note => rw [hp] at hsome; cases hsome
    | call => rw [hp] at hsome; cases hsome

theorem Ordered.outcome_eq (h : Ordered answer ops who key w₀ holder s) {before after : List String}
    (ho : s.order = before ++ l :: after) (hover : (outcome? (s.left l)).isSome) :
    outcome? (s.left l) = some (final answer (ops l).program (serial answer ops before w₀)).1 := by
  obtain ⟨a, ha⟩ := Option.isSome_iff_exists.1 hover
  rw [← h.outcome before l after ho, final_of_outcome? ha, ha]

section

variable [Inhabited S] [Inhabited U]

theorem Ordered.unlocked (h : Ordered answer ops who key w₀ holder s) (hl : l ∈ who)
    (hout : l ∉ s.order) (hover : (outcome? (s.left l)).isSome) :
    ∃ e, outcome? (s.left l) = some (.error e) ∧
      ∀ w, final answer (ops l).program w = (.error e, w) := by
  obtain ⟨a, ha⟩ := Option.isSome_iff_exists.1 hover
  have hreaches := h.waiting l hl hout
  have hfinal : ∀ w, final answer (ops l).program w = (a, w) :=
    fun w => (final_of_reaches hreaches w).trans (final_of_outcome? ha w)
  cases hp : s.left l with
  | note => rw [hp] at ha; cases ha
  | call => rw [hp] at ha; cases ha
  | done b =>
    rw [hp] at ha hreaches
    obtain rfl : b = a := Option.some.inj ha
    rcases Access.conforms (hreaches.ends (.done b)) with ⟨e, rfl, -⟩ | ⟨_, _, _, ht, -⟩
    · exact ⟨e, rfl, hfinal⟩
    · cases ht

/-- A grant that succeeds has put its statement. -/
theorem mem_of_granted {r : Grant} {id : ResourceId} {got : Option Granted} {w : W}
    (hd : ResourceId.decode r.bucketId = .ok id)
    (hpolicy : ∀ c w, PolicyStep id.resource (policy w) ⟨c, (answer c w).1⟩ (policy (answer c w).2))
    (hok : (final answer (Access.grant r).program w).1 = .ok got) : ∃ grantee model locator,
      r.check = .ok (grantee, model) ∧
      locator? ((Access.grant r).program.turns answer w) = some locator ∧
      .grant r.principal locator model id.resource ∈
        statementsOf (policy (final answer (Access.grant r).program w).2) := by
  have hends := Program.ends_turns answer (Access.grant r).program w
  rcases Access.effect hends (follows_policy hpolicy _ w) with ⟨e, he, -⟩ | ⟨_, edit, -, he, hp⟩
  · cases hok.symm.trans he
  · obtain ⟨grantee, model, id', locator, hc, hd', hlocator, rfl⟩ := Access.edit?_grant he
    obtain rfl : id = id' := Except.ok.inj (hd.symm.trans hd')
    refine ⟨grantee, model, locator, hc, hlocator, ?_⟩
    rw [hp, if_pos rfl, Policy.statementsOf_put]
    exact Document.mem_merge

theorem Serialized.of_ordered (hkey : ∀ l ∈ who, (ops l).bucketId = key)
    (h : Ordered answer ops who key w₀ holder s)
    (hover : ∀ l ∈ who, (outcome? (s.left l)).isSome) : Serialized answer ops who key w₀ s := by
  obtain rfl := h.holder_eq_none hover
  refine ⟨h.nodup, h.subset, h.world.symm, ?_, ?_, ?_⟩
  · exact fun before l after ho => h.outcome_eq ho (hover l (h.subset l (by rw [ho]; simp)))
  · exact fun l hl hout => h.unlocked hl hout (hover l hl)
  · intro id hd policy hpolicy l hl r got hop hgot hothers
    have hmem : l ∈ s.order := by
      by_contra hout
      obtain ⟨e, he, -⟩ := h.unlocked hl hout (hover l hl)
      cases hgot.symm.trans he
    obtain ⟨before, after, ho⟩ := List.append_of_mem hmem
    have hbucketId : r.bucketId = key := by
      have hk := hkey l hl
      rwa [hop] at hk
    have hok := Option.some.inj ((h.outcome_eq ho (hover l hl)).symm.trans hgot)
    rw [hop] at hok hothers
    obtain ⟨grantee, model, locator, hc, hlocator, hput⟩ :=
      mem_of_granted (hbucketId ▸ hd) hpolicy hok
    refine ⟨before, after, grantee, model, locator, ho, hc, by rwa [hop], ?_⟩
    have htarget : (Access.grant r).target? = some (id.resource, r.principal) := by
      simp only [Access.target?, hc, hbucketId, hd]
    have hafter : ∀ k ∈ after, (ops k).target? ≠ some (id.resource, r.principal) := by
      intro k hk ht
      have hnodup := h.nodup
      rw [ho, List.nodup_append] at hnodup
      have hkl : k ≠ l := fun he => (List.nodup_cons.1 hnodup.2.1).1 (he ▸ hk)
      exact hothers k (h.subset k (by rw [ho]; simp [hk])) hkl (ht.trans htarget.symm)
    have hworld : s.world =
        serial answer ops after (final answer (ops l).program (serial answer ops before w₀)).2 := by
      refine h.world.symm.trans ?_
      rw [ho]
      simp [serial]
    -- the operations that came after left the principal's statements as they were
    have hfilter := filter_serial hpolicy hafter
      (final answer (ops l).program (serial answer ops before w₀)).2
    rw [← hworld, hop] at hfilter
    have hin := (List.mem_filter (p := fun t => decide (t.sid = r.principal))).2
      ⟨hput, decide_eq_true rfl⟩
    rw [← hfilter] at hin
    exact (List.mem_filter.1 hin).1

/-- Operations on the bucket of one id, however their steps fall: the world at the end is that of
running them one after the other in the order in which they took the lock. -/
theorem no_lost_update (hkey : ∀ l ∈ who, (ops l).bucketId = key)
    {schedule : List String} (hs : ∀ l ∈ schedule, l ∈ who) (slots : Nat)
    (hover : ∀ l ∈ who, (outcome?
      (((System.start (S := S) (U := U) ops slots w₀).run answer schedule).left l)).isSome) :
    Serialized answer ops who key w₀
      ((System.start (S := S) (U := U) ops slots w₀).run answer schedule) := by
  have hrun : ∃ holder, Ordered answer ops who key w₀ holder
      ((System.start (S := S) (U := U) ops slots w₀).run answer schedule) :=
    ordered_run hkey hs slots
  obtain ⟨holder, h⟩ := hrun
  exact .of_ordered hkey h hover

end

/-! ## Two grants at once -/

def twoGrants (label : String) : Access := grantTo (if label = "a" then "reader" else "writer")

/-- The two take turns, step by step. -/
def takingTurns : System Unit Unit Policies :=
  (System.start twoGrants 1 fun _ => none).run obliging (List.replicate 30 ["a", "b"]).flatten

theorem no_lost_update_taking_turns :
    Serialized obliging twoGrants ["a", "b"] "owners/owner/bucket" (fun _ => none) takingTurns ∧
    (takingTurns.world "bucket").map (fun d => d.statements.map Statement.sid) =
      some ["reader", "writer"] := by
  have hkey : ∀ l ∈ ["a", "b"], (twoGrants l).bucketId = "owners/owner/bucket" := fun _ _ => rfl
  have hschedule : ∀ l ∈ (List.replicate 30 ["a", "b"]).flatten, l ∈ ["a", "b"] := by decide
  refine ⟨no_lost_update hkey hschedule 1 ?_, ?_⟩
  · decide +kernel
  · decide +kernel

end BucketAccess.Provision
