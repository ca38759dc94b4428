import BucketAccess.LockPool
import Mathlib.Data.Fintype.Pigeonhole
import Mathlib.Data.List.Nodup

/-!
# Guards of a lock pool

A pool under any sequence of locks, attempts to lock and releases. `Usage` is the pool with the keys
for which its guards are out. No slot ever has two guards: a lock waits, and an attempt fails, just
as long as the guard of its slot is out, for whatever key that is.
-/

namespace BucketAccess.LockPool

/-! ## Slots -/

/-- 32-bit FNV-1 in natural numbers: each product keeps its last 32 bits. -/
def fnvNumber (bs : Bytes) : Nat :=
  bs.foldl (fun hash b => hash * 16777619 % 2 ^ 32 ^^^ b.toNat) 2166136261

theorem toNat_fnv1 (bs : Bytes) : (fnv1 bs).toNat = fnvNumber bs := by
  have hfold : ∀ hash : UInt32,
      (bs.foldl (fun hash b => hash * 0x01000193 ^^^ b.toUInt32) hash).toNat =
        bs.foldl (fun hash b => hash * 16777619 % 2 ^ 32 ^^^ b.toNat) hash.toNat := by
    induction bs with
    | nil => exact fun _ => rfl
    | cons b r ih =>
      intro hash
      rw [List.foldl_cons, ih, UInt32.toNat_xor, UInt32.toNat_mul, UInt8.toNat_toUInt32]
      rfl
  exact hfold 0x811C9DC5

example : fnvNumber (Utf8.bytes "foobar") = 0x31F0B262 := by decide

theorem slotFor_eq (key : String) (size : Nat) :
    slotFor key size = fnvNumber (Utf8.bytes key) % max size 1 := by
  rw [slotFor, toNat_fnv1]

theorem slotFor_lt (key : String) (size : Nat) : slotFor key size < max size 1 :=
  Nat.mod_lt _ (by omega)

/-- There are more keys than slots. -/
theorem exists_slotFor_eq (size : Nat) :
    ∃ key other, key ≠ other ∧ slotFor key size = slotFor other size := by
  have hinfinite : Infinite String :=
    Infinite.of_injective String.ofList fun _ _ h => String.ofList_inj.1 h
  obtain ⟨key, other, hne, h⟩ := Finite.exists_ne_map_eq_of_infinite fun key : String =>
    (⟨slotFor key size, slotFor_lt key size⟩ : Fin (max size 1))
  exact ⟨key, other, hne, congrArg Fin.val h⟩

/-! ## Steps -/

/-- What can be asked of a pool. A lock that has to wait is asked for again. -/
inductive Step where
  | lock (key label : String)
  | tryLock (key label : String)
  | release (label : String)

inductive Answer where
  | acquired
  | waits
  | busy
  | released
  | notHeld
  deriving DecidableEq

structure Guard where
  label : String
  key : String
  deriving DecidableEq

/-- A pool and the guards of it that are out. -/
structure Usage where
  pool : LockPool
  guards : List Guard

namespace Usage

def without (u : Usage) (label : String) : List Guard := u.guards.filter (·.label ≠ label)

def acquire (u : Usage) (key label : String) (refusal : Answer) : Answer × Usage :=
  match u.pool.acquire? key label with
  | some pool => (.acquired, ⟨pool, ⟨label, key⟩ :: u.without label⟩)
  | none => (refusal, u)

def step (u : Usage) : Step → Answer × Usage
  | .lock key label => u.acquire key label .waits
  | .tryLock key label => u.acquire key label .busy
  | .release label =>
    match u.pool.release? label with
    | some pool => (.released, ⟨pool, u.without label⟩)
    | none => (.notHeld, u)

/-- A new pool after these steps. -/
def after (size : Nat) (steps : List Step) : Usage :=
  steps.foldl (fun u s => (u.step s).2) ⟨.new size, []⟩

/-- The guard of the key's slot is out, if only for another key. -/
def Taken (u : Usage) (key : String) : Prop :=
  ∃ g ∈ u.guards, u.pool.slot g.key = u.pool.slot key

/-- One guard is back, and its slot is free; the other slots are as they were. -/
structure Freed (u : Usage) (g : Guard) (freed : Usage) : Prop where
  guards : ∀ h, h ∈ freed.guards ↔ h ∈ u.guards ∧ h ≠ g
  size : freed.pool.size = u.pool.size
  free : freed.pool.isHeld (u.pool.slot g.key) = false
  others : ∀ slot, slot ≠ u.pool.slot g.key → freed.pool.isHeld slot = u.pool.isHeld slot

/-! ## The invariant -/

/-- The pool knows the guards that are out by label and slot, and no label or slot has two. -/
structure Exclusive (size : Nat) (u : Usage) : Prop where
  size : u.pool.size = max size 1
  held : u.pool.held = u.guards.map fun g => (g.label, u.pool.slot g.key)
  labels : (u.guards.map Guard.label).Nodup
  slots : (u.guards.map fun g => u.pool.slot g.key).Nodup

variable {size : Nat} {u : Usage} {key label : String} {refusal : Answer}

theorem exclusive_new (size : Nat) : Exclusive size ⟨.new size, []⟩ :=
  ⟨rfl, rfl, List.nodup_nil, List.nodup_nil⟩

namespace Exclusive

variable (h : Exclusive size u)

include h

theorem isHeld_iff {slot : Nat} :
    u.pool.isHeld slot = true ↔ ∃ g ∈ u.guards, u.pool.slot g.key = slot := by
  simp [isHeld, h.held]

theorem acquire?_eq_none_iff : u.pool.acquire? key label = none ↔ u.Taken key := by
  rw [Taken, ← h.isHeld_iff, acquire?]
  split
  · next hheld => exact iff_of_true rfl hheld
  · next hheld => exact iff_of_false nofun hheld

theorem held_drop (label : String) :
    (u.pool.drop label).held = (u.without label).map fun g => (g.label, u.pool.slot g.key) := by
  rw [drop, h.held, List.filter_map, without]
  refine congrArg _ (List.filter_congr fun g _ => ?_)
  by_cases hg : g.label = label <;> simp [hg]

/-- Without some of its guards. -/
theorem drop (label : String) : Exclusive size ⟨u.pool.drop label, u.without label⟩ where
  size := h.size
  held := h.held_drop label
  labels := h.labels.sublist (List.filter_sublist.map _)
  slots := h.slots.sublist (List.filter_sublist.map _)

theorem acquire : Exclusive size (u.acquire key label refusal).2 := by
  unfold Usage.acquire
  split
  · next pool hpool =>
    have hfree : ¬ u.Taken key := fun htaken => by
      rw [h.acquire?_eq_none_iff.2 htaken] at hpool
      cases hpool
    unfold acquire? at hpool
    split at hpool
    · cases hpool
    cases hpool
    have hrest := h.drop label
    refine ⟨h.size, ?_, List.nodup_cons.2 ⟨?_, hrest.labels⟩, List.nodup_cons.2 ⟨?_, hrest.slots⟩⟩
    · rw [List.map_cons, h.held_drop label]
      rfl
    · simp [without]
    · intro hslot
      obtain ⟨g, hg, hsame⟩ := List.mem_map.1 hslot
      exact hfree ⟨g, (List.mem_filter.1 hg).1, hsame⟩
  · exact h

theorem step (s : Step) : Exclusive size (u.step s).2 := by
  cases s with
  | lock key label => exact h.acquire
  | tryLock key label => exact h.acquire
  | release label =>
    simp only [Usage.step, release?]
    split
    · next pool hpool =>
      split at hpool
      · cases hpool
        exact h.drop label
      · cases hpool
    · exact h

omit h in
theorem after (size : Nat) (steps : List Step) : Exclusive size (Usage.after size steps) := by
  have hrun : ∀ u, Exclusive size u →
      Exclusive size (steps.foldl (fun u s => (u.step s).2) u) := by
    induction steps with
    | nil => exact fun _ hu => hu
    | cons s r ih => exact fun u hu => ih _ (hu.step s)
  exact hrun _ (exclusive_new size)

/-! ## Answers -/

theorem acquire_eq_iff (hrefusal : refusal ≠ .acquired) :
    (u.acquire key label refusal).1 = refusal ↔ u.Taken key := by
  have hnone : u.pool.acquire? key label = none ↔ u.Taken key := h.acquire?_eq_none_iff
  rw [← hnone]
  unfold Usage.acquire
  split
  · next hpool => exact iff_of_false hrefusal.symm (by simp [hpool])
  · next hpool => exact iff_of_true rfl hpool

theorem release {g : Guard} (hg : g ∈ u.guards) :
    (u.step (.release g.label)).1 = .released ∧ Freed u g (u.step (.release g.label)).2 := by
  have hout : u.pool.held.any (·.1 == g.label) = true := by
    rw [h.held]
    simpa using ⟨g, hg, rfl⟩
  have hstep : u.step (.release g.label) =
      (.released, ⟨u.pool.drop g.label, u.without g.label⟩) := by
    simp only [Usage.step, release?, hout, if_true]
  rw [hstep]
  -- a label, like a slot, stands for one guard
  have hlabel : ∀ x ∈ u.guards, x.label = g.label → x = g :=
    fun x hx => List.inj_on_of_nodup_map h.labels hx hg
  have hslot : ∀ x ∈ u.guards, u.pool.slot x.key = u.pool.slot g.key → x = g :=
    fun x hx => List.inj_on_of_nodup_map h.slots hx hg
  have hguards : ∀ x, x ∈ u.without g.label ↔ x ∈ u.guards ∧ x ≠ g := by
    intro x
    rw [without, List.mem_filter, decide_eq_true_eq]
    exact and_congr_right fun hx =>
      ⟨fun hne he => hne (congrArg Guard.label he), fun hne he => hne (hlabel x hx he)⟩
  have hheld : ∀ slot, (u.pool.drop g.label).isHeld slot = true ↔
      ∃ x, (x ∈ u.guards ∧ x ≠ g) ∧ u.pool.slot x.key = slot := by
    intro slot
    rw [(h.drop g.label).isHeld_iff]
    exact exists_congr fun x => and_congr_left fun _ => hguards x
  refine ⟨rfl, hguards, rfl, ?_, fun slot hne => ?_⟩
  · rw [Bool.eq_false_iff, Ne, hheld]
    rintro ⟨x, ⟨hx, hne⟩, hsame⟩
    exact hne (hslot x hx hsame)
  · rw [Bool.eq_iff_iff, hheld, h.isHeld_iff]
    constructor
    · rintro ⟨x, ⟨hx, -⟩, hsame⟩
      exact ⟨x, hx, hsame⟩
    · rintro ⟨x, hx, rfl⟩
      refine ⟨x, ⟨hx, ?_⟩, rfl⟩
      rintro rfl
      exact hne rfl

end Exclusive

/-- Whatever was asked of a pool, its slots have one guard each, and the guard of the key's slot is
what a lock waits for. -/
theorem mutual_exclusion (size : Nat) (steps : List Step) :
    (after size steps).pool.size = max size 1 ∧
      (∀ key, (after size steps).pool.slot key = fnvNumber (Utf8.bytes key) % max size 1 ∧
        (after size steps).pool.slot key < max size 1) ∧
      (after size steps).guards.Pairwise (fun g h => g.key ≠ h.key ∧
        (after size steps).pool.slot g.key ≠ (after size steps).pool.slot h.key) ∧
      (∀ key label,
        (((after size steps).step (.tryLock key label)).1 = .busy ↔ (after size steps).Taken key) ∧
        (((after size steps).step (.lock key label)).1 = .waits ↔ (after size steps).Taken key)) ∧
      (∃ key other, key ≠ other ∧
        (after size steps).pool.slot key = (after size steps).pool.slot other) ∧
      ∀ g ∈ (after size steps).guards,
        ((after size steps).step (.release g.label)).1 = .released ∧
          Freed (after size steps) g ((after size steps).step (.release g.label)).2 := by
  have h := Exclusive.after size steps
  generalize after size steps = u at h
  refine ⟨h.size, fun key => ?_, ?_, fun key label => ⟨?_, ?_⟩, ?_, fun g hg => h.release hg⟩
  · have hone : max (max size 1) 1 = max size 1 := max_eq_left (Nat.le_max_right size 1)
    have hlt := slotFor_lt key (max size 1)
    rw [hone] at hlt
    rw [slot, h.size]
    exact ⟨by rw [slotFor_eq, hone], hlt⟩
  · refine (List.pairwise_map.1 h.slots).imp fun hne => ⟨fun he => hne ?_, hne⟩
    rw [he]
  · exact h.acquire_eq_iff nofun
  · exact h.acquire_eq_iff nofun
  · exact exists_slotFor_eq u.pool.size

/-- In a pool of two slots, a key is refused for another one, until that is given back. -/
theorem mutual_exclusion_shared :
    ((after 2 [.lock "a" "x", .lock "b" "y"]).step (.tryLock "c" "z")).1 = .busy ∧
      ((after 2 [.lock "a" "x", .lock "b" "y"]).step (.release "x")).1 = .released ∧
      ((after 2 [.lock "a" "x", .lock "b" "y", .release "x"]).step (.tryLock "c" "z")).1 ≠
        .busy := by
  obtain ⟨-, -, -, hanswers, -, hreleases⟩ := mutual_exclusion 2 [.lock "a" "x", .lock "b" "y"]
  obtain ⟨-, -, -, hafter, -, -⟩ :=
    mutual_exclusion 2 [.lock "a" "x", .lock "b" "y", .release "x"]
  have hout : (after 2 [.lock "a" "x", .lock "b" "y"]).guards = [⟨"y", "b"⟩, ⟨"x", "a"⟩] := by
    decide
  have hback : (after 2 [.lock "a" "x", .lock "b" "y", .release "x"]).guards = [⟨"y", "b"⟩] := by
    decide
  refine ⟨(hanswers "c" "z").1.2 ⟨⟨"x", "a"⟩, by simp [hout], by decide⟩,
    (hreleases ⟨"x", "a"⟩ (by simp [hout])).1, fun hbusy => ?_⟩
  obtain ⟨g, hg, hslot⟩ := (hafter "c" "z").1.1 hbusy
  rw [hback, List.mem_singleton] at hg
  subst hg
  exact absurd hslot (by decide)

end Usage

end BucketAccess.LockPool
