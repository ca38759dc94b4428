import BucketAccess.Text.Utf8

/-!
# Lock pool

A fixed number of slots, one of which every key selects by its hash. Whoever holds the guard of a
slot has it alone; keys that share a slot wait for each other. Guards are known by labels, and a
label holds one guard at a time.
-/

namespace BucketAccess

/-- 32-bit FNV-1: multiply, then exclusive or. -/
def fnv1 (bs : Bytes) : UInt32 :=
  bs.foldl (fun hash b => hash * 0x01000193 ^^^ b.toUInt32) 0x811C9DC5

def slotFor (key : String) (size : Nat) : Nat := (fnv1 (Utf8.bytes key)).toNat % max size 1

/-- The guards that are out, by label: `held` pairs a label with its slot. -/
structure LockPool where
  size : Nat
  held : List (String × Nat)
  deriving DecidableEq, Repr

namespace LockPool

/-- No guards are out, and there is at least one slot. -/
def new (size : Nat) : LockPool := ⟨max size 1, []⟩

def slot (pool : LockPool) (key : String) : Nat := slotFor key pool.size

def isHeld (pool : LockPool) (slot : Nat) : Bool := pool.held.any (·.2 == slot)

/-- Frees the slot of the guard under this label. -/
def drop (pool : LockPool) (label : String) : LockPool :=
  { pool with held := pool.held.filter (·.1 != label) }

/-- The pool after the slot of `key` was taken under `label`, or nothing if its guard is out. The
guard that was under the label goes when the new one is there. -/
def acquire? (pool : LockPool) (key label : String) : Option LockPool :=
  if pool.isHeld (pool.slot key) then none
  else some { pool with held := (label, pool.slot key) :: (pool.drop label).held }

/-- The pool without the guard under `label`, or nothing if there is none. -/
def release? (pool : LockPool) (label : String) : Option LockPool :=
  if pool.held.any (·.1 == label) then some (pool.drop label) else none

end LockPool

end BucketAccess
