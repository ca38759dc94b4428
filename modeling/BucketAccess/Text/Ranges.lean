/-!
# Sets of characters

Sets of characters given by their numbers, as ranges or as runs of equal steps, and tables of what
is said of characters that follow each other.
-/

namespace BucketAccess.Text

def inRanges (ranges : List (Nat × Nat)) (c : Char) : Bool :=
  ranges.any fun r => r.1 ≤ c.toNat && c.toNat ≤ r.2

/-- Numbers from `first` to `last`, `step` apart. -/
structure Run where
  first : Nat
  last : Nat
  step : Nat

def Run.holds (run : Run) (n : Nat) : Bool :=
  run.first ≤ n && n ≤ run.last && (n - run.first) % run.step == 0

def inRuns (runs : List Run) (c : Char) : Bool := runs.any (·.holds c.toNat)

/-- What a table says of a character; each block has its first character and one entry for this and
each of the next. -/
def lookUp? {α : Type} (blocks : List (Nat × List α)) (c : Char) : Option α :=
  blocks.findSome? fun (first, entries) =>
    if first ≤ c.toNat then entries[c.toNat - first]? else none

end BucketAccess.Text
