import BucketAccess.Text.CompositionTable
import BucketAccess.Text.MarkTable
import BucketAccess.Text.Ranges

/-!
# Composed texts

The canonical composed form of a text: characters are taken apart, the marks after each are put in
the order of their classes, and what can be written as one character is. A text is composed if this
changes nothing. Texts here hold only characters that can stand in a domain.
-/

namespace BucketAccess.Text

def combiningClass (c : Char) : Nat :=
  match combiningClasses.find? fun r => r.1 ≤ c.toNat && c.toNat ≤ r.2.1 with
  | some (_, _, k) => k
  | none => 0

def isNonspacingMark (c : Char) : Bool := inRanges nonspacingMarks c

def isMark (c : Char) : Bool := isNonspacingMark c || inRanges spacingMarks c

/-! ## Taking apart -/

def splitComposite? (c : Char) : Option (Char × Char) :=
  (compositions.find? (·.2.2 == c.toNat)).map fun (a, b, _) => (Char.ofNat a, Char.ofNat b)

/-- The parts of a character that at most `depth` marks have been added to. -/
def parts (depth : Nat) (c : Char) : List Char :=
  match depth with
  | 0 => [c]
  | depth + 1 =>
    match splitComposite? c with
    | some (a, b) => parts depth a ++ [b]
    | none => [c]

/-- No character has more than three marks added to it. -/
def takeApart (s : List Char) : List Char := s.flatMap (parts 3)

/-! ## Order of marks -/

/-- Adds a character to a text given backwards; a mark goes before marks of a greater class. -/
def putMark (c : Char) : List Char → List Char
  | [] => [c]
  | last :: before =>
    if combiningClass c ≠ 0 ∧ combiningClass c < combiningClass last then
      last :: putMark c before
    else c :: last :: before

def orderMarks (s : List Char) : List Char := (s.foldl (fun sofar c => putMark c sofar) []).reverse

/-! ## Putting together -/

/-- The syllable of a leading consonant and a vowel, or of a syllable and a trailing consonant. -/
def syllable? (a b : Nat) : Option Nat :=
  if 0x1100 ≤ a ∧ a < 0x1113 ∧ 0x1161 ≤ b ∧ b < 0x1176 then
    some (0xAC00 + ((a - 0x1100) * 21 + (b - 0x1161)) * 28)
  else if 0xAC00 ≤ a ∧ a < 0xD7A4 ∧ (a - 0xAC00) % 28 = 0 ∧ 0x11A8 ≤ b ∧ b < 0x11C3 then
    some (a + (b - 0x11A7))
  else none

def composite? (a b : Char) : Option Char :=
  match syllable? a.toNat b.toNat with
  | some n => some (Char.ofNat n)
  | none =>
    (compositions.find? fun r => r.1 == a.toNat && r.2.1 == b.toNat).map fun r => Char.ofNat r.2.2

/-- The composed form of a character, the marks after it, which are given backwards, and a text. A
mark of the same class or of a greater one keeps what follows it from the character. -/
def composeFrom (base : Char) (marks : List Char) : List Char → List Char
  | [] => base :: marks.reverse
  | c :: r =>
    let joined :=
      if marks.all (combiningClass · < combiningClass c) then composite? base c else none
    match joined with
    | some base => composeFrom base marks r
    | none =>
      if combiningClass c = 0 then base :: marks.reverse ++ composeFrom c [] r
      else composeFrom base (c :: marks) r

def compose (s : List Char) : List Char :=
  match orderMarks (takeApart s) with
  | [] => []
  | c :: r => composeFrom c [] r

def isComposed (s : List Char) : Bool := compose s = s

end BucketAccess.Text
