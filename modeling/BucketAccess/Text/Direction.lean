import BucketAccess.Text.Composed
import BucketAccess.Text.DirectionTable

/-!
# Directions of texts

A text of one direction begins with a letter of it and ends with such a letter or a digit, marks at
the end not counted, and holds no letter of the other. From right to left it has digits of one kind
only.
-/

namespace BucketAccess.Text

inductive Direction where
  | leftToRight
  | rightToLeft
  | arabicNumber
  | europeanNumber
  | neutral
  | mark
  deriving DecidableEq, Repr

def Direction.of (c : Char) : Direction :=
  if c.toNat < 128 then
    if c.isAlpha then .leftToRight else if c.isDigit then .europeanNumber else .neutral
  else if inRanges rightToLeftRanges c then .rightToLeft
  else if inRanges arabicNumberRanges c then .arabicNumber
  else if inRanges europeanNumberRanges c then .europeanNumber
  else if inRanges neutralRanges c then .neutral
  else if isNonspacingMark c && !inRanges leftToRightMarks c then .mark
  else .leftToRight

/-- Whether a text has something that is written from right to left. -/
def needsDirection (s : List Char) : Bool :=
  s.any fun c => Direction.of c = .rightToLeft || Direction.of c = .arabicNumber

/-- The directions less those of the marks at the end. -/
def withoutEndMarks (ds : List Direction) : List Direction :=
  (ds.reverse.dropWhile (· = .mark)).reverse

/-- Whether a text keeps to one direction. -/
def hasDirection (s : List Char) : Bool :=
  match s.map Direction.of with
  | [] => true
  | .leftToRight :: rest =>
    let rest := withoutEndMarks rest
    rest.all (fun d => d ≠ .rightToLeft ∧ d ≠ .arabicNumber) &&
      rest.getLast?.all fun d => d = .leftToRight ∨ d = .europeanNumber
  | .rightToLeft :: rest =>
    let rest := withoutEndMarks rest
    rest.all (· ≠ .leftToRight) &&
      (rest.getLast?.all fun d => d = .rightToLeft ∨ d = .europeanNumber ∨ d = .arabicNumber) &&
      !(rest.contains .europeanNumber && rest.contains .arabicNumber)
  | _ => false

end BucketAccess.Text
