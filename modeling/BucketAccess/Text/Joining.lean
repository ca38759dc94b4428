import BucketAccess.Text.Composed
import BucketAccess.Text.JoiningTable

/-!
# Joiners

The two characters that ask for letters to be joined or not. Either may follow the sign that takes a
consonant's vowel away; the one that keeps letters apart may also stand where letters would join.
-/

namespace BucketAccess.Text

def nonJoiner : Char := '\u200C'

def joiner : Char := '\u200D'

def isVirama (c : Char) : Bool := combiningClass c = 9

/-- Marks do not come between letters that join. -/
def isTransparent (c : Char) : Bool := isNonspacingMark c || c.toNat == 0x1E94B

def joinsNext (c : Char) : Bool := inRanges dualJoiningRanges c || inRanges leftJoiningRanges c

def joinsBefore (c : Char) : Bool := inRanges dualJoiningRanges c || inRanges rightJoiningRanges c

/-- Whether a joiner may stand between two texts, the first of which is given backwards. -/
def joinerFits (c : Char) (before after : List Char) : Bool :=
  before.head?.any isVirama ||
    (c = nonJoiner && ((before.dropWhile isTransparent).head?.any joinsNext) &&
      ((after.dropWhile isTransparent).head?.any joinsBefore))

/-- Whether the joiners in a text may stand there after another text, which is given backwards. -/
def joinersFit (before : List Char) : List Char → Bool
  | [] => true
  | c :: r =>
    ((c ≠ nonJoiner && c ≠ joiner) || joinerFits c before r) && joinersFit (c :: before) r

end BucketAccess.Text
