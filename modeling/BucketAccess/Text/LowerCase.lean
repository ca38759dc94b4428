import BucketAccess.Text.CaseTable

/-!
# Lower case

The full lower-case mapping of Unicode. Two characters need more than the table: the dotted capital
I becomes two characters, and a capital sigma at the end of a word becomes the final one.
-/

namespace BucketAccess.Text

def isCased (c : Char) : Bool := inRanges casedRanges c

def isCaseIgnorable (c : Char) : Bool := inRanges caseIgnorableRanges c

/-- The lower-case form of one character, whatever stands around it. -/
def lowerChar (c : Char) : Char :=
  if c.toNat < 128 then c.toLower
  else
    match loweringRuns.find? (·.chars.holds c.toNat) with
    | some run => Char.ofNat (c.toNat + run.shift).toNat
    | none => c

/-- The next character is cased, but for characters that do not count. -/
def casedNext (s : List Char) : Bool :=
  match s.dropWhile isCaseIgnorable with
  | c :: _ => isCased c
  | [] => false

/-- Lower case of what follows `before`, which is given backwards. -/
def lowerCaseFrom (before : List Char) : List Char → List Char
  | [] => []
  | c :: r =>
    let lower :=
      if c = 'İ' then ['i', '\u0307']
      else if c = 'Σ' then [if casedNext before && !casedNext r then 'ς' else 'σ']
      else [lowerChar c]
    lower ++ lowerCaseFrom (c :: before) r

def lowerCase (s : List Char) : List Char := lowerCaseFrom [] s

end BucketAccess.Text
