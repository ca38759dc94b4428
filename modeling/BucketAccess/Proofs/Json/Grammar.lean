import BucketAccess.Json.Reader

/-!
# JSON by its grammar

`Written d t` says that the text `t` is a JSON value and that `d` is what stands in it. The grammar
is that of the format itself, apart from how a text is read: blanks may stand around every value and
key, strings may hold any escapes, and numbers may have a fraction and an exponent. A number that is
too large and a string with half a surrogate pair are values too, but loose ones.
-/

namespace BucketAccess.Json

/-! ## Numbers -/

def digitChars (digits : List Nat) : List Char := digits.map Numeral.digitChar

@[simp] theorem digitChars_nil : digitChars [] = [] := rfl

@[simp] theorem digitChars_cons (d : Nat) (digits : List Nat) :
    digitChars (d :: digits) = Numeral.digitChar d :: digitChars digits := rfl

def IsDigits (digits : List Nat) : Prop := digits ≠ [] ∧ ∀ d ∈ digits, d < 10

inductive FractionText : List Nat → List Char → Prop where
  | none : FractionText [] []
  | some {digits : List Nat} : IsDigits digits → FractionText digits ('.' :: digitChars digits)

/-- The sign of an exponent and what is written for it. -/
inductive SignText : Bool → List Char → Prop where
  | none : SignText false []
  | plus : SignText false ['+']
  | minus : SignText true ['-']

inductive ExponentText : Option (Bool × List Nat) → List Char → Prop where
  | none : ExponentText none []
  | some {mark : Char} {negative : Bool} {sign : List Char} {digits : List Nat} :
      mark = 'e' ∨ mark = 'E' → SignText negative sign → IsDigits digits →
      ExponentText (some (negative, digits)) (mark :: (sign ++ digitChars digits))

/-- A zero is the only digit before the point or does not come first. -/
inductive NumberText : Literal → List Char → Prop where
  | mk {negative : Bool} {whole fraction : List Nat} {exponent : Option (Bool × List Nat)}
      {f e : List Char} :
      IsDigits whole → (whole.head? = some 0 → whole = [0]) → FractionText fraction f →
      ExponentText exponent e →
      NumberText ⟨negative, whole, fraction, exponent⟩
        ((if negative then ['-'] else []) ++ (digitChars whole ++ (f ++ e)))

def Literal.draft (l : Literal) : Draft :=
  match l.number? with
  | some n => .number n
  | none => .loose

/-! ## Strings -/

/-- What stands between the quotes of a string. -/
inductive StringText : List Piece → List Char → Prop where
  | nil : StringText [] []
  | char {c : Char} {pieces : List Piece} {t : List Char} :
      c ≠ '"' → c ≠ '\\' → 0x20 ≤ c.toNat → StringText pieces t →
      StringText (.char c :: pieces) (c :: t)
  | escape {e c : Char} {pieces : List Piece} {t : List Char} :
      escaped? e = some c → StringText pieces t →
      StringText (.char c :: pieces) ('\\' :: e :: t)
  | unit {e f g h : Char} {i j k l : Nat} {pieces : List Piece} {t : List Char} :
      Hex.digitValue? e = some i → Hex.digitValue? f = some j →
      Hex.digitValue? g = some k → Hex.digitValue? h = some l → StringText pieces t →
      StringText (.unit (((i * 16 + j) * 16 + k) * 16 + l) :: pieces)
        ('\\' :: 'u' :: e :: f :: g :: h :: t)

/-! ## Values -/

/-- A value in a container, with the blanks around it. -/
structure Item where
  before : List Char
  text : List Char
  after : List Char
  draft : Draft

def Item.chars (i : Item) : List Char := i.before ++ (i.text ++ i.after)

/-- A member of an object: its key, with the blanks around it, and its value. -/
structure Member where
  before : List Char
  key : List Char
  after : List Char
  pieces : List Piece
  value : Item

def Member.chars (m : Member) : List Char :=
  m.before ++ ('"' :: (m.key ++ '"' :: (m.after ++ ':' :: m.value.chars)))

def Member.draft (m : Member) : Draft × Draft := (Draft.ofPieces m.pieces, m.value.draft)

/-- Texts with commas between them. -/
def separated : List (List Char) → List Char
  | [] => []
  | [t] => t
  | t :: u :: r => t ++ ',' :: separated (u :: r)

def Blank (t : List Char) : Prop := t.all isBlank

def Item.Spaced (i : Item) : Prop := Blank i.before ∧ Blank i.after

inductive Written : Draft → List Char → Prop where
  | null : Written .null "null".toList
  | true : Written (.bool true) "true".toList
  | false : Written (.bool false) "false".toList
  | number {l : Literal} {t : List Char} : NumberText l t → Written l.draft t
  | string {pieces : List Piece} {t : List Char} :
      StringText pieces t → Written (Draft.ofPieces pieces) ('"' :: (t ++ ['"']))
  | emptyArray {blank : List Char} :
      Blank blank → Written (.array [] none) ('[' :: (blank ++ [']']))
  | array {i : Item} {items : List Item} : (∀ j ∈ i :: items, j.Spaced) →
      (∀ j ∈ i :: items, Written j.draft j.text) →
      Written (.array ((i :: items).map Item.draft) none)
        ('[' :: (separated ((i :: items).map Item.chars) ++ [']']))
  | emptyObject {blank : List Char} :
      Blank blank → Written (.object [] none) ('\x7b' :: (blank ++ ['\x7d']))
  | object {m : Member} {members : List Member} :
      (∀ n ∈ m :: members, Blank n.before ∧ Blank n.after ∧ n.value.Spaced) →
      (∀ n ∈ m :: members, StringText n.pieces n.key) →
      (∀ n ∈ m :: members, Written n.value.draft n.value.text) →
      Written (.object ((m :: members).map Member.draft) none)
        ('\x7b' :: (separated ((m :: members).map Member.chars) ++ ['\x7d']))

/-- A whole text, with the blanks around its value. -/
def IsText (d : Draft) (t : List Char) : Prop :=
  ∃ before text after, Blank before ∧ Blank after ∧ Written d text ∧ t = before ++ (text ++ after)

end BucketAccess.Json
