import BucketAccess.Proofs.Json.Numbers
import BucketAccess.Proofs.Json.Values

/-!
# Written values belong to the grammar

The compact text of a value is a text of the grammar, and what stands in it is the draft of the
value. Only the numbers matter for this: a double is written with the fewest digits that read back
exactly, which is not what the reader of numbers promises.
-/

namespace BucketAccess.Json

/-! ## The draft of a value -/

mutual

def draft : Json → Draft
  | .null => .null
  | .bool b => .bool b
  | .number n => .number n
  | .string s => .string s
  | .array items => .array (draftItems items) none
  | .object members => .object (draftMembers members) none

def draftItems : List Json → List Draft
  | [] => []
  | v :: r => draft v :: draftItems r

def draftMembers : List (String × Json) → List (Draft × Draft)
  | [] => []
  | (k, v) :: r => (.string k, draft v) :: draftMembers r

end

theorem draftItems_eq (items : List Json) : draftItems items = items.map draft := by
  induction items with
  | nil => rfl
  | cons v items ih => rw [draftItems, ih, List.map_cons]

theorem draftMembers_eq (members : List (String × Json)) :
    draftMembers members = members.map fun m => (.string m.1, m.2.draft) := by
  induction members with
  | nil => rfl
  | cons m members ih => rw [draftMembers, ih, List.map_cons]

mutual

theorem spelling_draft : (v : Json) → Spelling v v.draft
  | .null => .null
  | .bool b => .bool b
  | .number n => .number n
  | .string s => .string s
  | .array items => by
    have parts := Spelling.array (List.forall_mem_map.2 (spelling_draft_items items) :
      ∀ p ∈ items.map fun v => (v, v.draft), Spelling p.1 p.2)
    rw [draft, draftItems_eq]
    simpa [Function.comp_def] using parts
  | .object members => by
    have order : ((members.map fun m => (m.1, m.2, m.2.draft)).map
        fun p => (p.1, p.2.1)).Perm members := .of_eq (by simp [Function.comp_def])
    have parts := Spelling.object order (List.forall_mem_map.2 (spelling_draft_members members))
    rw [draft, draftMembers_eq]
    simpa [Function.comp_def] using parts

theorem spelling_draft_items : (items : List Json) → ∀ v ∈ items, Spelling v v.draft
  | [] => by simp
  | v :: items => List.forall_mem_cons.2 ⟨spelling_draft v, spelling_draft_items items⟩

theorem spelling_draft_members :
    (members : List (String × Json)) → ∀ m ∈ members, Spelling m.2 m.2.draft
  | [] => by simp
  | (_, v) :: members => List.forall_mem_cons.2 ⟨spelling_draft v, spelling_draft_members members⟩

end

/-! ## Strings -/

/-- How a character is written in a string: as itself, if need be after a backslash, or as its
number. -/
def Piece.of (c : Char) : Piece :=
  if c ∈ ['\x08', '\x0c', '\n', '\r', '\t'] ∨ 0x20 ≤ c.toNat then .char c else .unit c.toNat

theorem digitValue?_lowerDigit {d : Nat} (h : d < 16) :
    Hex.digitValue? (Hex.lowerDigit d) = some d := by
  have all : ∀ d < 16, Hex.digitValue? (Hex.lowerDigit d) = some d := by decide
  exact all d h

theorem StringText.escapeChar (c : Char) {pieces : List Piece} {t : List Char}
    (h : StringText pieces t) : StringText (Piece.of c :: pieces) (escapeChar c ++ t) := by
  by_cases marked : c ∈ ['"', '\\', '\x08', '\x0c', '\n', '\r', '\t']
  · simp only [List.mem_cons, List.not_mem_nil, or_false] at marked
    rcases marked with rfl | rfl | rfl | rfl | rfl | rfl | rfl <;> exact .escape rfl h
  · simp only [List.mem_cons, List.not_mem_nil, or_false, not_or] at marked
    obtain ⟨quote, slash, bell, feed, line, back, tab⟩ := marked
    by_cases low : c.toNat < 0x20
    · have high : ¬0x20 ≤ c.toNat := by omega
      have piece : Piece.of c = .unit c.toNat := by simp [Piece.of, *]
      have escaped : Json.escapeChar c =
          ['\\', 'u', '0', '0', Hex.lowerDigit (c.toNat / 16), Hex.lowerDigit (c.toNat % 16)] := by
        simp [Json.escapeChar, *]
      have zero : Hex.digitValue? '0' = some 0 := by decide
      have unit := StringText.unit zero zero
        (digitValue?_lowerDigit (by omega : c.toNat / 16 < 16))
        (digitValue?_lowerDigit (by omega : c.toNat % 16 < 16)) h
      rw [show ((0 * 16 + 0) * 16 + c.toNat / 16) * 16 + c.toNat % 16 = c.toNat by omega] at unit
      rw [piece, escaped]
      exact unit
    · have high : 0x20 ≤ c.toNat := by omega
      have piece : Piece.of c = .char c := if_pos (.inr high)
      have itself : Json.escapeChar c = [c] := by simp [Json.escapeChar, *]
      rw [piece, itself]
      exact .char quote slash high h

theorem joinPieces_of (c : Char) (pieces : List Piece) :
    joinPieces none (Piece.of c :: pieces) = (joinPieces none pieces).map (c :: ·) := by
  unfold Piece.of
  split
  · rfl
  · next h =>
    have low : c.toNat < 0x20 := by omega
    have trailing : isTrailing c.toNat = false := by simp [isTrailing]; omega
    have leading : isLeading c.toNat = false := by simp [isLeading]; omega
    simp [joinPieces.eq_def none (.unit c.toNat :: pieces), trailing, leading]

theorem stringText_of (s : List Char) : StringText (s.map .of) (s.flatMap escapeChar) := by
  induction s with
  | nil => exact .nil
  | cons c s ih => exact ih.escapeChar c

theorem ofPieces_of (s : String) : Draft.ofPieces (s.toList.map .of) = .string s := by
  have joined (s : List Char) : joinPieces none (s.map .of) = .ok s := by
    induction s with
    | nil => rfl
    | cons c s ih =>
      rw [List.map_cons, joinPieces_of, ih]
      rfl
  simp only [Draft.ofPieces, joined, String.ofList_toList]

theorem Written.stringText (s : String) : Written (.string s) (stringText s) := by
  rw [← ofPieces_of]
  exact .string (stringText_of s.toList)

/-! ## Containers -/

theorem Written.ofItems {items : List Item} (nonempty : items ≠ []) (hb : ∀ i ∈ items, i.Spaced)
    (h : ∀ i ∈ items, Written i.draft i.text) : Written (.array (items.map Item.draft) none)
      ('[' :: (separated (items.map Item.chars) ++ [']'])) := by
  cases items with
  | nil => exact absurd rfl nonempty
  | cons i items => exact .array hb h

theorem Written.ofMembers {members : List Member} (nonempty : members ≠ [])
    (hb : ∀ m ∈ members, Blank m.before ∧ Blank m.after ∧ m.value.Spaced)
    (hk : ∀ m ∈ members, StringText m.pieces m.key)
    (h : ∀ m ∈ members, Written m.value.draft m.value.text) :
    Written (.object (members.map Member.draft) none)
      ('\x7b' :: (separated (members.map Member.chars) ++ ['\x7d'])) := by
  cases members with
  | nil => exact absurd rfl nonempty
  | cons m members => exact .object hb hk h

/-- A value without blanks around it. -/
def compactItem (v : Json) : Item := ⟨[], v.text, [], v.draft⟩

def compactMember (m : String × Json) : Member :=
  ⟨[], m.1.toList.flatMap escapeChar, [], m.1.toList.map .of, compactItem m.2⟩

theorem chars_compactItem (v : Json) : (compactItem v).chars = v.text := by
  simp [compactItem, Item.chars]

theorem draft_compactItem (v : Json) : (compactItem v).draft = v.draft := rfl

theorem chars_compactMember (m : String × Json) :
    (compactMember m).chars = stringText m.1 ++ ':' :: m.2.text := by
  simp [compactMember, Member.chars, chars_compactItem, stringText]

theorem draft_compactMember (m : String × Json) :
    (compactMember m).draft = (.string m.1, m.2.draft) := by
  rw [Member.draft, compactMember, ofPieces_of]
  rfl

theorem textItems_eq (items : List Json) : textItems items = separated (items.map text) := by
  induction items with
  | nil => rfl
  | cons v items ih =>
    cases items with
    | nil => rfl
    | cons w items => rw [textItems, ih]; rfl

theorem textMembers_eq (members : List (String × Json)) : textMembers members =
    separated (members.map fun m => stringText m.1 ++ ':' :: m.2.text) := by
  induction members with
  | nil => rfl
  | cons m members ih =>
    cases members with
    | nil => rfl
    | cons n members => rw [textMembers, ih]; simp [separated]

/-! ## Values -/

/-- What holds of all the numbers in a value. -/
inductive AllNumbers (P : Number → Prop) : Json → Prop where
  | null : AllNumbers P .null
  | bool (b : Bool) : AllNumbers P (.bool b)
  | number {n : Number} : P n → AllNumbers P (.number n)
  | string (s : String) : AllNumbers P (.string s)
  | array {items : List Json} : (∀ v ∈ items, AllNumbers P v) → AllNumbers P (.array items)
  | object {members : List (String × Json)} :
      (∀ m ∈ members, AllNumbers P m.2) → AllNumbers P (.object members)

/-- A value whose numbers are plain is written as a text of the grammar. -/
theorem AllNumbers.written {v : Json} (h : v.AllNumbers Number.Plain) : Written v.draft v.text := by
  induction h with
  | null => exact .null
  | bool b => cases b <;> constructor
  | number h =>
    obtain ⟨l, text, draft⟩ := h.written
    rw [Json.draft, ← draft]
    exact .number text
  | string s => exact .stringText s
  | @array items _ ih =>
    rw [draft, draftItems_eq, text, textItems_eq]
    by_cases empty : items = []
    · subst empty
      exact .emptyArray rfl
    · have written := @Written.ofItems (items.map compactItem) (by simpa using empty)
        (List.forall_mem_map.2 fun _ _ => ⟨rfl, rfl⟩) (List.forall_mem_map.2 ih)
      simpa [Function.comp_def, chars_compactItem, draft_compactItem] using written
  | @object members _ ih =>
    rw [draft, draftMembers_eq, text, textMembers_eq]
    by_cases empty : members = []
    · subst empty
      exact .emptyObject rfl
    · have written := @Written.ofMembers (members.map compactMember)
        (by simpa using empty) (List.forall_mem_map.2 fun _ _ => ⟨rfl, rfl, rfl, rfl⟩)
        (List.forall_mem_map.2 fun m _ => stringText_of m.1.toList) (List.forall_mem_map.2 ih)
      simpa [Function.comp_def, chars_compactMember, draft_compactMember] using written

theorem AllNumbers.isText {v : Json} (h : v.AllNumbers Number.Plain) :
    IsText v.draft v.toText.toList := by
  refine ⟨[], v.text, [], rfl, rfl, h.written, ?_⟩
  rw [toText, String.toList_ofList, List.append_nil, List.nil_append]

end BucketAccess.Json
