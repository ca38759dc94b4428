import BucketAccess.Markup.Reference
import BucketAccess.Proofs.Markup.Scan

/-!
# Texts enclosed in elements

A text as it is written into an element. Only the five predefined references are needed for that:
they give the text back, each character once (`unescape?_escape`), and none of the characters that
markup begins or ends with is left. Whatever the text is, the document has the elements that enclose
it and no others (`events_enclosing`).
-/

namespace BucketAccess.Markup

/-! ## Escaping and back -/

/-- The text that is written so, after the characters of a reference, the last first, if one has
begun. Other references than the predefined ones and other markup are no text. -/
def unescapeFrom : Option (List Char) → List Char → Option (List Char)
  | none, [] => some []
  | some _, [] => none
  | none, c :: r =>
    if c = '<' then none
    else if c = '&' then unescapeFrom (some []) r
    else (unescapeFrom none r).map (c :: ·)
  | some name, c :: r =>
    if c = ';' then (named? name.reverse).bind fun d => (unescapeFrom none r).map (d :: ·)
    else unescapeFrom (some (c :: name)) r

def unescape? (s : List Char) : Option (List Char) := unescapeFrom none s

/-- A character that markup or a quoted value may begin or end with. -/
def IsSpecial (c : Char) : Prop := c ∈ ['<', '>', '&', '\'', '"']

instance : DecidablePred IsSpecial := fun _ => inferInstanceAs (Decidable (_ ∈ _))

theorem escapeChar_of_not_isSpecial {c : Char} (h : ¬ IsSpecial c) : escapeChar c = [c] := by
  simp only [IsSpecial, List.mem_cons, List.not_mem_nil, or_false, not_or] at h
  simp [escapeChar, h]

theorem unescapeFrom_escapeChar (c : Char) (r : List Char) :
    unescapeFrom none (escapeChar c ++ r) = (unescapeFrom none r).map (c :: ·) := by
  by_cases hc : IsSpecial c
  · simp only [IsSpecial, List.mem_cons, List.not_mem_nil, or_false] at hc
    rcases hc with rfl | rfl | rfl | rfl | rfl <;> rfl
  · have hlt : c ≠ '<' := fun he => hc (he ▸ by decide)
    have hand : c ≠ '&' := fun he => hc (he ▸ by decide)
    rw [escapeChar_of_not_isSpecial hc, List.singleton_append, unescapeFrom, if_neg hlt,
      if_neg hand]

/-- Each character of a text is given back once. -/
theorem unescape?_escape (s : List Char) : unescape? (escape s) = some s := by
  unfold unescape?
  induction s with
  | nil => rfl
  | cons c s ih =>
    show unescapeFrom none (escapeChar c ++ escape s) = _
    rw [unescapeFrom_escapeChar, ih, Option.map_some]

theorem escape_inj {s t : List Char} (h : escape s = escape t) : s = t := by
  have hs := unescape?_escape s
  rw [h, unescape?_escape] at hs
  exact (Option.some.inj hs).symm

/-- Of the special characters only the one that begins references is left. -/
theorem eq_ampersand_of_mem_escape {s : List Char} {c : Char} (h : c ∈ escape s)
    (hc : IsSpecial c) : c = '&' := by
  obtain ⟨d, -, hmem⟩ := List.mem_flatMap.1 h
  by_cases hd : IsSpecial d
  · have hall : (['<', '>', '&', '\'', '"'].all fun d =>
        (escapeChar d).all fun c => IsSpecial c → c = '&') = true := by decide
    have hchar := List.all_eq_true.1 (List.all_eq_true.1 hall d hd) c hmem
    exact of_decide_eq_true hchar hc
  · rw [escapeChar_of_not_isSpecial hd, List.mem_singleton] at hmem
    exact absurd (hmem ▸ hc) hd

/-! ## Escaped texts as content -/

/-- What a character is written as. -/
def markOf (c : Char) : Mark :=
  if IsSpecial c then .reference (Utf8.encode ((escapeChar c).tail.dropLast))
  else .text (String.singleton c)

def escaped (s : List Char) : Content := s.foldr (fun c after => .mark (markOf c) after) .nil

theorem bytes_markOf (c : Char) : (markOf c).bytes = Utf8.encode (escapeChar c) := by
  unfold markOf
  split
  case isTrue hc =>
    simp only [IsSpecial, List.mem_cons, List.not_mem_nil, or_false] at hc
    rcases hc with rfl | rfl | rfl | rfl | rfl <;> rfl
  case isFalse hc =>
    rw [escapeChar_of_not_isSpecial hc, Mark.bytes, Utf8.bytes, String.toList_singleton]

theorem markOf_wellFormed (c : Char) : (markOf c).WellFormed := by
  unfold markOf
  split
  case isTrue hc =>
    simp only [IsSpecial, List.mem_cons, List.not_mem_nil, or_false] at hc
    unfold Mark.WellFormed
    rcases hc with rfl | rfl | rfl | rfl | rfl <;> decide
  case isFalse hc =>
    have hne : ∀ d, IsSpecial d → d ∉ (String.singleton c).toList := by
      intro d hd hmem
      rw [String.toList_singleton, List.mem_singleton] at hmem
      exact hc (hmem ▸ hd)
    exact ⟨hne '<' (by decide), hne '&' (by decide)⟩

theorem bytes_escaped (s : List Char) : (escaped s).bytes = Utf8.encode (escape s) := by
  induction s with
  | nil => rfl
  | cons c s ih =>
    show (markOf c).bytes ++ (escaped s).bytes = Utf8.encode (escapeChar c ++ escape s)
    rw [bytes_markOf, ih, Utf8.encode_append]

/-! ## Events -/

/-- Nothing begins or ends with the event. -/
def Event.IsText (e : Event) : Prop := (∃ c, e = .text c) ∨ ∃ c, e = .reference c

theorem ofTokens_quiet {ts : List Token} (h : ∀ t ∈ ts, t.Quiet) (opened : List Bytes)
    (r : List Token) : ∃ es, (∀ e ∈ es, e.IsText) ∧
      Event.ofTokens opened (ts ++ r) = es ++ Event.ofTokens opened r := by
  induction ts with
  | nil => exact ⟨[], List.forall_mem_nil _, rfl⟩
  | cons t ts ih =>
    obtain ⟨ht, hts⟩ := List.forall_mem_cons.1 h
    obtain ⟨es, hes, hevents⟩ := ih hts
    rcases ht with ⟨c, rfl⟩ | ⟨c, rfl⟩
    · exact ⟨.text c :: es, List.forall_mem_cons.2 ⟨.inl ⟨c, rfl⟩, hes⟩, congrArg _ hevents⟩
    · exact ⟨.reference c :: es, List.forall_mem_cons.2 ⟨.inr ⟨c, rfl⟩, hes⟩, congrArg _ hevents⟩

/-- An escaped text up to the next tag. -/
theorem scan_escaped (s : List Char) (seen r : Bytes) : ∃ ts, (∀ t ∈ ts, t.Quiet) ∧
    Token.scan (.text seen) ((escaped s).bytes ++ 0x3C :: r) =
      ts ++ Token.scan (.tag none []) r := by
  induction s generalizing seen with
  | nil => exact ⟨_, Token.quiet_texts _, Token.scan_text_open seen r⟩
  | cons c s ih =>
    obtain ⟨ts, seen', hts, hscan⟩ :=
      Token.scan_mark seen ((escaped s).bytes ++ 0x3C :: r) (markOf_wellFormed c)
    obtain ⟨us, hus, hrest⟩ := ih seen'
    refine ⟨ts ++ us, List.forall_mem_append.2 ⟨hts, hus⟩, ?_⟩
    show Token.scan (.text seen) ((markOf c).bytes ++ (escaped s).bytes ++ 0x3C :: r) = _
    rw [List.append_assoc, hscan, hrest, List.append_assoc]

variable {declaration : Bytes} {root element : Tag}

/-- An element in which a text stands, after its angle bracket. -/
theorem scan_element (h : element.WellFormed) (s : List Char) (r : Bytes) :
    ∃ ts, (∀ t ∈ ts, t.Quiet) ∧
      Token.scan (.tag none []) (element.bytes ++ 0x3E ::
          ((escaped s).bytes ++ 0x3C :: (endTag element.name [] ++ r))) =
        .opening (Utf8.bytes element.name) ::
          (ts ++ .closing (Utf8.bytes element.name) :: Token.scan (.text []) r) := by
  obtain ⟨ts, hts, hscan⟩ := scan_escaped s [] (endTag element.name [] ++ r)
  refine ⟨ts, hts, ?_⟩
  rw [Token.scan_start h, hscan, Token.scan_end h.name rfl]

/-- A document whose root holds one element, in which a text stands. -/
def enclosing (declaration : Bytes) (root element : Tag) (s : List Char) : Document where
  orderMark := false
  prolog := [.instruction declaration]
  root := root
  content := .element element (escaped s) [] .nil
  gap := []
  rest := []

theorem bytes_enclosing (declaration : Bytes) (root element : Tag) (s : List Char) :
    (enclosing declaration root element s).bytes =
      instructionBytes declaration ++ 0x3C :: (root.bytes ++ 0x3E :: 0x3C ::
        (element.bytes ++ 0x3E :: ((escaped s).bytes ++ 0x3C :: (endTag element.name [] ++
          0x3C :: endTag root.name [])))) := by
  simp [enclosing, Document.bytes, Content.bytes, PrologPart.bytes]

theorem tokens_enclosing (hd : IsInstruction declaration) (hroot : root.WellFormed)
    (helement : element.WellFormed) (s : List Char) : ∃ ts, (∀ t ∈ ts, t.Quiet) ∧
      Token.ofBytes (enclosing declaration root element s).bytes =
        .opening (Utf8.bytes root.name) :: .opening (Utf8.bytes element.name) ::
          (ts ++ [.closing (Utf8.bytes element.name), .closing (Utf8.bytes root.name)]) := by
  obtain ⟨ts, hts, hscan⟩ := scan_element helement s (0x3C :: endTag root.name [])
  have hunmarked : Token.ofBytes (enclosing declaration root element s).bytes =
      Token.scan (.text []) (enclosing declaration root element s).bytes := rfl
  have hend := Token.scan_end hroot.name (show [].all isBlank from rfl) []
  rw [List.append_nil] at hend
  refine ⟨ts, hts, ?_⟩
  rw [hunmarked, bytes_enclosing, Token.scan_instructionBytes [] _ hd, Token.scan_text_open,
    Token.scan_start hroot, Token.scan_text_open, hscan, Token.scan_text_open, hend]
  rfl

/-- Whatever the text is, no element begins or ends in it. -/
theorem events_enclosing (hd : IsInstruction declaration) (hroot : root.WellFormed)
    (helement : element.WellFormed) (s : List Char) : ∃ inside, (∀ e ∈ inside, e.IsText) ∧
      Event.ofBytes (enclosing declaration root element s).bytes =
        .start (Utf8.bytes root.name) :: .start (Utf8.bytes element.name) ::
          (inside ++ [.stop, .stop]) := by
  obtain ⟨ts, hts, htokens⟩ := tokens_enclosing hd hroot helement s
  obtain ⟨inside, hinside, hevents⟩ :=
    ofTokens_quiet hts [Utf8.bytes element.name, Utf8.bytes root.name]
      [.closing (Utf8.bytes element.name), .closing (Utf8.bytes root.name)]
  refine ⟨inside, hinside, ?_⟩
  rw [Event.ofBytes, htokens]
  simp only [Event.ofTokens]
  rw [hevents]
  simp [Event.ofTokens]

end BucketAccess.Markup
