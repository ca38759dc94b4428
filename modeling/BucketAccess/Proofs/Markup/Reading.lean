import BucketAccess.Proofs.Markup.Scan

/-!
# Parts of a tree

Reading follows the tree of a document: in an element whose children are known, each child adds the
part that the layout gives it, and every other mark is passed over, whatever stands in it. A
document is read as what its content amounts to (`readDocument_amountsTo`), once it is known what
its fields are read as; those that hold nothing but text are read as that (`read_field`).
-/

namespace BucketAccess.Markup

/-! ## White space at the ends of texts -/

section
variable {α β : Type} {f : α → List β} {p : α → Bool} {q : β → Bool}

/-- Elements written as stretches whose members are all dropped or all kept. -/
theorem dropWhile_flatMap (ne : ∀ a, f a ≠ []) (h : ∀ a, ∀ b ∈ f a, q b = p a) (s : List α) :
    (s.flatMap f).dropWhile q = (s.dropWhile p).flatMap f := by
  induction s with
  | nil => rfl
  | cons a s ih =>
    rw [List.flatMap_cons]
    cases hp : p a with
    | true =>
      rw [List.dropWhile_append_of_pos fun b hb => by rw [h a b hb, hp], ih,
        List.dropWhile_cons_of_pos hp]
    | false =>
      obtain ⟨b, r, e⟩ := List.exists_cons_of_ne_nil (ne a)
      have hb : q b = false := by rw [h a b (by simp [e]), hp]
      rw [List.dropWhile_cons_of_neg (by simp [hp]), List.flatMap_cons, e, List.cons_append,
        List.dropWhile_cons_of_neg (by simp [hb])]

end

theorem isBlank_of_mem_encodeChar {c : Char} {b : UInt8} (hb : b ∈ String.utf8EncodeChar c) :
    isBlank b = isSpace c := by
  by_cases h : c.toNat < 0x80
  · have ascii : ∀ n < 0x80, isBlank (UInt8.ofNat n) = isSpace (Char.ofNat n) := by decide
    rw [Utf8.encodeChar_of_lt h, List.mem_singleton] at hb
    rw [hb, ascii _ h, Char.ofNat_toNat]
  · have high := Utf8.le_of_mem_encodeChar (by omega) hb
    have byte : isBlank b = false := by
      rw [Bool.eq_false_iff]
      intro blank
      simp only [isBlank, Bool.or_eq_true, beq_iff_eq] at blank
      rcases blank with ((rfl | rfl) | rfl) | rfl <;> exact absurd high (by decide)
    have char : isSpace c = false := by
      rw [Bool.eq_false_iff]
      intro space
      simp only [isSpace, Bool.or_eq_true, decide_eq_true_eq] at space
      rcases space with ((rfl | rfl) | rfl) | rfl <;> exact h (by decide)
    rw [byte, char]

theorem trim_bytes (s : String) : trim (Utf8.bytes s) = Utf8.bytes (trimmed s) := by
  have ne (c : Char) : String.utf8EncodeChar c ≠ [] := fun h =>
    absurd (Utf8.encode_eq_nil (s := [c]) (by simp [h])) (by simp)
  have front : (Utf8.bytes s).dropWhile isBlank = Utf8.encode (s.toList.dropWhile isSpace) :=
    dropWhile_flatMap ne (fun c b hb => isBlank_of_mem_encodeChar hb) s.toList
  have back (t : List Char) : (Utf8.encode t).reverse.dropWhile isBlank =
      (t.reverse.dropWhile isSpace).flatMap (List.reverse ∘ String.utf8EncodeChar) := by
    rw [Utf8.encode, List.reverse_flatMap]
    exact dropWhile_flatMap (by simp [ne])
      (fun c b hb => isBlank_of_mem_encodeChar (by simpa using hb)) _
  rw [trim, trimEnd, front, back, List.reverse_flatMap]
  simp [trimmed, Utf8.bytes, Utf8.encode, Function.comp_def]

/-! ## Content -/

/-- The parts that content amounts to in an element with these children. -/
def Content.parts (children : List (String × Layout)) : Content → List Part
  | nil => []
  | mark _ after => after.parts children
  | element tag inside _ after =>
    match children.lookup tag.name with
    | some .text => .text tag.name inside.written :: after.parts children
    | some (.group known) => .group tag.name (inside.parts known) :: after.parts children
    | none => after.parts children

/-- Every element that the layout knows as a field holds nothing but text. -/
def Content.PlainIn (children : List (String × Layout)) : Content → Prop
  | nil => True
  | mark _ after => after.PlainIn children
  | element tag inside _ after =>
    (match children.lookup tag.name with
      | some .text => inside.text?.isSome
      | some (.group known) => inside.PlainIn known
      | none => True) ∧ after.PlainIn children

/-- In a field, the content is read as this text, wherever the field stands. -/
def Content.IsReadAs (c : Content) (s : String) : Prop :=
  ∀ (inner : Frame) (outer : List Frame) (name : String) (opened : List Bytes) (r : Bytes),
    read inner outer (.text name "")
        (Event.ofTokens opened (Token.scan (.text []) (c.bytes ++ 0x3C :: r))) =
      read inner outer (.text name s) (Event.ofTokens opened (Token.scan (.tag none []) r))

/-- The parts that content amounts to in an element with these children, by what its fields are
read as. -/
inductive Content.AmountsTo : List (String × Layout) → Content → List Part → Prop where
  | nil {children : List (String × Layout)} : AmountsTo children nil []
  | mark {children : List (String × Layout)} {m : Mark} {after : Content} {ps : List Part} :
      AmountsTo children after ps → AmountsTo children (mark m after) ps
  | unknown {children : List (String × Layout)} {tag : Tag} {inside after : Content} {gap : Bytes}
      {ps : List Part} : children.lookup tag.name = none → AmountsTo children after ps →
      AmountsTo children (element tag inside gap after) ps
  | field {children : List (String × Layout)} {tag : Tag} {inside after : Content} {gap : Bytes}
      {s : String} {ps : List Part} : children.lookup tag.name = some .text →
      inside.IsReadAs s → AmountsTo children after ps →
      AmountsTo children (element tag inside gap after) (.text tag.name s :: ps)
  | group {children known : List (String × Layout)} {tag : Tag} {inside after : Content}
      {gap : Bytes} {qs ps : List Part} : children.lookup tag.name = some (.group known) →
      AmountsTo known inside qs → AmountsTo children after ps →
      AmountsTo children (element tag inside gap after) (.group tag.name qs :: ps)

/-- A mode in which texts and references do not count. -/
def Mode.Passive : Mode → Prop
  | .text _ _ => False
  | .children | .passOver _ => True

section
variable {inner : Frame} {outer : List Frame} {opened : List Bytes}

theorem read_quiet (mode : Mode) (hm : mode.Passive) {ts : List Token} (h : ∀ t ∈ ts, t.Quiet)
    (r : List Token) : read inner outer mode (Event.ofTokens opened (ts ++ r)) =
      read inner outer mode (Event.ofTokens opened r) := by
  induction ts with
  | nil => rfl
  | cons t ts ih =>
    rw [List.forall_mem_cons] at h
    cases mode with
    | text => exact hm.elim
    | children | passOver => rcases h.1 with ⟨c, rfl⟩ | ⟨c, rfl⟩ <;> exact ih h.2

theorem read_start (mode : Mode) (hm : mode.Passive) (seen r : Bytes) :
    read inner outer mode (Event.ofTokens opened (Token.scan (.text seen) (0x3C :: r))) =
      read inner outer mode (Event.ofTokens opened (Token.scan (.tag none []) r)) := by
  rw [Token.scan_text_open, read_quiet mode hm (Token.quiet_texts _)]

/-- What is passed over is passed over whole. -/
theorem read_passOver {c : Content} (h : c.WellFormed) (depth : Nat) (opened : List Bytes)
    (seen r : Bytes) :
    read inner outer (.passOver depth)
        (Event.ofTokens opened (Token.scan (.text seen) (c.bytes ++ 0x3C :: r))) =
      read inner outer (.passOver depth) (Event.ofTokens opened (Token.scan (.tag none []) r)) := by
  induction c generalizing depth opened seen r with
  | nil => exact read_start (.passOver depth) trivial seen r
  | mark m after ih =>
    obtain ⟨ts, seen', quiet, e⟩ := Token.scan_mark seen (after.bytes ++ 0x3C :: r) h.1
    rw [Content.bytes, List.append_assoc, e, read_quiet (.passOver depth) trivial quiet,
      ih h.2]
  | element tag inside gap after ihi iha =>
    obtain ⟨ht, hi, hg, ha⟩ := h
    have e : (Content.element tag inside gap after).bytes ++ 0x3C :: r =
        0x3C :: (tag.bytes ++ 0x3E :: (inside.bytes ++ 0x3C ::
          (endTag tag.name gap ++ (after.bytes ++ 0x3C :: r)))) := by
      simp [Content.bytes]
    rw [e, read_start (.passOver depth) trivial, Token.scan_start ht]
    simp only [Event.ofTokens, read]
    rw [ihi hi, Token.scan_end ht.name hg]
    simp only [Event.ofTokens, read, if_true]
    exact iha ha ..

/-- A stretch of text in a field adds what stands between the blanks at its ends. -/
theorem read_stretch (name content s : String) (ts : List Token) :
    read inner outer (.text name content)
        (Event.ofTokens opened (Token.texts (Utf8.bytes s) ++ ts)) =
      read inner outer (.text name (content ++ trimmed s)) (Event.ofTokens opened ts) := by
  rw [Token.texts, trim_bytes]
  split
  case h_1 e =>
    rw [String.toList_eq_nil_iff.1 (Utf8.encode_eq_nil e), String.append_empty]
    rfl
  case h_2 =>
    simp only [List.cons_append, List.nil_append, Event.ofTokens, read, readText,
      Utf8.strict_bytes, Except.mapError]

/-- The text of a field. -/
theorem read_field {c : Content} (h : c.WellFormed) (plain : c.text?.isSome) :
    c.IsReadAs c.written := by
  intro inner outer name opened r
  obtain ⟨s, hs⟩ := Option.isSome_iff_exists.1 plain
  obtain ⟨hb, stops⟩ : c.bytes = Utf8.bytes s ∧ '<' ∉ s.toList ∧ '&' ∉ s.toList := by
    cases c with
    | nil => cases hs; exact ⟨rfl, by simp, by simp⟩
    | element => cases hs
    | mark m after =>
      cases m <;> cases after <;> cases hs
      exact ⟨List.append_nil _, h.1⟩
  have scanned : Token.scan (.text []) (c.bytes ++ 0x3C :: r) =
      Token.texts (Utf8.bytes s) ++ Token.scan (.tag none []) r := by
    rw [hb, Token.scan_string [] _ stops, Token.scan_text_open]
    simp
  rw [scanned, read_stretch, String.empty_append, Content.written, hs, Option.getD_some]

/-- A frame with further parts. -/
def Frame.addAll (f : Frame) (p : List Part) : Frame := { f with parts := p.reverse ++ f.parts }

@[simp] theorem Frame.addAll_nil (f : Frame) : f.addAll [] = f := rfl

theorem Frame.addAll_cons (f : Frame) (p : Part) (ps : List Part) :
    f.addAll (p :: ps) = (f.add p).addAll ps := by
  simp [addAll, add]

@[simp] theorem Frame.part_addAll (name : String) (children : List (String × Layout))
    (p : List Part) : (Frame.addAll ⟨name, children, []⟩ p).part = .group name p := by
  simp [addAll, part]

/-- Each child adds the part that the layout gives it. -/
theorem read_content {c : Content} {ps : List Part} (h : c.WellFormed)
    (hps : c.AmountsTo inner.children ps) (opened : List Bytes) (seen r : Bytes) :
    read inner outer .children
        (Event.ofTokens opened (Token.scan (.text seen) (c.bytes ++ 0x3C :: r))) =
      read (inner.addAll ps) outer .children
        (Event.ofTokens opened (Token.scan (.tag none []) r)) := by
  induction c generalizing inner outer ps opened seen r with
  | nil =>
    cases hps
    exact read_start .children trivial seen r
  | mark m after ih =>
    cases hps with
    | mark hps =>
      obtain ⟨ts, seen', quiet, e⟩ := Token.scan_mark seen (after.bytes ++ 0x3C :: r) h.1
      rw [Content.bytes, List.append_assoc, e, read_quiet .children trivial quiet, ih h.2 hps]
  | element tag inside gap after ihi iha =>
    obtain ⟨ht, hi, hg, ha⟩ := h
    have e : (Content.element tag inside gap after).bytes ++ 0x3C :: r =
        0x3C :: (tag.bytes ++ 0x3E :: (inside.bytes ++ 0x3C ::
          (endTag tag.name gap ++ (after.bytes ++ 0x3C :: r)))) := by
      simp [Content.bytes]
    have hn : readName (Utf8.bytes tag.name) = .ok tag.name := by
      rw [readName, Utf8.strict_bytes]
      rfl
    rw [e, read_start .children trivial, Token.scan_start ht]
    simp only [Event.ofTokens, read, hn]
    cases hps with
    | unknown hl hps =>
      simp only [hl]
      rw [read_passOver hi, Token.scan_end ht.name hg]
      simp only [Event.ofTokens, read, if_true]
      exact iha ha hps ..
    | field hl hs hps =>
      simp only [hl]
      rw [hs, Token.scan_end ht.name hg]
      simp only [Event.ofTokens, read, if_true]
      rw [Frame.addAll_cons]
      exact @iha (inner.add _) outer _ ha hps ..
    | group hl hqs hps =>
      simp only [hl]
      rw [ihi hi hqs, Token.scan_end ht.name hg]
      simp only [Event.ofTokens, read, if_true]
      rw [Frame.part_addAll, Frame.addAll_cons]
      exact @iha (inner.add _) outer _ ha hps ..

/-- Fields that hold nothing but text are read as that text. -/
theorem amountsTo_parts {c : Content} {children : List (String × Layout)} (h : c.WellFormed)
    (plain : c.PlainIn children) : c.AmountsTo children (c.parts children) := by
  induction c generalizing children with
  | nil => exact .nil
  | mark m after ih => exact .mark (ih h.2 plain)
  | element tag inside gap after ihi iha =>
    obtain ⟨-, hi, -, ha⟩ := h
    rw [Content.PlainIn] at plain
    rw [Content.parts]
    cases hl : children.lookup tag.name with
    | none => exact .unknown hl (iha ha plain.2)
    | some layout =>
      rw [hl] at plain
      cases layout with
      | text => exact .field hl (read_field hi plain.1) (iha ha plain.2)
      | group known => exact .group hl (ihi hi plain.1) (iha ha plain.2)

end

/-! ## Documents -/

section
variable (name : String) (children : List (String × Layout))

theorem readRoot_quiet {ts : List Token} (h : ∀ t ∈ ts, t.Quiet) (r : List Token) :
    readRoot name children (Event.ofTokens [] (ts ++ r)) =
      readRoot name children (Event.ofTokens [] r) := by
  induction ts with
  | nil => rfl
  | cons t ts ih =>
    rw [List.forall_mem_cons] at h
    rcases h.1 with ⟨c, rfl⟩ | ⟨c, rfl⟩ <;> exact ih h.2

theorem readRoot_prolog {ps : List PrologPart} (h : ∀ p ∈ ps, p.WellFormed) (seen r : Bytes) :
    readRoot name children
        (Event.ofTokens [] (Token.scan (.text seen) (ps.flatMap PrologPart.bytes ++ 0x3C :: r))) =
      readRoot name children (Event.ofTokens [] (Token.scan (.tag none []) r)) := by
  induction ps generalizing seen with
  | nil =>
    rw [List.flatMap_nil, List.nil_append, Token.scan_text_open,
      readRoot_quiet _ _ (Token.quiet_texts _)]
  | cons p ps ih =>
    rw [List.forall_mem_cons] at h
    obtain ⟨ts, seen', quiet, e⟩ :=
      Token.scan_prologPart seen (ps.flatMap PrologPart.bytes ++ 0x3C :: r) h.1
    rw [List.flatMap_cons, List.append_assoc, e, readRoot_quiet _ _ quiet, ih h.2]

end

/-- A document without a byte order mark does not begin as one. -/
theorem head?_prolog {ps : List PrologPart} (h : ∀ p ∈ ps, p.WellFormed) (r : Bytes) :
    (ps.flatMap PrologPart.bytes ++ 0x3C :: r).head? ≠ some 0xEF := by
  induction ps with
  | nil => simp
  | cons p ps ih =>
    rw [List.forall_mem_cons] at h
    rw [List.flatMap_cons, List.append_assoc]
    cases p with
    | blank content =>
      cases content with
      | nil => exact ih h.2
      | cons b content =>
        have blank : isBlank b := List.all_eq_true.1 h.1 b (by simp)
        intro e
        cases e
        exact absurd blank (by decide)
    | comment | instruction | doctype => exact fun e => absurd (Option.some.inj e) (by decide)

theorem ofBytes_document {d : Document} (h : d.WellFormed) : Token.ofBytes d.bytes =
    Token.scan (.text []) (d.prolog.flatMap PrologPart.bytes ++
      0x3C :: (d.root.bytes ++ 0x3E :: (d.content.bytes ++ 0x3C ::
        (endTag d.root.name d.gap ++ d.rest)))) := by
  rw [Document.bytes]
  cases d.orderMark with
  | true => rfl
  | false =>
    have head := head?_prolog h.prolog (d.root.bytes ++ 0x3E :: (d.content.bytes ++ 0x3C ::
        (endTag d.root.name d.gap ++ d.rest)))
    rw [if_neg Bool.false_ne_true, List.nil_append, Token.ofBytes]
    intro r e
    rw [e] at head
    exact head rfl

/-- A document whose root has the expected name is read as what its content amounts to. -/
theorem readDocument_amountsTo {d : Document} (h : d.WellFormed)
    {children : List (String × Layout)} {ps : List Part} (hps : d.content.AmountsTo children ps) :
    readDocument d.root.name children d.bytes = .ok ps := by
  rw [readDocument, Event.ofBytes, ofBytes_document h, readRoot_prolog _ _ h.prolog,
    Token.scan_start h.root]
  simp only [Event.ofTokens, readRoot, if_true]
  rw [read_content h.content hps, Token.scan_end h.root.name h.gap]
  simp [Event.ofTokens, read, Frame.addAll]

theorem readDocument_document {d : Document} (h : d.WellFormed)
    {children : List (String × Layout)} (plain : d.content.PlainIn children) :
    readDocument d.root.name children d.bytes = .ok (d.content.parts children) :=
  readDocument_amountsTo h (amountsTo_parts h.content plain)

end BucketAccess.Markup
