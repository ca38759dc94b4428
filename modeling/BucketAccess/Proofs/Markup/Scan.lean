import BucketAccess.Proofs.Markup.Tree
import BucketAccess.Proofs.Text.Scanner
import BucketAccess.Proofs.Text.Utf8
import Mathlib.Data.List.TakeWhile

/-!
# Tokens of marks

What the scanner makes of the bytes of each kind of mark, whatever follows it. A mark ends the
stretch of text before it and leaves the scanner at the beginning of the next one.
-/

namespace BucketAccess.Markup

namespace Token

theorem toNat_ofNat_byte (b : UInt8) : (Char.ofNat b.toNat).toNat = b.toNat := by
  have valid : b.toNat.isValidChar := .inl (by have := b.toNat_lt; omega)
  rw [Char.ofNat, dif_pos valid]
  rfl

/-- A byte is compared by the character with its number. -/
theorem ofByte_ne {b k : UInt8} {c : Char} (h : b ≠ k) (hc : Char.ofNat k.toNat = c) :
    Char.ofNat b.toNat ≠ c := by
  rw [← hc]
  intro e
  have e := congrArg Char.toNat e
  rw [toNat_ofNat_byte, toNat_ofNat_byte] at e
  exact h (UInt8.toNat_inj.1 e)

/-! ## Stretches of text and references -/

section
variable (seen r : Bytes)

theorem scan_text_open :
    scan (.text seen) (0x3C :: r) = texts seen.reverse ++ scan (.tag none []) r := rfl

theorem scan_text_ampersand :
    scan (.text seen) (0x26 :: r) = texts seen.reverse ++ scan (.reference []) r := rfl

theorem scan_text {bs : Bytes} (h : 0x3C ∉ bs) (h' : 0x26 ∉ bs) :
    scan (.text seen) (bs ++ r) = scan (.text (bs.reverse ++ seen)) r := by
  induction bs generalizing seen with
  | nil => rfl
  | cons b bs ih =>
    simp only [List.mem_cons, not_or] at h h'
    rw [List.cons_append, scan, State.step, if_neg (ofByte_ne (c := '<') (Ne.symm h.1) rfl),
      if_neg (ofByte_ne (c := '&') (Ne.symm h'.1) rfl)]
    simp only [List.nil_append]
    rw [ih (b :: seen) h.2 h'.2, List.reverse_cons, List.append_assoc, List.singleton_append]

theorem scan_reference {content : Bytes} (h : 0x3B ∉ content ∧ 0x26 ∉ content ∧ 0x3C ∉ content) :
    scan (.reference seen) (content ++ 0x3B :: r) =
      .reference (seen.reverse ++ content) :: scan (.text []) r := by
  induction content generalizing seen with
  | nil => simp [scan, State.step]
  | cons b content ih =>
    simp only [List.mem_cons, not_or] at h
    have other : ¬ (Char.ofNat b.toNat = '&' ∨ Char.ofNat b.toNat = '<') :=
      not_or.2 ⟨ofByte_ne (Ne.symm h.2.1.1) rfl, ofByte_ne (Ne.symm h.2.2.1) rfl⟩
    rw [List.cons_append, scan, State.step, if_neg (ofByte_ne (c := ';') (Ne.symm h.1.1) rfl),
      if_neg other]
    simp only [List.nil_append]
    rw [ih (b :: seen) ⟨h.1.2, h.2.1.2, h.2.2.2⟩, List.reverse_cons, List.append_assoc,
      List.singleton_append]

/-! ## Tags -/

theorem scan_tag_quote {q : UInt8} {value : Bytes} (h : q ∉ value) :
    scan (.tag (some q) seen) (value ++ q :: r) =
      scan (.tag none (q :: (value.reverse ++ seen))) r := by
  induction value generalizing seen with
  | nil => simp [scan, State.step, quoteAfter]
  | cons b value ih =>
    simp only [List.mem_cons, not_or] at h
    rw [List.cons_append, scan, State.step, quoteAfter, if_neg (Ne.symm h.1)]
    simp only [List.nil_append]
    rw [ih (b :: seen) h.2, List.reverse_cons, List.append_assoc, List.singleton_append]

/-- A byte of a tag outside quotes that is not its end. -/
theorem scan_tag_cons {b : UInt8} (hb : b ≠ 0x3E) (h : seen ≠ [] ∨ b ≠ 0x21 ∧ b ≠ 0x3F) :
    scan (.tag none seen) (b :: r) = scan (.tag (quoteAfter b none) (b :: seen)) r := by
  have open_ne : ¬ (seen = [] ∧ Char.ofNat b.toNat = '!') := fun ⟨hs, hc⟩ =>
    h.elim (· hs) fun h => ofByte_ne h.1 rfl hc
  have question_ne : ¬ (seen = [] ∧ Char.ofNat b.toNat = '?') := fun ⟨hs, hc⟩ =>
    h.elim (· hs) fun h => ofByte_ne h.2 rfl hc
  rw [scan, State.step, if_neg open_ne, if_neg question_ne, if_neg (ofByte_ne (c := '>') hb rfl)]
  rfl

theorem scan_tag_close (hs : seen ≠ []) :
    scan (.tag none seen) (0x3E :: r) = ofTag seen.reverse ++ scan (.text []) r := by
  simp [scan, State.step, hs]

theorem scan_tag_quoted {bs : Bytes} (h : Quoted [0x3E] bs) (hs : seen ≠ []) :
    scan (.tag none seen) (bs ++ r) = scan (.tag none (bs.reverse ++ seen)) r := by
  induction h generalizing seen with
  | nil => rfl
  | @plain b bs double single stop _ ih =>
    rw [List.cons_append, scan_tag_cons _ _ (by simpa using stop) (.inl hs), quoteAfter,
      if_neg (not_or.2 ⟨double, single⟩), ih _ (List.cons_ne_nil _ _)]
    simp
  | @quote q value bs hq hv _ ih =>
    have stop : q ≠ 0x3E := by rintro rfl; simp at hq
    rw [List.cons_append, scan_tag_cons _ _ stop (.inl hs), quoteAfter, if_pos hq,
      List.append_assoc, List.cons_append, scan_tag_quote _ _ hv,
      ih _ (List.cons_ne_nil _ _)]
    simp

/-! ## Instructions, comments and character data -/

theorem scan_instruction {content : Bytes} (h : ¬ [0x3F, 0x3E] <:+: seen.reverse ++ content)
    (hs : seen ≠ []) :
    scan (.instruction seen) (content ++ 0x3F :: 0x3E :: r) = scan (.text []) r := by
  induction content generalizing seen with
  | nil => cases seen <;> simp_all [scan, State.step]
  | cons b content ih =>
    have goes : ¬ (Char.ofNat b.toNat = '>' ∧ seen.head? = some 0x3F) := by
      rintro ⟨hb, hq⟩
      by_cases e : b = 0x3E
      · obtain ⟨q, seen, rfl⟩ := List.exists_cons_of_ne_nil hs
        cases hq
        exact h ⟨seen.reverse, content, by simp [e]⟩
      · exact ofByte_ne e rfl hb
    rw [List.cons_append, scan, State.step, if_neg goes]
    simp only [List.nil_append]
    exact ih (b :: seen) (by simpa using h) (List.cons_ne_nil _ _)

/-- A byte of a comment that does not end it. -/
theorem scan_comment_cons {b : UInt8}
    (h : b = 0x3E → 5 ≤ seen.length → seen.take 2 ≠ [0x2D, 0x2D]) :
    scan (.comment seen) (b :: r) = scan (.comment (b :: seen)) r := by
  have goes : ¬ (Char.ofNat b.toNat = '>' ∧ 5 ≤ seen.length ∧
      seen.take 2 = Utf8.bytes "--") := by
    rintro ⟨hb, long, dashes⟩
    by_cases e : b = 0x3E
    · exact h e long dashes
    · exact ofByte_ne e rfl hb
  rw [scan, State.step, if_neg goes]
  rfl

/-- In a comment, after its first three bytes `!--`. -/
theorem scan_comment {content : Bytes} (h : ¬ [0x2D, 0x2D] <:+: seen.reverse ++ content) :
    scan (.comment (seen ++ [0x2D, 0x2D, 0x21])) (content ++ 0x2D :: 0x2D :: 0x3E :: r) =
      scan (.text []) r := by
  induction content generalizing seen with
  | nil =>
    rw [List.nil_append, scan_comment_cons _ _ (by simp), scan_comment_cons _ _ (by simp), scan,
      State.step, if_pos ⟨rfl, by simp, rfl⟩, if_pos (by simp; rfl)]
    rfl
  | cons b content ih =>
    rw [List.cons_append, scan_comment_cons]
    · exact ih (b :: seen) (by simpa using h)
    · intro _ long dashes
      match seen, long, dashes with
      | d :: e :: seen, _, dashes =>
        simp only [List.cons_append, List.take_succ_cons, List.take_zero, List.cons.injEq] at dashes
        exact h ⟨seen.reverse, b :: content, by simp [dashes]⟩

theorem scan_cdata_cons {b : UInt8} (h : b = 0x3E → seen.take 2 ≠ [0x5D, 0x5D]) :
    scan (.cdata seen) (b :: r) = scan (.cdata (b :: seen)) r := by
  have goes : ¬ (Char.ofNat b.toNat = '>' ∧ seen.take 2 = Utf8.bytes "]]") := by
    rintro ⟨hb, brackets⟩
    by_cases e : b = 0x3E
    · exact h e brackets
    · exact ofByte_ne e rfl hb
  rw [scan, State.step, if_neg goes]
  rfl

/-- In character data, after their first eight bytes `![CDATA[`. -/
theorem scan_cdata {content : Bytes} (h : ¬ [0x5D, 0x5D, 0x3E] <:+: seen.reverse ++ content) :
    scan (.cdata (seen ++ (Utf8.bytes "![CDATA[").reverse))
      (content ++ 0x5D :: 0x5D :: 0x3E :: r) = scan (.text []) r := by
  induction content generalizing seen with
  | nil =>
    rw [List.nil_append, scan_cdata_cons _ _ (by simp), scan_cdata_cons _ _ (by simp), scan,
      State.step, if_pos ⟨rfl, rfl⟩, if_pos (by simp; rfl)]
    rfl
  | cons b content ih =>
    rw [List.cons_append, scan_cdata_cons]
    · exact ih (b :: seen) (by simpa using h)
    · intro e brackets
      match seen, brackets with
      | [c], brackets =>
        have : some 0x5B = some (0x5D : UInt8) := congrArg (·[1]?) brackets
        exact absurd this (by decide)
      | c :: d :: seen, brackets =>
        simp only [List.cons_append, List.take_succ_cons, List.take_zero, List.cons.injEq] at brackets
        exact h ⟨seen.reverse, content, by simp [brackets, e]⟩

end

/-! ## Document types -/

namespace DoctypePart

/-- Where bytes that do not end the declaration lead to. -/
abbrev Leads (p : DoctypePart) (bs : Bytes) (q : DoctypePart) : Prop :=
  BucketAccess.Leads next? p bs q

/-- A quoted value and the quote after it. -/
theorem leads_value {K : Option UInt8 → DoctypePart}
    (inside : ∀ q b, (K (some q)).next? b = some (K (quoteAfter b (some q)))) {q : UInt8}
    {value : Bytes} (h : q ∉ value) : Leads (K (some q)) (value ++ [q]) (K none) := by
  induction value with
  | nil => exact .cons (by rw [inside, quoteAfter, if_pos rfl]) .nil
  | cons b value ih =>
    simp only [List.mem_cons, not_or] at h
    exact .cons (by rw [inside, quoteAfter, if_neg (Ne.symm h.1)]) (ih h.2)

/-- A part that keeps track of quotes passes over bytes in which they are closed. -/
theorem leads_quoted {K : Option UInt8 → DoctypePart} {stops bs : Bytes}
    (inside : ∀ q b, (K (some q)).next? b = some (K (quoteAfter b (some q))))
    (outside : ∀ b ∉ stops, (K none).next? b = some (K (quoteAfter b none)))
    (stops_quote : 0x22 ∉ stops ∧ 0x27 ∉ stops) (h : Quoted stops bs) :
    Leads (K none) bs (K none) := by
  induction h with
  | nil => exact .nil
  | @plain b r double single stop _ ih =>
    exact .cons (by rw [outside b stop, quoteAfter, if_neg (not_or.2 ⟨double, single⟩)]) ih
  | @quote q value r hq hv _ ih =>
    have stop : q ∉ stops := by
      rcases hq with rfl | rfl
      · exact stops_quote.1
      · exact stops_quote.2
    rw [List.append_cons]
    exact .cons (by rw [outside q stop, quoteAfter, if_pos hq]) ((leads_value inside hv).append ih)

theorem leads_head {bs : Bytes} (h : Quoted [0x3E, 0x5B] bs) :
    Leads (.head none) bs (.head none) := by
  refine leads_quoted (K := .head) (fun _ _ => rfl) (fun b hb => ?_) (by decide) h
  simp only [List.mem_cons, List.not_mem_nil, or_false, not_or] at hb
  rw [next?, if_neg (ofByte_ne (c := '>') hb.1 rfl), if_neg (ofByte_ne (c := '[') hb.2 rfl)]

theorem leads_quoting {bs : Bytes} (h : Quoted [0x3E] bs) :
    Leads (.quoting none) bs (.quoting none) := by
  refine leads_quoted (K := .quoting) (fun _ _ => rfl) (fun b hb => ?_) (by decide) h
  rw [next?, if_neg (ofByte_ne (c := '>') (List.mem_singleton.not.1 hb) rfl)]

theorem leads_subset {bs : Bytes} (h : 0x3C ∉ bs) (h' : 0x5D ∉ bs) : Leads .subset bs .subset := by
  induction bs with
  | nil => exact .nil
  | cons b bs ih =>
    simp only [List.mem_cons, not_or] at h h'
    refine .cons ?_ (ih h.2 h'.2)
    rw [next?, if_neg (ofByte_ne (c := ']') (Ne.symm h'.1) rfl),
      if_neg (ofByte_ne (c := '<') (Ne.symm h.1) rfl)]

theorem leads_plain {bs : Bytes} (h : 0x3E ∉ bs) : Leads .plain bs .plain := by
  induction bs with
  | nil => exact .nil
  | cons b bs ih =>
    simp only [List.mem_cons, not_or] at h
    exact .cons (by rw [next?, if_neg (ofByte_ne (c := '>') (Ne.symm h.1) rfl)]) (ih h.2)

theorem leads_tail {bs : Bytes} (h : 0x3E ∉ bs) : Leads .tail bs .tail := by
  induction bs with
  | nil => exact .nil
  | cons b bs ih =>
    simp only [List.mem_cons, not_or] at h
    exact .cons (by rw [next?, if_neg (ofByte_ne (c := '>') (Ne.symm h.1) rfl)]) (ih h.2)

/-- In a comment, after so many dashes. -/
theorem leads_comment {content : Bytes} {dashes : Nat} (hd : dashes ≤ 1)
    (h : ¬ [0x2D, 0x2D] <:+: List.replicate dashes 0x2D ++ content) :
    Leads (.comment dashes) (content ++ [0x2D, 0x2D, 0x3E]) .subset := by
  induction content generalizing dashes with
  | nil =>
    refine .cons rfl (.cons rfl (.cons ?_ .nil))
    rw [next?, if_neg (by decide), if_pos ⟨rfl, by omega⟩]
  | cons b content ih =>
    by_cases e : b = 0x2D
    · have : dashes = 0 := by
        by_contra
        obtain rfl : dashes = 1 := by omega
        exact h ⟨[], content, by simp [e]⟩
      subst e this
      exact .cons rfl (ih le_rfl (by simpa using h))
    · refine .cons (q := .comment 0) ?_ (ih (Nat.zero_le 1) ?_)
      · rw [next?, if_neg (ofByte_ne (c := '-') e rfl), if_neg (by omega)]
      · intro inner
        exact h (inner.trans ⟨List.replicate dashes 0x2D ++ [b], [], by simp⟩)

/-- In an instruction, perhaps after a question mark. -/
theorem leads_instruction {content : Bytes} {question : Bool}
    (h : ¬ [0x3F, 0x3E] <:+: (if question then [0x3F] else []) ++ content) :
    Leads (.instruction question) (content ++ [0x3F, 0x3E]) .subset := by
  induction content generalizing question with
  | nil => exact .cons (by cases question <;> rfl) (.cons rfl .nil)
  | cons b content ih =>
    have goes : ¬ (Char.ofNat b.toNat = '>' ∧ question) := by
      rintro ⟨hb, rfl⟩
      by_cases e : b = 0x3E
      · exact h ⟨[], content, by simp [e]⟩
      · exact ofByte_ne e rfl hb
    by_cases e : b = 0x3F
    · refine .cons (q := .instruction true) (by rw [next?, if_neg goes, e]; rfl) (ih fun inner => ?_)
      exact h (inner.trans ⟨if question then [0x3F] else [], [], by simp [e]⟩)
    · refine .cons (q := .instruction false) ?_ (ih fun inner => ?_)
      · rw [next?, if_neg goes, decide_eq_false (ofByte_ne (c := '?') e rfl)]
      · exact h (inner.trans ⟨(if question then [0x3F] else []) ++ [b], [], by simp⟩)

theorem leads_part {p : SubsetPart} (h : p.WellFormed) : Leads .subset p.bytes .subset := by
  cases p with
  | plain content => exact leads_subset h.1 h.2
  | comment content =>
    exact Leads.append (q := DoctypePart.comment 0) rfl (leads_comment (Nat.zero_le 1) h)
  | instruction content =>
    exact Leads.append (q := DoctypePart.instruction false) rfl
      (leads_instruction fun inner => h (inner.trans ⟨[0x3F], [], by simp⟩))
  | elementDeclaration content =>
    exact Leads.append (q := DoctypePart.plain) rfl ((leads_plain h).append (.cons rfl .nil))
  | declaration keyword content =>
    obtain ⟨hk, hq⟩ := h
    have known : Leads (.mark [0x21]) (Utf8.bytes keyword) (.quoting none) := by
      simp only [List.mem_cons, List.not_mem_nil, or_false] at hk
      rcases hk with rfl | rfl | rfl <;> rfl
    exact Leads.append (q := DoctypePart.mark [0x21]) rfl
      (known.append ((leads_quoting hq).append (.cons rfl .nil)))

theorem leads_parts {parts : List SubsetPart} (h : ∀ p ∈ parts, p.WellFormed) :
    Leads .subset (parts.flatMap SubsetPart.bytes) .subset := by
  induction parts with
  | nil => exact .nil
  | cons p parts ih =>
    rw [List.forall_mem_cons] at h
    exact (leads_part h.1).append (ih h.2)

/-- A declaration up to the end that closes it. -/
theorem leads_doctype {d : Doctype} (h : d.WellFormed) : ∃ inner part,
    d.bytes = Utf8.bytes "<!DOCTYPE" ++ (inner ++ [0x3E]) ∧
      Leads (.head none) inner part ∧ part.next? 0x3E = none ∧ ∃ b ∈ inner, isBlank b = false := by
  obtain ⟨b, hb, blank⟩ := List.all_eq_false.1 (Bool.eq_false_iff.2 h.named)
  have blank := Bool.eq_false_iff.2 blank
  cases hs : d.subset with
  | none =>
    exact ⟨d.head, .head none, by simp [Doctype.bytes, hs], leads_head h.head, rfl, b, hb, blank⟩
  | some parts =>
    have subset : Leads .subset (parts.flatMap SubsetPart.bytes ++ 0x5D :: d.tail) .tail :=
      (leads_parts (h.subset parts hs)).append (.cons rfl (leads_tail h.tail))
    exact ⟨d.head ++ 0x5B :: (parts.flatMap SubsetPart.bytes ++ 0x5D :: d.tail), .tail,
      by simp [Doctype.bytes, hs], (leads_head h.head).append (.cons rfl subset), rfl, b,
      List.mem_append_left _ hb, blank⟩

end DoctypePart

/-- Bytes of a document type declaration that do not end it. -/
theorem scan_leads {part next : DoctypePart} {bs : Bytes} (seen r : Bytes)
    (h : part.Leads bs next) :
    scan (.doctype part seen) (bs ++ r) = scan (.doctype next (bs.reverse ++ seen)) r := by
  induction bs generalizing part seen with
  | nil => cases h; rfl
  | cons b bs ih =>
    obtain ⟨mid, hm, h⟩ := Leads.cons_iff.1 h
    rw [List.cons_append, scan, State.step, hm]
    simp only [List.nil_append]
    rw [ih _ h]
    simp

end Token

/-! ## Names -/

/-- The bytes that a name has none of. -/
def nameStops : Bytes := [0x20, 0x09, 0x0D, 0x0A, 0x21, 0x22, 0x26, 0x27, 0x2F, 0x3C, 0x3E, 0x3F]

theorem not_isNameChar_of_mem {b : UInt8} (h : b ∈ nameStops) :
    b.toNat < 0x80 ∧ ¬ IsNameChar (Char.ofNat b.toNat) := by
  simp only [nameStops, List.mem_cons, List.not_mem_nil, or_false] at h
  unfold IsNameChar
  rcases h with rfl | rfl | rfl | rfl | rfl | rfl | rfl | rfl | rfl | rfl | rfl | rfl <;>
    decide

theorem IsName.not_mem_bytes {name : String} (h : IsName name) {b : UInt8} (hb : b ∈ nameStops) :
    b ∉ Utf8.bytes name := fun hm =>
  have stop := not_isNameChar_of_mem hb
  stop.2 (h.2 _ (Utf8.mem_of_mem_encode hm stop.1))

theorem IsName.not_isBlank {name : String} (h : IsName name) :
    ∀ b ∈ Utf8.bytes name, isBlank b = false := by
  intro b hb
  rw [← Bool.not_eq_true]
  intro blank
  refine h.not_mem_bytes (b := b) ?_ hb
  simp only [isBlank, Bool.or_eq_true, beq_iff_eq] at blank
  simp only [nameStops, List.mem_cons]
  tauto

theorem quoted_of_not_mem {stops bs : Bytes} (h : ∀ b ∈ 0x22 :: 0x27 :: stops, b ∉ bs) :
    Quoted stops bs := by
  induction bs with
  | nil => exact .nil
  | cons b r ih =>
    have head : ∀ k ∈ 0x22 :: 0x27 :: stops, b ≠ k := fun k hk e => h k hk (by simp [e])
    exact .plain (head _ (by simp)) (head _ (by simp)) (fun hb => head b (by simp [hb]) rfl)
      (ih fun k hk hr => h k hk (List.mem_cons_of_mem _ hr))

theorem IsName.quoted {name : String} (h : IsName name) : Quoted [0x3E] (Utf8.bytes name) :=
  quoted_of_not_mem fun _ hb => h.not_mem_bytes (by revert hb; simp [nameStops]; tauto)

theorem Quoted.append {stops a b : Bytes} (h : Quoted stops a) (hb : Quoted stops b) :
    Quoted stops (a ++ b) := by
  induction h with
  | nil => exact hb
  | plain double single stop _ ih => exact .plain double single stop ih
  | @quote q value r hq hv _ ih =>
    rw [List.cons_append, List.append_assoc]
    exact .quote hq hv ih

theorem IsName.bytes_ne_nil {name : String} (h : IsName name) : Utf8.bytes name ≠ [] := fun e =>
  h.1 (String.toList_eq_nil_iff.1 (Utf8.encode_eq_nil e))

/-- The first byte of a name. -/
theorem IsName.exists_cons {name : String} (h : IsName name) :
    ∃ b r, Utf8.bytes name = b :: r ∧ b ∉ nameStops := by
  obtain ⟨b, r, e⟩ := List.exists_cons_of_ne_nil h.bytes_ne_nil
  exact ⟨b, r, e, fun stop => h.not_mem_bytes stop (by simp [e])⟩

/-- The first byte of a tag: it ends no tag and begins no other kind of mark. -/
theorem Tag.WellFormed.exists_cons {t : Tag} (h : t.WellFormed) : ∃ b r, t.bytes = b :: r ∧
    (b ≠ 0x21 ∧ b ≠ 0x3F ∧ b ≠ 0x22 ∧ b ≠ 0x27) ∧ b ≠ 0x2F := by
  obtain ⟨b, name, e, stop⟩ := h.name.exists_cons
  refine ⟨b, name ++ t.attributes, by rw [Tag.bytes, e]; rfl, ?_⟩
  simp only [nameStops, List.mem_cons, not_or] at stop
  tauto

theorem Tag.WellFormed.bytes_quoted {t : Tag} (h : t.WellFormed) : Quoted [0x3E] t.bytes :=
  h.name.quoted.append h.quoted

namespace Token

/-! ## Tags and their names -/

/-- A tag up to its end, unless another kind of mark begins. -/
theorem scan_tag {content : Bytes} (r : Bytes) {b : UInt8}
    (hb : b ≠ 0x21 ∧ b ≠ 0x3F ∧ b ≠ 0x22 ∧ b ≠ 0x27) (h : Quoted [0x3E] (b :: content)) :
    scan (.tag none []) (b :: (content ++ 0x3E :: r)) =
      ofTag (b :: content) ++ scan (.text []) r := by
  cases h with
  | plain double single stop hq =>
    rw [scan_tag_cons _ _ (by simpa using stop) (.inr ⟨hb.1, hb.2.1⟩), quoteAfter,
      if_neg (not_or.2 ⟨double, single⟩), scan_tag_quoted _ _ hq (List.cons_ne_nil _ _),
      scan_tag_close _ _ (by simp)]
    simp
  | quote hq => simp [hb] at hq

/-- What a tag that begins with a name says. -/
theorem ofTag_eq {content : Bytes} (h : content.head? ≠ some 0x2F) :
    ofTag content = if content.getLast? = some 0x2F then []
      else [.opening (content.takeWhile (!isBlank ·))] := by
  unfold ofTag
  split
  · exact absurd rfl h
  · rfl

theorem takeWhile_tag {t : Tag} (h : t.WellFormed) :
    t.bytes.takeWhile (!isBlank ·) = Utf8.bytes t.name := by
  rw [Tag.bytes, List.takeWhile_append_of_pos fun b hb => by simp [h.name.not_isBlank b hb]]
  cases ha : t.attributes with
  | nil => simp
  | cons b r => simp [h.blank b (by simp [ha])]

theorem getLast?_tag {t : Tag} (h : t.WellFormed) : t.bytes.getLast? ≠ some 0x2F := by
  rw [Tag.bytes, List.getLast?_append]
  cases ha : t.attributes.getLast? with
  | none =>
    intro e
    exact h.name.not_mem_bytes (b := 0x2F) (by decide) (List.mem_of_getLast? (by simpa using e))
  | some b =>
    have := h.closed
    rw [ha] at this
    simpa using this

theorem scan_start {t : Tag} (h : t.WellFormed) (r : Bytes) :
    scan (.tag none []) (t.bytes ++ 0x3E :: r) =
      .opening (Utf8.bytes t.name) :: scan (.text []) r := by
  obtain ⟨b, content, e, stops, slash⟩ := h.exists_cons
  rw [e, List.cons_append, scan_tag r stops (e ▸ h.bytes_quoted), ← e,
    ofTag_eq (by simp [e, slash]), if_neg (getLast?_tag h), takeWhile_tag h]
  rfl

theorem scan_empty {t : Tag} (h : t.WellFormed) (r : Bytes) :
    scan (.tag none []) (t.bytes ++ 0x2F :: 0x3E :: r) = scan (.text []) r := by
  obtain ⟨b, content, e, stops, slash⟩ := h.exists_cons
  have hq : Quoted [0x3E] (b :: (content ++ [0x2F])) := by
    rw [← List.cons_append, ← e]
    exact h.bytes_quoted.append (quoted_of_not_mem (by simp))
  rw [e, List.append_cons, List.cons_append, List.cons_append, scan_tag r stops hq,
    ofTag_eq (by simp [slash]), if_pos (by rw [← List.cons_append, List.getLast?_concat])]
  rfl

theorem closingName_eq {name : String} {gap : Bytes} (h : IsName name) (hg : gap.all isBlank) :
    closingName (Utf8.bytes name ++ gap) = Utf8.bytes name := by
  have some_name : ¬ (Utf8.bytes name ++ gap).all isBlank := by
    obtain ⟨b, r, e, -⟩ := h.exists_cons
    have := h.not_isBlank b (by simp [e])
    simp [e, this]
  rw [closingName, if_neg some_name, trimEnd, List.reverse_append,
    List.dropWhile_append_of_pos fun b hb => List.all_eq_true.1 hg b (List.mem_reverse.1 hb)]
  have keep : (Utf8.bytes name).reverse.dropWhile isBlank = (Utf8.bytes name).reverse := by
    rw [List.dropWhile_eq_self_iff]
    intro hl
    have := h.not_isBlank _ (List.mem_reverse.1 (List.getElem_mem hl))
    rw [this]
    exact Bool.false_ne_true
  rw [keep, List.reverse_reverse]

theorem scan_end {name : String} {gap : Bytes} (h : IsName name) (hg : gap.all isBlank)
    (r : Bytes) : scan (.tag none []) (endTag name gap ++ r) =
      .closing (Utf8.bytes name) :: scan (.text []) r := by
  have hq : Quoted [0x3E] (0x2F :: (Utf8.bytes name ++ gap)) := by
    refine .plain (by decide) (by decide) (by decide) (h.quoted.append (quoted_of_not_mem ?_))
    intro b hb hm
    have blank := List.all_eq_true.1 hg b hm
    simp only [List.mem_cons, List.not_mem_nil, or_false] at hb
    rcases hb with rfl | rfl | rfl <;> exact absurd blank (by decide)
  have := scan_tag r (by decide) hq
  rw [List.append_assoc] at this
  rw [endTag, List.cons_append, List.append_assoc, List.append_assoc, List.singleton_append, this,
    ofTag, closingName_eq h hg]
  rfl

/-! ## Whole marks -/

section
variable (seen r : Bytes) {content : Bytes}

theorem scan_commentBytes (h : IsComment content) : scan (.text seen) (commentBytes content ++ r) =
    texts seen.reverse ++ scan (.text []) r := by
  have start : scan (.text seen) (Utf8.bytes "<!--" ++ (content ++ 0x2D :: 0x2D :: 0x3E :: r)) =
      texts seen.reverse ++
        scan (.comment [0x2D, 0x2D, 0x21]) (content ++ 0x2D :: 0x2D :: 0x3E :: r) := rfl
  rw [commentBytes, List.append_assoc, List.append_assoc,
    show Utf8.bytes "-->" = [0x2D, 0x2D, 0x3E] from rfl, List.cons_append, List.cons_append,
    List.cons_append, List.nil_append, start, ← List.nil_append [0x2D, 0x2D, 0x21],
    scan_comment [] r h]

theorem scan_instructionBytes (h : IsInstruction content) :
    scan (.text seen) (instructionBytes content ++ r) =
      texts seen.reverse ++ scan (.text []) r := by
  have start : scan (.text seen) (Utf8.bytes "<?" ++ (content ++ 0x3F :: 0x3E :: r)) =
      texts seen.reverse ++ scan (.instruction [0x3F]) (content ++ 0x3F :: 0x3E :: r) := rfl
  rw [instructionBytes, List.append_assoc, List.append_assoc,
    show Utf8.bytes "?>" = [0x3F, 0x3E] from rfl, List.cons_append, List.cons_append,
    List.nil_append, start, scan_instruction [0x3F] r h (by simp)]

theorem scan_cdataBytes (h : ¬ Utf8.bytes "]]>" <:+: content) :
    scan (.text seen) ((Mark.cdata content).bytes ++ r) =
      texts seen.reverse ++ scan (.text []) r := by
  have start : scan (.text seen)
      (Utf8.bytes "<![CDATA[" ++ (content ++ 0x5D :: 0x5D :: 0x3E :: r)) =
      texts seen.reverse ++ scan (.cdata (Utf8.bytes "![CDATA[").reverse)
        (content ++ 0x5D :: 0x5D :: 0x3E :: r) := rfl
  rw [Mark.bytes, List.append_assoc, List.append_assoc,
    show Utf8.bytes "]]>" = [0x5D, 0x5D, 0x3E] from rfl, List.cons_append, List.cons_append,
    List.cons_append, List.nil_append, start, ← List.nil_append (Utf8.bytes "![CDATA[").reverse,
    scan_cdata [] r h]

/-- The end of a declaration of a document type that has a name. -/
theorem ofDoctype_eq {b : UInt8} (hb : b ∈ content) (h : isBlank b = false) :
    ofDoctype (Utf8.bytes "!DOCTYPE" ++ content) = [] := by
  have named : ((Utf8.bytes "!DOCTYPE" ++ content).drop 8).all isBlank = false :=
    List.all_eq_false.2 ⟨b, hb, by rw [h]; exact Bool.false_ne_true⟩
  have keyword : ((Utf8.bytes "!DOCTYPE" ++ content).take 8).map upperByte =
      Utf8.bytes "!DOCTYPE" := rfl
  rw [ofDoctype, if_neg (not_not.2 keyword), if_neg (by rw [named]; exact Bool.false_ne_true)]

theorem scan_doctypeBytes {d : Doctype} (h : d.WellFormed) :
    scan (.text seen) (d.bytes ++ r) = texts seen.reverse ++ scan (.text []) r := by
  obtain ⟨inner, part, hd, hl, hn, b, hb, blank⟩ := DoctypePart.leads_doctype h
  have start : scan (.text seen) (Utf8.bytes "<!DOCTYPE" ++ (inner ++ 0x3E :: r)) =
      texts seen.reverse ++
        scan (.doctype (.head none) (Utf8.bytes "!DOCTYPE").reverse) (inner ++ 0x3E :: r) := rfl
  rw [hd, List.append_assoc, List.append_assoc, List.singleton_append, start, scan_leads _ _ hl,
    scan, State.step, hn]
  simp only [List.reverse_append, List.reverse_reverse, ofDoctype_eq hb blank, List.nil_append]

/-- A token that opens and closes nothing. -/
def Quiet (t : Token) : Prop := (∃ c, t = .text c) ∨ ∃ c, t = .reference c

theorem quiet_texts (content : Bytes) : ∀ t ∈ texts content, Quiet t := by
  unfold texts
  split
  · simp
  · simp [Quiet]

/-- A text without the characters that begin marks. -/
theorem scan_string {s : String} (h : '<' ∉ s.toList ∧ '&' ∉ s.toList) :
    scan (.text seen) (Utf8.bytes s ++ r) =
      scan (.text ((Utf8.bytes s).reverse ++ seen)) r := by
  refine scan_text seen r ?_ ?_
  · exact fun hm => h.1 (Utf8.mem_of_mem_encode hm (by decide))
  · exact fun hm => h.2 (Utf8.mem_of_mem_encode hm (by decide))

theorem scan_mark {m : Mark} (h : m.WellFormed) : ∃ ts seen', (∀ t ∈ ts, Quiet t) ∧
    scan (.text seen) (m.bytes ++ r) = ts ++ scan (.text seen') r := by
  have texts_quiet := quiet_texts seen.reverse
  cases m with
  | text content => exact ⟨[], _, by simp, scan_string seen r h⟩
  | reference content =>
    refine ⟨texts seen.reverse ++ [.reference content], [], ?_, ?_⟩
    · simp only [List.mem_append, List.mem_singleton]
      rintro t (ht | rfl)
      · exact texts_quiet t ht
      · exact .inr ⟨content, rfl⟩
    · rw [Mark.bytes, List.cons_append, List.append_assoc, scan_text_ampersand,
        List.singleton_append, scan_reference [] r h]
      simp
  | empty tag =>
    refine ⟨_, [], texts_quiet, ?_⟩
    rw [Mark.bytes, List.cons_append, List.append_assoc, scan_text_open]
    exact congrArg _ (scan_empty h r)
  | comment content => exact ⟨_, [], texts_quiet, scan_commentBytes seen r h⟩
  | instruction content => exact ⟨_, [], texts_quiet, scan_instructionBytes seen r h⟩
  | cdata content => exact ⟨_, [], texts_quiet, scan_cdataBytes seen r h⟩

theorem scan_prologPart {p : PrologPart} (h : p.WellFormed) : ∃ ts seen', (∀ t ∈ ts, Quiet t) ∧
    scan (.text seen) (p.bytes ++ r) = ts ++ scan (.text seen') r := by
  have texts_quiet := quiet_texts seen.reverse
  cases p with
  | blank content =>
    have stop {b : UInt8} (hb : isBlank b = false) : b ∉ content := fun hm => by
      rw [List.all_eq_true.1 h b hm] at hb
      cases hb
    exact ⟨[], _, by simp, scan_text seen r (stop (by decide)) (stop (by decide))⟩
  | comment content => exact ⟨_, [], texts_quiet, scan_commentBytes seen r h⟩
  | instruction content => exact ⟨_, [], texts_quiet, scan_instructionBytes seen r h⟩
  | doctype d => exact ⟨_, [], texts_quiet, scan_doctypeBytes seen r h⟩

end

end Token

end BucketAccess.Markup
