import BucketAccess.Proofs.Markup.Documents
import BucketAccess.Proofs.Text.Digits

/-!
# Texts with references

A text as the content of a field, with any of its characters written as references. Reading takes
the references for what they stand for, but it cuts the white space from the ends of each stretch
between them (`asRead`), so that the text itself is read exactly if none of the white space beside a
reference is written as it is (`asRead_eq_iff`).
-/

namespace BucketAccess.Markup

/-! ## References -/

def predefined : List (String × Char) :=
  [("lt", '<'), ("gt", '>'), ("amp", '&'), ("apos", '\''), ("quot", '"')]

/-- Digits that write a number: letters of either case, and any zeros before them. -/
structure IsNumeral (radix : Nat) (digits : List Char) (n : Nat) : Prop where
  ne_nil : digits ≠ []
  digit : ∀ c ∈ digits, (Numeral.digit? radix c).isSome
  value : digits.foldl (fun n c => n * radix + (Numeral.digit? radix c).getD 0) 0 = n

/-- What stands between `&` and `;` stands for a character. -/
inductive Refers : List Char → Char → Prop where
  | named {name : String} {c : Char} : (name, c) ∈ predefined → Refers name.toList c
  | decimal {digits : List Char} {c : Char} : IsNumeral 10 digits c.toNat → c.toNat ≠ 0 →
      Refers ('#' :: digits) c
  | hexadecimal {digits : List Char} {c : Char} : IsNumeral 16 digits c.toNat → c.toNat ≠ 0 →
      Refers ('#' :: 'x' :: digits) c

theorem isNumeral_toDigits {radix : Nat} (h : 1 < radix) (h16 : radix ≤ 16) (n : Nat) :
    IsNumeral radix (Nat.toDigits radix n) n :=
  ⟨Nat.toDigits_ne_nil, Numeral.isSome_digit?_of_mem_toDigits h h16 n,
    Numeral.foldl_toDigits h h16 n⟩

/-- Every character that a document can hold has a reference. -/
theorem refers_toDigits {c : Char} (h : c.toNat ≠ 0) :
    Refers ('#' :: Nat.toDigits 10 c.toNat) c :=
  .decimal (isNumeral_toDigits (by decide) (by decide) _) h

theorem IsNumeral.head?_ne {radix n : Nat} {digits : List Char} (h : IsNumeral radix digits n)
    {c : Char} (hc : Numeral.digit? radix c = none) : digits.head? ≠ some c := by
  intro hhead
  have hdigit := h.digit c (List.mem_of_head? hhead)
  rw [hc] at hdigit
  cases hdigit

theorem numbered_of_isNumeral {radix : Nat} (hradix : 0 < radix) {digits : List Char} {c : Char}
    (h : IsNumeral radix digits c.toNat) (hc : c.toNat ≠ 0) : numbered radix digits = .ok c := by
  have hvalid := Utf8.toNat_valid c
  have hread : Numeral.read radix 0xFFFFFFFF digits = .ok c.toNat := by
    have hbound : digits.foldl (fun n c => n * radix + (Numeral.digit? radix c).getD 0) 0 ≤
        0xFFFFFFFF := by
      rw [h.value]
      omega
    rw [Numeral.read_of_digits hradix h.ne_nil h.digit hbound, h.value]
  unfold numbered
  split
  · exact absurd rfl (h.head?_ne (by simp [Numeral.digit?]))
  · exact absurd rfl (h.head?_ne (by simp [Numeral.digit?]))
  · rw [hread]
    split
    · next h => cases h
    · next h => exact absurd (Except.ok.inj h) hc
    · next code _ h =>
      cases h
      have hchar : c.toNat.isValidChar := c.valid
      rw [if_pos hchar, Char.ofNat_toNat]

theorem Refers.resolve_eq {r : List Char} {c : Char} (h : Refers r c) : resolve r = .ok c := by
  cases h with
  | named h =>
    simp only [predefined, List.mem_cons, List.not_mem_nil, or_false, Prod.mk.injEq] at h
    rcases h with ⟨rfl, rfl⟩ | ⟨rfl, rfl⟩ | ⟨rfl, rfl⟩ | ⟨rfl, rfl⟩ | ⟨rfl, rfl⟩ <;> rfl
  | decimal h hc =>
    unfold resolve
    split
    · next heq =>
      cases heq
      exact absurd rfl (h.head?_ne (c := 'x') (by decide))
    · next heq =>
      cases heq
      exact numbered_of_isNumeral (by decide) h hc
    · next hother => exact absurd rfl (hother _)
  | hexadecimal h hc => exact numbered_of_isNumeral (by decide) h hc

theorem readReference_encode {r : List Char} {c : Char} (h : Refers r c) :
    readReference (Utf8.encode r) = .ok c := by
  have hread : readText (Utf8.encode r) = .ok (String.ofList r) := by
    have hstrict := Utf8.strict_bytes (String.ofList r)
    rw [Utf8.bytes, String.toList_ofList] at hstrict
    rw [readText, hstrict]
    rfl
  show (readText (Utf8.encode r)).bind _ = _
  rw [hread]
  show (resolve (String.ofList r).toList).mapError _ = _
  rw [String.toList_ofList, h.resolve_eq]
  rfl

/-! ## Letters -/

/-- A character of a text, as it is written in a field. -/
structure Letter where
  char : Char
  /-- It is written as a reference. -/
  referred : Bool
  deriving DecidableEq, Repr

def bare (s : List Char) : List Letter := s.map (⟨·, false⟩)

def lettersText (w : List Letter) : String := String.ofList (w.map Letter.char)

/-- Content that holds these letters and nothing else. -/
inductive Spells : Content → List Letter → Prop where
  | nil : Spells .nil []
  | text {s : String} {after : Content} {w : List Letter} : Spells after w →
      Spells (.mark (.text s) after) (bare s.toList ++ w)
  | reference {r : List Char} {c : Char} {after : Content} {w : List Letter} : Refers r c →
      Spells after w → Spells (.mark (.reference (Utf8.encode r)) after) (⟨c, true⟩ :: w)

def trimmedChars (s : List Char) : List Char := (s.dropWhile isSpace).rdropWhile isSpace

/-- What is read of letters after a stretch of others that are written as they are. -/
def readAfter (stretch : List Char) : List Letter → List Char
  | [] => trimmedChars stretch
  | ⟨c, false⟩ :: w => readAfter (stretch ++ [c]) w
  | ⟨c, true⟩ :: w => trimmedChars stretch ++ c :: readAfter [] w

/-- What is read of letters: each stretch between references without the white space at its
ends. -/
def asRead (w : List Letter) : String := String.ofList (readAfter [] w)

theorem readAfter_bare (stretch s : List Char) (w : List Letter) :
    readAfter stretch (bare s ++ w) = readAfter (stretch ++ s) w := by
  induction s generalizing stretch with
  | nil => rw [List.append_nil]; rfl
  | cons c s ih => exact (ih _).trans (by rw [List.append_assoc, List.singleton_append])

/-- The letters of a field are read, after a stretch of text that has been seen and text that has
been read. -/
theorem read_letters {c : Content} {w : List Letter} (hw : Spells c w) (h : c.WellFormed)
    (inner : Frame) (outer : List Frame) (name content : String) (stretch : List Char)
    (opened : List Bytes) (r : Bytes) :
    read inner outer (.text name content) (Event.ofTokens opened
        (Token.scan (.text (Utf8.encode stretch).reverse) (c.bytes ++ 0x3C :: r))) =
      read inner outer (.text name (content ++ String.ofList (readAfter stretch w)))
        (Event.ofTokens opened (Token.scan (.tag none []) r)) := by
  have hstretch (stretch : List Char) :
      Utf8.encode stretch = Utf8.bytes (String.ofList stretch) := by
    rw [Utf8.bytes, String.toList_ofList]
  have htrimmed (stretch : List Char) :
      trimmed (String.ofList stretch) = String.ofList (trimmedChars stretch) := by
    rw [trimmed, String.toList_ofList, trimmedChars, List.rdropWhile]
  induction hw generalizing content stretch with
  | nil =>
    rw [Content.bytes, List.nil_append, Token.scan_text_open, List.reverse_reverse, hstretch,
      read_stretch, htrimmed, readAfter]
  | @text s after w _ ih =>
    obtain ⟨hs, ha⟩ := h
    rw [Content.bytes, List.append_assoc, Mark.bytes, Token.scan_string _ _ hs, readAfter_bare,
      ← ih ha, Utf8.encode_append, List.reverse_append]
    rfl
  | @reference reference c after w hc _ ih =>
    obtain ⟨hr, ha⟩ := h
    rw [Content.bytes, List.append_assoc, Mark.bytes, List.cons_append, List.append_assoc,
      Token.scan_text_ampersand, List.singleton_append, Token.scan_reference [] _ hr,
      List.reverse_reverse, hstretch, read_stretch, htrimmed]
    simp only [List.reverse_nil, List.nil_append, Event.ofTokens, read, readReference_encode hc]
    have htext : (content ++ String.ofList (trimmedChars stretch)).push c ++
          String.ofList (readAfter [] w) =
        content ++ String.ofList (readAfter stretch (⟨c, true⟩ :: w)) := by
      apply String.toList_injective
      simp [readAfter]
    rw [← htext]
    exact ih ha _ []

theorem Spells.isReadAs {c : Content} {w : List Letter} (hw : Spells c w) (h : c.WellFormed) :
    c.IsReadAs (asRead w) := by
  intro inner outer name opened r
  have hread := read_letters hw h inner outer name "" [] opened r
  rwa [String.empty_append] at hread

/-! ## What is lost -/

def Letter.IsBareSpace (l : Letter) : Prop := l.referred = false ∧ isSpace l.char = true

instance : DecidablePred Letter.IsBareSpace := fun _ => inferInstanceAs (Decidable (_ ∧ _))

/-- One of two neighbours is white space as it is, and the other is a reference. -/
def Loose (l m : Letter) : Prop :=
  l.referred = true ∧ m.IsBareSpace ∨ l.IsBareSpace ∧ m.referred = true

instance : DecidableRel Loose := fun _ _ => inferInstanceAs (Decidable (_ ∨ _))

/-- No white space that is written as it is stands beside a reference. -/
def Tight (w : List Letter) : Prop := w.IsChain fun l m => ¬ Loose l m

instance : DecidablePred Tight := fun w =>
  inferInstanceAs (Decidable (w.IsChain fun l m => ¬ Loose l m))

theorem length_trimmedChars_le (s : List Char) : (trimmedChars s).length ≤ s.length :=
  (List.rdropWhile_prefix _ _).length_le.trans (List.dropWhile_suffix _).length_le

theorem length_readAfter_le (stretch : List Char) (w : List Letter) :
    (readAfter stretch w).length ≤ stretch.length + w.length := by
  induction w generalizing stretch with
  | nil => exact length_trimmedChars_le stretch
  | cons l w ih =>
    obtain ⟨c, _ | _⟩ := l
    · have hle := ih (stretch ++ [c])
      rw [List.length_append, List.length_singleton] at hle
      rw [readAfter, List.length_cons]
      omega
    · have hle := ih []
      have htrim := length_trimmedChars_le stretch
      rw [List.length_nil] at hle
      rw [readAfter, List.length_append, List.length_cons, List.length_cons]
      omega

/-- A stretch keeps its white space exactly if there is none at its ends. -/
theorem trimmedChars_eq_iff (s : List Char) : trimmedChars s = s ↔
    (∀ c ∈ s.head?, isSpace c = false) ∧ ∀ c ∈ s.getLast?, isSpace c = false := by
  have hfront : s.dropWhile isSpace = s ↔ ∀ c ∈ s.head?, isSpace c = false := by
    rw [List.dropWhile_eq_self_iff]
    cases s <;> simp
  have hback : s.rdropWhile isSpace = s ↔ ∀ c ∈ s.getLast?, isSpace c = false := by
    rw [List.rdropWhile_eq_self_iff]
    rcases List.eq_nil_or_concat s with rfl | ⟨r, c, rfl⟩ <;> simp
  unfold trimmedChars
  rw [← hfront, ← hback]
  constructor
  · intro h
    have hle : s.length ≤ (s.dropWhile isSpace).length := by
      have hlength := (List.rdropWhile_prefix isSpace (s.dropWhile isSpace)).length_le
      rwa [h] at hlength
    have hdrop := (List.dropWhile_suffix isSpace).eq_of_length_le hle
    rw [hdrop] at h
    exact ⟨hdrop, h⟩
  · rintro ⟨hdrop, hrdrop⟩
    rw [hdrop, hrdrop]

@[simp]
theorem isBareSpace_bare (c : Char) : Letter.IsBareSpace ⟨c, false⟩ ↔ isSpace c = true := by
  simp [Letter.IsBareSpace]

@[simp]
theorem not_isBareSpace_referred (c : Char) : ¬ Letter.IsBareSpace ⟨c, true⟩ := by
  simp [Letter.IsBareSpace]

@[simp]
theorem loose_referred (c : Char) (m : Letter) : Loose ⟨c, true⟩ m ↔ m.IsBareSpace := by
  simp [Loose]

@[simp]
theorem loose_to_referred (l : Letter) (c : Char) : Loose l ⟨c, true⟩ ↔ l.IsBareSpace := by
  simp [Loose]

theorem tight_bare (s : List Char) : Tight (bare s) := by
  refine List.Pairwise.isChain (List.pairwise_map.2 (List.pairwise_of_forall fun c d => ?_))
  simp [Loose]

/-- A reference keeps apart what stands on its two sides. -/
theorem tight_referred (stretch : List Char) (c : Char) (w : List Letter) :
    Tight (bare stretch ++ ⟨c, true⟩ :: w) ↔
      (∀ d ∈ stretch.getLast?, isSpace d = false) ∧ (∀ l ∈ w.head?, ¬ l.IsBareSpace) ∧ Tight w := by
  have hbare : (bare stretch).IsChain fun l m => ¬ Loose l m := tight_bare stretch
  have hbefore : (∀ l ∈ (bare stretch).getLast?, ∀ m ∈ (⟨c, true⟩ :: w : List Letter).head?,
      ¬ Loose l m) ↔ ∀ d ∈ stretch.getLast?, isSpace d = false := by
    simp [bare]
  unfold Tight
  rw [List.isChain_append, List.isChain_cons, hbefore]
  simp only [hbare, loose_referred, true_and]
  exact and_comm

theorem readAfter_referred_eq_iff (stretch : List Char) (c : Char) (w : List Letter) :
    readAfter stretch (⟨c, true⟩ :: w) = stretch ++ (⟨c, true⟩ :: w).map Letter.char ↔
      trimmedChars stretch = stretch ∧ readAfter [] w = [] ++ w.map Letter.char := by
  rw [readAfter, List.map_cons, List.nil_append]
  constructor
  · intro h
    have hstretch := length_trimmedChars_le stretch
    have hrest := length_readAfter_le [] w
    have hlength := congrArg List.length h
    rw [List.length_nil] at hrest
    simp only [List.length_append, List.length_cons, List.length_map] at hlength
    obtain ⟨htrim, htail⟩ := List.append_inj h (by omega)
    exact ⟨htrim, (List.cons.inj htail).2⟩
  · rintro ⟨htrim, hrest⟩
    rw [htrim, hrest]

/-- Where no stretch loses anything, white space stands neither at the ends nor beside a
reference. -/
theorem readAfter_eq_iff (stretch : List Char) (w : List Letter) :
    readAfter stretch w = stretch ++ w.map Letter.char ↔
      (∀ l ∈ (bare stretch ++ w).head?, ¬ l.IsBareSpace) ∧
      (∀ l ∈ (bare stretch ++ w).getLast?, ¬ l.IsBareSpace) ∧ Tight (bare stretch ++ w) := by
  induction w generalizing stretch with
  | nil =>
    rw [readAfter, List.map_nil, List.append_nil, List.append_nil, trimmedChars_eq_iff]
    have htight := tight_bare stretch
    simp only [bare] at htight
    simp [bare, htight]
  | cons l w ih =>
    obtain ⟨c, _ | _⟩ := l
    · have hsame : bare stretch ++ ⟨c, false⟩ :: w = bare (stretch ++ [c]) ++ w := by
        simp [bare]
      rw [hsame, ← ih, readAfter, List.map_cons, List.append_assoc, List.singleton_append]
    · have hhead : (∀ l ∈ (bare stretch ++ ⟨c, true⟩ :: w).head?, ¬ l.IsBareSpace) ↔
          ∀ d ∈ stretch.head?, isSpace d = false := by
        cases stretch <;> simp [bare]
      have hlast : (∀ l ∈ (bare stretch ++ ⟨c, true⟩ :: w).getLast?, ¬ l.IsBareSpace) ↔
          ∀ l ∈ w.getLast?, ¬ l.IsBareSpace := by
        rcases List.eq_nil_or_concat w with rfl | ⟨w, l, rfl⟩
        · simp
        · rw [List.concat_eq_append, ← List.cons_append, ← List.append_assoc,
            List.getLast?_concat, List.getLast?_concat]
      have hrest := ih []
      rw [show bare [] ++ w = w from rfl] at hrest
      rw [readAfter_referred_eq_iff, hrest, trimmedChars_eq_iff, hhead, hlast, tight_referred]
      tauto

theorem trimmed_ofList (s : List Char) :
    trimmed (String.ofList s) = String.ofList s ↔ trimmedChars s = s := by
  rw [trimmed, String.toList_ofList, ← List.rdropWhile, ← trimmedChars, String.ofList_inj]

/-- A text without white space at its ends is what is read exactly if none is beside a reference,
but for white space that is a reference itself. -/
theorem asRead_eq_iff {w : List Letter} (h : trimmed (lettersText w) = lettersText w) :
    asRead w = lettersText w ↔ Tight w := by
  obtain ⟨hfirst, hlast⟩ := (trimmedChars_eq_iff _).1 ((trimmed_ofList _).1 h)
  have hiff := readAfter_eq_iff [] w
  rw [List.nil_append, show bare [] ++ w = w from rfl] at hiff
  have hbare {l : Letter} (hl : isSpace l.char = false) : ¬ l.IsBareSpace := by
    simp [Letter.IsBareSpace, hl]
  rw [asRead, lettersText, String.ofList_inj, hiff]
  constructor
  · exact fun hread => hread.2.2
  · refine fun htight => ⟨fun l hl => hbare (hfirst _ ?_), fun l hl => hbare (hlast _ ?_), htight⟩
    · rw [List.head?_map]
      exact Option.mem_map_of_mem _ hl
    · rw [List.getLast?_map]
      exact Option.mem_map_of_mem _ hl

/-! ## Ends of texts -/

theorem head?_trimmedChars {s : List Char} (h : ∀ c ∈ s.head?, isSpace c = false) :
    (trimmedChars s).head? = s.head? := by
  cases s with
  | nil => rfl
  | cons c s =>
    have hc : isSpace c = false := h c rfl
    have hne : (c :: s).rdropWhile isSpace ≠ [] := by
      intro hnil
      have hall := List.rdropWhile_eq_nil_iff.1 hnil c List.mem_cons_self
      rw [hc] at hall
      cases hall
    obtain ⟨rest, hrest⟩ := List.rdropWhile_prefix isSpace (c :: s)
    rw [trimmedChars, List.dropWhile_cons_of_neg (by simp [hc]), ← hrest,
      List.head?_append_of_ne_nil _ hne, hrest]

theorem getLast?_trimmedChars {s : List Char} (h : ∀ c ∈ s.getLast?, isSpace c = false) :
    (trimmedChars s).getLast? = s.getLast? := by
  obtain ⟨front, hfront⟩ := List.dropWhile_suffix isSpace (l := s)
  have hlast : (s.dropWhile isSpace).getLast? = s.getLast? := by
    by_cases hnil : s.dropWhile isSpace = []
    · cases hs : s.getLast? with
      | none => rw [List.getLast?_eq_none_iff.1 hs]; rfl
      | some c =>
        have hspace := List.dropWhile_eq_nil_iff.1 hnil c (List.mem_of_getLast? hs)
        rw [h c hs] at hspace
        cases hspace
    · rw [← List.getLast?_append_of_ne_nil front hnil, hfront]
  have hkeep : (s.dropWhile isSpace).rdropWhile isSpace = s.dropWhile isSpace := by
    rw [List.rdropWhile_eq_self_iff]
    intro hne
    have hend := h _ (hlast ▸ List.getLast_mem_getLast? hne)
    simp [hend]
  rw [trimmedChars, hkeep, hlast]

theorem head?_readAfter {stretch : List Char} {w : List Letter}
    (h : ∀ c ∈ (stretch ++ w.map Letter.char).head?, isSpace c = false) :
    (readAfter stretch w).head? = (stretch ++ w.map Letter.char).head? := by
  induction w generalizing stretch with
  | nil =>
    rw [List.map_nil, List.append_nil] at h ⊢
    exact head?_trimmedChars h
  | cons l w ih =>
    obtain ⟨c, _ | _⟩ := l
    · have hsame : stretch ++ (⟨c, false⟩ :: w).map Letter.char =
          (stretch ++ [c]) ++ w.map Letter.char := by simp
      rw [hsame] at h ⊢
      exact ih h
    · rw [List.head?_append] at h
      have hstretch : ∀ d ∈ stretch.head?, isSpace d = false :=
        fun d hd => h d (by rw [Option.mem_def.1 hd]; rfl)
      rw [readAfter, List.head?_append, List.head?_append, head?_trimmedChars hstretch]
      rfl

theorem getLast?_readAfter {stretch : List Char} {w : List Letter}
    (h : ∀ c ∈ (stretch ++ w.map Letter.char).getLast?, isSpace c = false) :
    (readAfter stretch w).getLast? = (stretch ++ w.map Letter.char).getLast? := by
  induction w generalizing stretch with
  | nil =>
    rw [List.map_nil, List.append_nil] at h ⊢
    exact getLast?_trimmedChars h
  | cons l w ih =>
    obtain ⟨c, _ | _⟩ := l
    · have hsame : stretch ++ (⟨c, false⟩ :: w).map Letter.char =
          (stretch ++ [c]) ++ w.map Letter.char := by simp
      rw [hsame] at h ⊢
      exact ih h
    · rw [List.map_cons, List.getLast?_append, List.getLast?_cons] at h ⊢
      have hrest : ∀ d ∈ ([] ++ w.map Letter.char).getLast?, isSpace d = false :=
        fun d hd => h d (by rw [List.nil_append] at hd; rw [Option.mem_def.1 hd]; rfl)
      rw [readAfter, List.getLast?_append, List.getLast?_cons, ih hrest]
      rfl

/-- What is read of a text without white space at its ends has none there either. -/
theorem trimmed_asRead {w : List Letter} (h : trimmed (lettersText w) = lettersText w) :
    trimmed (asRead w) = asRead w := by
  obtain ⟨hfirst, hlast⟩ := (trimmedChars_eq_iff _).1 ((trimmed_ofList _).1 h)
  refine (trimmed_ofList _).2 ((trimmedChars_eq_iff _).2 ⟨?_, ?_⟩)
  · rwa [head?_readAfter hfirst]
  · rwa [getLast?_readAfter hlast]

/-! ## Documents -/

/-- Content with the texts of its fields for what they are written as: `plain` differs from the
content only in that a field with letters holds what is read of them. -/
inductive Content.Unescaped : List (String × Layout) → Content → Content → Prop where
  | nil {children : List (String × Layout)} : Unescaped children nil nil
  | mark {children : List (String × Layout)} {m : Mark} {after plain : Content} :
      Unescaped children after plain → Unescaped children (mark m after) (mark m plain)
  | unknown {children : List (String × Layout)} {tag : Tag} {inside after plain : Content}
      {gap : Bytes} : children.lookup tag.name = none → Unescaped children after plain →
      Unescaped children (element tag inside gap after) (element tag inside gap plain)
  | group {children known : List (String × Layout)} {tag : Tag}
      {inside plainInside after plain : Content} {gap : Bytes} :
      children.lookup tag.name = some (.group known) → Unescaped known inside plainInside →
      Unescaped children after plain →
      Unescaped children (element tag inside gap after) (element tag plainInside gap plain)
  | field {children : List (String × Layout)} {tag : Tag} {inside after plain : Content}
      {gap : Bytes} {w : List Letter} : children.lookup tag.name = some .text → Spells inside w →
      trimmed (lettersText w) = lettersText w → Unescaped children after plain →
      Unescaped children (element tag inside gap after)
        (element tag (mark (.text (asRead w)) nil) gap plain)
  /-- A field without references, which may have white space at its ends. -/
  | kept {children : List (String × Layout)} {tag : Tag} {inside after plain : Content}
      {gap : Bytes} : children.lookup tag.name = some .text → inside.text?.isSome →
      Unescaped children after plain →
      Unescaped children (element tag inside gap after) (element tag inside gap plain)
  /-- A field that holds anything else that is read as a text. -/
  | other {children : List (String × Layout)} {tag : Tag} {inside after plain : Content}
      {gap : Bytes} {s : String} : children.lookup tag.name = some .text → inside.IsReadAs s →
      trimmed s = s → Unescaped children after plain →
      Unescaped children (element tag inside gap after)
        (element tag (mark (.text s) nil) gap plain)

theorem Content.Unescaped.amountsTo {children : List (String × Layout)} {c plain : Content}
    (hp : c.Unescaped children plain) (h : c.WellFormed) :
    c.AmountsTo children (plain.parts children) := by
  induction hp with
  | nil => exact .nil
  | mark _ ih => exact .mark (ih h.2)
  | unknown hl _ ih =>
    rw [Content.parts, hl]
    exact .unknown hl (ih h.2.2.2)
  | group hl _ _ ihi iha =>
    rw [Content.parts, hl]
    exact .group hl (ihi h.2.1) (iha h.2.2.2)
  | field hl hw hends _ ih =>
    rw [Content.parts, hl]
    refine .field hl ?_ (ih h.2.2.2)
    show Content.IsReadAs _ (trimmed (asRead _))
    rw [trimmed_asRead hends]
    exact hw.isReadAs h.2.1
  | kept hl hplain _ ih =>
    rw [Content.parts, hl]
    exact .field hl (read_field h.2.1 hplain) (ih h.2.2.2)
  | @other _ _ _ _ _ _ s hl hread hends _ ih =>
    rw [Content.parts, hl]
    refine .field hl ?_ (ih h.2.2.2)
    show Content.IsReadAs _ (trimmed s)
    rwa [hends]

theorem read_unescaped {d : DocumentType} {document : Document} (h : document.WellFormed)
    (root : document.root.name = d.root) {plain : Content}
    (hp : document.content.Unescaped d.layout plain) :
    d.read document.bytes = d.ofContent plain := by
  rw [DocumentType.read_eq, ← root, readDocument_amountsTo h (hp.amountsTo h.content),
    ← DocumentType.ofParts_parts]
  rfl

/-- A document whose fields hold texts written with references says what is read of their letters.
That is the text itself exactly if no white space stands beside a reference but such as is a
reference itself. -/
theorem escaped_texts_read (d : DocumentType) (document : Document) (h : document.WellFormed)
    (root : document.root.name = d.root) :
    (∀ plain, document.content.Unescaped d.layout plain →
      d.read document.bytes = d.ofContent plain) ∧
    ∀ w, trimmed (lettersText w) = lettersText w → (asRead w = lettersText w ↔ Tight w) :=
  ⟨fun _ => read_unescaped h root, fun _ => asRead_eq_iff⟩

/-- A report of a failure that has nothing but a message. -/
def messageDocument (message : Content) : Document where
  orderMark := false
  prolog := []
  root := ⟨"Error", []⟩
  content := .element ⟨"Message", []⟩ message [] .nil
  gap := []
  rest := []

theorem messageDocument_wellFormed {message : Content} (h : message.WellFormed) :
    (messageDocument message).WellFormed :=
  have bareTag (name : String) (hname : IsName name) : Tag.WellFormed ⟨name, []⟩ :=
    ⟨hname, .nil, by simp, by simp⟩
  { prolog := by simp [messageDocument]
    root := bareTag "Error" (by decide)
    content := ⟨bareTag "Message" (by decide), h, rfl, trivial⟩
    gap := rfl }

/-- The text `a & b`, whose white space is written as references too. -/
def tightMessage : Content :=
  .mark (.text "a") <| .mark (.reference (Utf8.encode ('#' :: Nat.toDigits 10 ' '.toNat))) <|
    .mark (.reference (Utf8.encode "amp".toList)) <|
    .mark (.reference (Utf8.encode ('#' :: Nat.toDigits 10 ' '.toNat))) <|
    .mark (.text "b") .nil

def tightLetters : List Letter :=
  [⟨'a', false⟩, ⟨' ', true⟩, ⟨'&', true⟩, ⟨' ', true⟩, ⟨'b', false⟩]

theorem refers_amp : Refers "amp".toList '&' :=
  .named (show ("amp", '&') ∈ predefined by simp [predefined])

theorem spells_tightMessage : Spells tightMessage tightLetters := by
  have hspace : Refers ('#' :: Nat.toDigits 10 ' '.toNat) ' ' := refers_toDigits (by decide)
  exact .text (s := "a") (.reference hspace (.reference refers_amp (.reference hspace
    (.text (s := "b") .nil))))

theorem tightMessage_wellFormed : tightMessage.WellFormed := by
  unfold tightMessage
  simp only [Content.WellFormed, Mark.WellFormed]
  decide

theorem unescaped_messageDocument {message : Content} {w : List Letter} (hw : Spells message w)
    (hends : trimmed (lettersText w) = lettersText w) :
    (messageDocument message).content.Unescaped DocumentType.storageFailure.layout
      (messageDocument (.mark (.text (asRead w)) .nil)).content :=
  .field rfl hw hends .nil

theorem escaped_texts_read_tight : (messageDocument tightMessage).WellFormed ∧
    DocumentType.storageFailure.read (messageDocument tightMessage).bytes =
      .ok ⟨"", "a & b", none, ""⟩ := by
  have h := messageDocument_wellFormed tightMessage_wellFormed
  have hends : trimmed (lettersText tightLetters) = lettersText tightLetters := by decide
  obtain ⟨hread, hiff⟩ := escaped_texts_read .storageFailure _ h rfl
  refine ⟨h, (hread _ (unescaped_messageDocument spells_tightMessage hends)).trans ?_⟩
  rw [(hiff _ hends).2 (by decide)]
  rfl

/-- The text `a & b` with white space as it is. -/
def looseMessage : Content :=
  .mark (.text "a ") <| .mark (.reference (Utf8.encode "amp".toList)) <| .mark (.text " b") .nil

def looseLetters : List Letter :=
  [⟨'a', false⟩, ⟨' ', false⟩, ⟨'&', true⟩, ⟨' ', false⟩, ⟨'b', false⟩]

theorem spells_looseMessage : Spells looseMessage looseLetters :=
  .text (s := "a ") (.reference refers_amp (.text (s := " b") .nil))

theorem looseMessage_wellFormed : looseMessage.WellFormed := by
  unfold looseMessage
  simp only [Content.WellFormed, Mark.WellFormed]
  decide

/-- A text with no white space at its ends, its ampersand written as a reference, that is read as
another. -/
theorem spaces_beside_reference_lost :
    (messageDocument looseMessage).WellFormed ∧
    (messageDocument looseMessage).bytes =
      Utf8.bytes "<Error><Message>a &amp; b</Message></Error>" ∧
    Spells looseMessage looseLetters ∧ lettersText looseLetters = "a & b" ∧
    DocumentType.storageFailure.read (messageDocument looseMessage).bytes =
      .ok ⟨"", "a&b", none, ""⟩ := by
  have h := messageDocument_wellFormed looseMessage_wellFormed
  have hends : trimmed (lettersText looseLetters) = lettersText looseLetters := by decide
  refine ⟨h, by decide, spells_looseMessage, rfl, ?_⟩
  rw [read_unescaped (d := .storageFailure) h rfl
    (unescaped_messageDocument spells_looseMessage hends)]
  rfl

end BucketAccess.Markup
