import BucketAccess.Encoding.Percent
import BucketAccess.Proofs.Text.Digits
import BucketAccess.Proofs.Text.Utf8

/-!
# Percent encoding and back

Decoding gives back the bytes that were encoded. Encoded text has no other characters than
unreserved ones and percent signs, in the form style also plus signs, so that it holds nothing of
what separates the parts of a path or of a query. What the form style replaces in encoded text is
always a whole escape, that of a space.
-/

namespace BucketAccess.Percent

/-! ## Characters of encoded text -/

/-- A character that stands for itself, or the one that begins an escape. -/
def isEncodedChar (c : Char) : Bool :=
  c.toNat < 0x80 && (isUnreserved (UInt8.ofNat c.toNat) || c = '%')

theorem lt_of_isEncodedChar {c : Char} (h : isEncodedChar c = true) : c.toNat < 0x80 := by
  simp only [isEncodedChar, Bool.and_eq_true, decide_eq_true_eq] at h
  exact h.1

theorem lt_of_isUnreserved {b : UInt8} (h : isUnreserved b = true) : b.toNat < 0x80 := by
  simp only [isUnreserved, Bool.or_eq_true, Bool.and_eq_true, decide_eq_true_eq, beq_iff_eq] at h
  omega

theorem isEncodedChar_of_isUnreserved {b : UInt8} (h : isUnreserved b = true) :
    isEncodedChar (Char.ofNat b.toNat) = true := by
  have hlt := lt_of_isUnreserved h
  have hn : (Char.ofNat b.toNat).toNat = b.toNat := Utf8.toNat_ofNat (by omega)
  simp [isEncodedChar, hn, hlt, h]

theorem ne_percent_of_isUnreserved {b : UInt8} (h : isUnreserved b = true) : b ≠ 0x25 := by
  rintro rfl
  exact absurd h (by decide)

theorem ofNat_ne_percent {b : UInt8} (hlt : b.toNat < 0x80) (h : b ≠ 0x25) :
    Char.ofNat b.toNat ≠ '%' := by
  intro he
  refine h (UInt8.toNat.inj ?_)
  rw [← Utf8.toNat_ofNat (n := b.toNat) (by omega), he]
  rfl

theorem isEncodedChar_upperDigit : ∀ n < 16, isEncodedChar (Hex.upperDigit n) = true := by decide

theorem isEncodedChar_of_mem_escape {b : UInt8} {c : Char} (h : c ∈ escape b) :
    isEncodedChar c = true := by
  have hb : b.toNat < 256 := b.toNat_lt
  simp only [escape, List.mem_cons, List.not_mem_nil, or_false] at h
  rcases h with rfl | rfl | rfl
  · decide
  · exact isEncodedChar_upperDigit _ (by omega)
  · exact isEncodedChar_upperDigit _ (by omega)

theorem isEncodedChar_of_mem_encode {bs : Bytes} {c : Char} (h : c ∈ encode bs) :
    isEncodedChar c = true := by
  obtain ⟨b, -, hc⟩ := List.mem_flatMap.1 h
  split at hc
  case isTrue hb =>
    rw [List.mem_singleton.1 hc]
    exact isEncodedChar_of_isUnreserved hb
  case isFalse => exact isEncodedChar_of_mem_escape hc

/-! ## Decoding -/

@[simp] theorem decode_nil : decode [] = [] := by unfold decode; rfl

theorem decode_cons {c : Char} (h : c ≠ '%') (r : List Char) :
    decode (c :: r) = String.utf8EncodeChar c ++ decode r := by
  rw [decode]
  rintro a b r rfl
  exact absurd rfl h

theorem decode_byte {b : UInt8} (hlt : b.toNat < 0x80) (hpercent : b ≠ 0x25) (r : List Char) :
    decode (Char.ofNat b.toNat :: r) = b :: decode r := by
  have hn : (Char.ofNat b.toNat).toNat = b.toNat := Utf8.toNat_ofNat (by omega)
  rw [decode_cons (ofNat_ne_percent hlt hpercent), Utf8.encodeChar_of_lt (by rwa [hn]), hn,
    UInt8.ofNat_toNat, List.singleton_append]

theorem decode_unreserved {b : UInt8} (h : isUnreserved b = true) (r : List Char) :
    decode (Char.ofNat b.toNat :: r) = b :: decode r :=
  decode_byte (lt_of_isUnreserved h) (ne_percent_of_isUnreserved h) r

theorem digitValue?_upperDigit : ∀ n < 16, Hex.digitValue? (Hex.upperDigit n) = some n := by decide

theorem decode_escape (b : UInt8) (r : List Char) : decode (escape b ++ r) = b :: decode r := by
  have hb : b.toNat < 256 := b.toNat_lt
  have hvalue : b.toNat / 16 * 16 + b.toNat % 16 = b.toNat := by omega
  simp only [escape, List.cons_append, List.nil_append]
  rw [decode, digitValue?_upperDigit _ (by omega), digitValue?_upperDigit _ (by omega)]
  simp only [hvalue, UInt8.ofNat_toNat]

/-- Whether two hexadecimal digits follow some percent sign. -/
def hasEscape : List Char → Bool
  | [] => false
  | '%' :: a :: b :: r =>
    (Hex.digitValue? a).isSome && (Hex.digitValue? b).isSome || hasEscape (a :: b :: r)
  | _ :: r => hasEscape r

theorem hasEscape_of_not_mem {s : List Char} (h : '%' ∉ s) : hasEscape s = false := by
  induction s with
  | nil => rfl
  | cons c s ih =>
    rw [List.mem_cons, not_or] at h
    rw [hasEscape]
    · exact ih h.2
    · rintro a b r rfl
      exact absurd rfl h.1

/-- Text without escapes stands for itself. -/
theorem decode_eq_encode {s : List Char} (h : hasEscape s = false) :
    decode s = Utf8.encode s := by
  fun_induction hasEscape s with
  | case1 => exact decode_nil
  | case2 a b r ih =>
    rw [Bool.or_eq_false_iff, Bool.and_eq_false_iff] at h
    have hdecode : decode ('%' :: a :: b :: r) = 0x25 :: decode (a :: b :: r) := by
      rw [decode]
      rcases h.1 with ha | hb
      · rw [Option.isNone_iff_eq_none.1 (Option.isSome_eq_false_iff.1 ha)]
      · rw [Option.isNone_iff_eq_none.1 (Option.isSome_eq_false_iff.1 hb)]
        cases Hex.digitValue? a <;> rfl
    rw [hdecode, ih h.2]
    rfl
  | case3 c r hno ih =>
    rw [decode, ih h, Utf8.encode_cons]
    exact hno

theorem encode_cons (b : UInt8) (bs : Bytes) : encode (b :: bs) =
    (if isUnreserved b then [Char.ofNat b.toNat] else escape b) ++ encode bs := rfl

@[simp] theorem decode_encode (bs : Bytes) : decode (encode bs) = bs := by
  induction bs with
  | nil => exact decode_nil
  | cons b bs ih =>
    rw [encode_cons]
    split
    case isTrue hb => rw [List.singleton_append, decode_unreserved hb, ih]
    case isFalse => rw [decode_escape, ih]

theorem decode_ne_nil {s : List Char} (h : s ≠ []) : decode s ≠ [] := by
  fun_cases decode s with
  | case1 => exact absurd rfl h
  | case2 => exact List.cons_ne_nil _ _
  | case3 => exact List.cons_ne_nil _ _
  | case4 =>
    exact fun happend => String.utf8EncodeChar_ne_nil (List.append_eq_nil_iff.1 happend).1

/-! ## Escaping what is escaped in part -/

/-- A percent sign that no two digits follow stands for itself. -/
theorem decode_percent {s : List Char} (h : ∀ a b r, s = a :: b :: r →
    Hex.digitValue? a = none ∨ Hex.digitValue? b = none) :
    decode ('%' :: s) = 0x25 :: decode s := by
  match s, h with
  | [], _ => rfl
  | [a], _ =>
    rw [decode]
    · rfl
    · exact nofun
  | a :: b :: r, h =>
    rw [decode]
    rcases h a b r rfl with ha | hb
    · rw [ha]
    · rw [hb]
      cases Hex.digitValue? a <;> rfl

section

variable {keep : UInt8 → Bool}

theorem encodeBut_append (bs cs : Bytes) :
    encodeBut keep (bs ++ cs) = encodeBut keep bs ++ encodeBut keep cs := List.flatMap_append

theorem decode_encodeBut_append {bs : Bytes} (hlt : ∀ b, keep b = true → b.toNat < 0x80)
    (hpercent : 0x25 ∉ bs) (r : List Char) :
    decode (encodeBut keep bs ++ r) = bs ++ decode r := by
  induction bs with
  | nil => rfl
  | cons b bs ih =>
    rw [List.mem_cons, not_or] at hpercent
    have hcons : encodeBut keep (b :: bs) ++ r =
        (if keep b then [Char.ofNat b.toNat] else escape b) ++ (encodeBut keep bs ++ r) :=
      List.append_assoc _ _ _
    rw [hcons, List.cons_append]
    split
    case isTrue hb =>
      rw [List.singleton_append, decode_byte (hlt b hb) (Ne.symm hpercent.1), ih hpercent.2]
    case isFalse => rw [decode_escape, ih hpercent.2]

/-- Text in ASCII of which all is kept stays as it is. -/
theorem encodeBut_of_kept {s : List Char}
    (h : ∀ c ∈ s, c.toNat < 0x80 ∧ keep (UInt8.ofNat c.toNat) = true) :
    encodeBut keep (Utf8.encode s) = s := by
  induction s with
  | nil => rfl
  | cons c s ih =>
    obtain ⟨⟨hlt, hkeep⟩, hs⟩ := List.forall_mem_cons.1 h
    have hvalue : (UInt8.ofNat c.toNat).toNat = c.toNat := by
      rw [UInt8.toNat_ofNat']
      omega
    rw [Utf8.encode_cons, Utf8.encodeChar_of_lt hlt, encodeBut_append, ih hs]
    simp [encodeBut, hkeep, hvalue]

theorem percent_not_mem_encodeChar {c : Char} (h : c ≠ '%') : 0x25 ∉ String.utf8EncodeChar c := by
  intro hmem
  by_cases hlt : c.toNat < 0x80
  · rw [Utf8.encodeChar_of_lt hlt, List.mem_singleton] at hmem
    have hvalue := congrArg UInt8.toNat hmem
    rw [UInt8.toNat_ofNat'] at hvalue
    refine h ?_
    rw [← Char.ofNat_toNat c, show c.toNat = 0x25 by simp at hvalue; omega]
  · have hle := Utf8.le_of_mem_encodeChar (by omega) hmem
    exact absurd hle (by decide)

/-- Escaping begins with a digit exactly if the text does; then it is the same digit. -/
theorem exists_cons_encodeBut (hlt : ∀ b, keep b = true → b.toNat < 0x80)
    (hdigit : ∀ c, (Hex.digitValue? c).isSome → keep (UInt8.ofNat c.toNat) = true)
    (c : Char) (s : List Char) : ∃ first rest,
      encodeBut keep (Utf8.encode (c :: s)) = first :: rest ∧
      ((Hex.digitValue? c).isSome → first = c ∧ rest = encodeBut keep (Utf8.encode s)) ∧
      (Hex.digitValue? c = none → Hex.digitValue? first = none) := by
  have hpercent : Hex.digitValue? '%' = none := by decide
  obtain ⟨b, bs, hbytes⟩ : ∃ b bs, String.utf8EncodeChar c = b :: bs :=
    List.exists_cons_of_ne_nil String.utf8EncodeChar_ne_nil
  have hcons : encodeBut keep (Utf8.encode (c :: s)) =
      (if keep b then [Char.ofNat b.toNat] else escape b) ++
        encodeBut keep (bs ++ Utf8.encode s) := by
    rw [Utf8.encode_cons, hbytes]
    rfl
  by_cases hascii : c.toNat < 0x80
  · rw [Utf8.encodeChar_of_lt hascii] at hbytes
    obtain ⟨rfl, rfl⟩ := List.cons.inj hbytes
    have hvalue : (UInt8.ofNat c.toNat).toNat = c.toNat := by
      rw [UInt8.toNat_ofNat']
      omega
    rw [hvalue, Char.ofNat_toNat, List.nil_append] at hcons
    by_cases hkeep : keep (UInt8.ofNat c.toNat) = true
    · rw [if_pos hkeep] at hcons
      exact ⟨c, _, hcons, fun _ => ⟨rfl, rfl⟩, fun h => h⟩
    · rw [if_neg hkeep] at hcons
      exact ⟨'%', _, hcons, fun h => absurd (hdigit c h) hkeep, fun _ => hpercent⟩
  · have hmem : b ∈ String.utf8EncodeChar c := by
      rw [hbytes]
      exact List.mem_cons_self
    have hb := Utf8.le_of_mem_encodeChar (by omega) hmem
    have hkeep : ¬ keep b = true := fun h => absurd (hlt b h) (by omega)
    rw [if_neg hkeep] at hcons
    exact ⟨'%', _, hcons, fun h => absurd (Numeral.lt_of_isSome_digit? h) hascii, fun _ => hpercent⟩

/-- Text that is escaped in part stands for what it stood for, if percent signs and digits are
kept. -/
theorem decode_encodeBut (hlt : ∀ b, keep b = true → b.toNat < 0x80) (hpercent : keep 0x25 = true)
    (hdigit : ∀ c, (Hex.digitValue? c).isSome → keep (UInt8.ofNat c.toNat) = true)
    (s : List Char) : decode (encodeBut keep (Utf8.encode s)) = decode s := by
  have hsign : ∀ r, encodeBut keep (Utf8.encode ('%' :: r)) =
      '%' :: encodeBut keep (Utf8.encode r) := by
    intro r
    show (if keep 0x25 then ['%'] else escape 0x25) ++ _ = _
    rw [if_pos hpercent]
    rfl
  have hnone : ∀ {c : Char}, ¬ (Hex.digitValue? c).isSome → Hex.digitValue? c = none :=
    fun h => Option.not_isSome_iff_eq_none.1 h
  fun_induction decode s with
  | case1 => rfl
  | case2 a b r high low hlow hhigh ih =>
    have hdigits : ∀ c, (Hex.digitValue? c).isSome → ∀ r,
        encodeBut keep (Utf8.encode (c :: r)) = c :: encodeBut keep (Utf8.encode r) := by
      intro c hc r
      obtain ⟨first, rest, hcons, hsome, -⟩ := exists_cons_encodeBut hlt hdigit c r
      obtain ⟨rfl, rfl⟩ := hsome hc
      exact hcons
    rw [hsign, hdigits a (by rw [hhigh]; rfl), hdigits b (by rw [hlow]; rfl), decode, hhigh, hlow]
    simp only
    rw [ih]
  | case3 a b r hno ih =>
    rw [hsign, decode_percent, ih]
    intro a' b' r' hcons
    obtain ⟨first, rest, hfirst, hsome, hnot⟩ := exists_cons_encodeBut hlt hdigit a (b :: r)
    rw [hfirst] at hcons
    obtain ⟨rfl, rfl⟩ := List.cons.inj hcons
    by_cases ha : (Hex.digitValue? a).isSome
    · right
      obtain ⟨rfl, hrest⟩ := hsome ha
      obtain ⟨second, rest', hsecond, -, hnot'⟩ := exists_cons_encodeBut hlt hdigit b r
      rw [hsecond] at hrest
      obtain ⟨rfl, -⟩ := List.cons.inj hrest
      refine hnot' (hnone fun hb => ?_)
      obtain ⟨high, hhigh⟩ := Option.isSome_iff_exists.1 ha
      obtain ⟨low, hlow⟩ := Option.isSome_iff_exists.1 hb
      exact hno high low hhigh hlow
    · exact .inl (hnot (hnone ha))
  | case4 c r hno ih =>
    by_cases hc : c = '%'
    · subst hc
      have hbytes : String.utf8EncodeChar '%' = [0x25] := rfl
      rw [hsign, hbytes, decode_percent, ih]
      · rfl
      intro a' b' r' hcons
      match r, hno with
      | [], _ => cases hcons
      | [a], _ =>
        obtain ⟨first, rest, hfirst, hsome, hnot⟩ := exists_cons_encodeBut hlt hdigit a []
        rw [hfirst] at hcons
        obtain ⟨rfl, rfl⟩ := List.cons.inj hcons
        by_cases ha : (Hex.digitValue? a).isSome
        · cases (hsome ha).2
        · exact .inl (hnot (hnone ha))
      | a :: b :: r, hno => exact absurd rfl (hno a b r rfl)
    · rw [Utf8.encode_cons, encodeBut_append,
        decode_encodeBut_append hlt (percent_not_mem_encodeChar hc), ih]

end

/-! ## The form style -/

/-- A byte in the form style. -/
def encodeFormByte (b : UInt8) : List Char :=
  if b = 0x20 then ['+'] else if isUnreserved b then [Char.ofNat b.toNat] else escape b

theorem plusSpaces_cons {c : Char} (h : c ≠ '%') (r : List Char) :
    plusSpaces (c :: r) = c :: plusSpaces r := by
  rw [plusSpaces]
  rintro r rfl
  exact absurd rfl h

theorem plusSpaces_percent {a b : Char} (h : a = '2' → b ≠ '0') (r : List Char) :
    plusSpaces ('%' :: a :: b :: r) = '%' :: plusSpaces (a :: b :: r) := by
  rw [plusSpaces]
  rintro r - ⟨⟩
  exact h rfl rfl

theorem upperDigit_ne_percent : ∀ n < 16, Hex.upperDigit n ≠ '%' := by decide

theorem upperDigit_inj {m n : Nat} (hm : m < 16) (hn : n < 16)
    (h : Hex.upperDigit m = Hex.upperDigit n) : m = n := by
  have hvalue := congrArg Hex.digitValue? h
  rwa [digitValue?_upperDigit m hm, digitValue?_upperDigit n hn, Option.some.injEq] at hvalue

/-- An escape is replaced as a whole or not at all, since no other begins within it. -/
theorem plusSpaces_escape (b : UInt8) (r : List Char) :
    plusSpaces (escape b ++ r) = (if b = 0x20 then ['+'] else escape b) ++ plusSpaces r := by
  have hb : b.toNat < 256 := b.toNat_lt
  split
  case isTrue hspace =>
    rw [hspace]
    rfl
  case isFalse hspace =>
    have hdigits : Hex.upperDigit (b.toNat / 16) = '2' → Hex.upperDigit (b.toNat % 16) ≠ '0' := by
      intro htwo hzero
      have hhigh : b.toNat / 16 = 2 := upperDigit_inj (by omega) (by omega) htwo
      have hlow : b.toNat % 16 = 0 := upperDigit_inj (by omega) (by omega) hzero
      refine hspace (UInt8.toNat.inj ?_)
      show b.toNat = 0x20
      omega
    simp only [escape, List.cons_append, List.nil_append]
    rw [plusSpaces_percent hdigits, plusSpaces_cons (upperDigit_ne_percent _ (by omega)),
      plusSpaces_cons (upperDigit_ne_percent _ (by omega))]

theorem encodeForm_cons (b : UInt8) (bs : Bytes) :
    encodeForm (b :: bs) = encodeFormByte b ++ encodeForm bs := by
  unfold encodeForm encodeFormByte
  rw [encode_cons]
  by_cases hb : isUnreserved b = true
  · have hspace : b ≠ 0x20 := by
      rintro rfl
      exact absurd hb (by decide)
    have hpercent := ofNat_ne_percent (lt_of_isUnreserved hb) (ne_percent_of_isUnreserved hb)
    rw [if_pos hb, if_neg hspace, List.singleton_append, plusSpaces_cons hpercent,
      List.singleton_append]
  · rw [if_neg hb, plusSpaces_escape]

/-- To replace escapes in encoded text is to encode each byte by itself. -/
theorem encodeForm_eq_flatMap (bs : Bytes) : encodeForm bs = bs.flatMap encodeFormByte := by
  induction bs with
  | nil => rfl
  | cons b bs ih => rw [encodeForm_cons, ih, List.flatMap_cons]

example : encodeForm (Utf8.encode [' ', '%', '2', '0']) = ['+', '%', '2', '5', '2', '0'] := by
  decide

theorem mem_plusSpaces {s : List Char} {c : Char} (h : c ∈ plusSpaces s) : c = '+' ∨ c ∈ s := by
  fun_induction plusSpaces s with
  | case1 r ih =>
    rcases List.mem_cons.1 h with rfl | h
    · exact .inl rfl
    · exact (ih h).imp_right fun hc => .tail _ (.tail _ (.tail _ hc))
  | case2 first r _ ih =>
    rcases List.mem_cons.1 h with rfl | h
    · exact .inr (.head _)
    · exact (ih h).imp_right (.tail _)
  | case3 => cases h

theorem isEncodedChar_of_mem_encodeForm {bs : Bytes} {c : Char} (h : c ∈ encodeForm bs) :
    c = '+' ∨ isEncodedChar c = true :=
  (mem_plusSpaces h).imp_right isEncodedChar_of_mem_encode

/-- Text in the form style with its spaces written as such. -/
def spaced (s : List Char) : List Char := s.map fun c => if c = '+' then ' ' else c

theorem spaced_append (s t : List Char) : spaced (s ++ t) = spaced s ++ spaced t :=
  List.map_append

theorem spaced_of_encoded {s : List Char} (h : ∀ c ∈ s, isEncodedChar c = true) :
    spaced s = s := by
  have hid : ∀ c ∈ s, (if c = '+' then ' ' else c) = id c := by
    intro c hc
    refine if_neg ?_
    rintro rfl
    exact absurd (h _ hc) (by decide)
  rw [spaced, List.map_congr_left hid, List.map_id]

theorem decode_spaced_byte (b : UInt8) (r : List Char) :
    decode (spaced (encodeFormByte b) ++ r) = b :: decode r := by
  unfold encodeFormByte
  split
  case isTrue hspace =>
    show decode (' ' :: r) = _
    rw [decode_cons (by decide), hspace]
    rfl
  case isFalse =>
    split
    case isTrue hb =>
      have hencoded : ∀ c ∈ [Char.ofNat b.toNat], isEncodedChar c = true :=
        List.forall_mem_singleton.2 (isEncodedChar_of_isUnreserved hb)
      rw [spaced_of_encoded hencoded, List.singleton_append, decode_unreserved hb]
    case isFalse =>
      rw [spaced_of_encoded fun _ => isEncodedChar_of_mem_escape, decode_escape]

theorem decode_spaced_encodeForm (bs : Bytes) : decode (spaced (encodeForm bs)) = bs := by
  induction bs with
  | nil => exact decode_nil
  | cons b bs ih => rw [encodeForm_cons, spaced_append, decode_spaced_byte, ih]

end BucketAccess.Percent
