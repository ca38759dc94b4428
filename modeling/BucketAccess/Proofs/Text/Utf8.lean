import BucketAccess.Text.Utf8
import Mathlib.Data.List.Induction

/-!
# Text as bytes and back

The strict reading of an encoded text gives the text. A byte below `0x80` stands in an encoded text
only for the character with its number.
-/

namespace BucketAccess.Utf8

@[simp] theorem encode_nil : encode [] = [] := rfl

@[simp] theorem encode_cons (c : Char) (s : List Char) :
    encode (c :: s) = String.utf8EncodeChar c ++ encode s := rfl

@[simp] theorem encode_append (s t : List Char) : encode (s ++ t) = encode s ++ encode t := by
  simp [encode]

/-! ## The bytes of one character -/

/-- The numbers of characters. -/
theorem toNat_valid (c : Char) :
    c.toNat < 0xD800 ∨ 0xDFFF < c.toNat ∧ c.toNat < 0x110000 := c.valid

theorem toNat_ofNat {n : Nat} (h : n < 0xD800) : (Char.ofNat n).toNat = n := by
  rw [Char.ofNat, dif_pos (Or.inl h)]
  rfl

/-- What holds of the characters with the numbers below `0x80` holds of ASCII. -/
theorem forall_ascii {P : Char → Prop} (h : ∀ n < 0x80, P (Char.ofNat n)) {c : Char}
    (hc : c.toNat < 0x80) : P c := by
  have hchar := h c.toNat hc
  rwa [Char.ofNat_toNat] at hchar

theorem encodeChar_of_lt {c : Char} (h : c.toNat < 0x80) :
    String.utf8EncodeChar c = [UInt8.ofNat c.toNat] :=
  if_pos (by change c.toNat ≤ 127; omega)

/-- The bytes of a character beyond ASCII. -/
theorem le_of_mem_encodeChar {c : Char} (h : 0x80 ≤ c.toNat) {b : UInt8}
    (hb : b ∈ String.utf8EncodeChar c) : 0x80 ≤ b.toNat := by
  have hv : c.val.toNat = c.toNat := rfl
  simp only [String.utf8EncodeChar, hv] at hb
  rw [if_neg (by omega)] at hb
  split at hb
  case isTrue =>
    simp only [List.mem_cons, List.not_mem_nil, or_false] at hb
    rcases hb with rfl | rfl <;> simp only [UInt8.toNat_ofNat'] <;> omega
  case isFalse =>
    have := toNat_valid c
    split at hb <;> simp only [List.mem_cons, List.not_mem_nil, or_false] at hb
    · rcases hb with rfl | rfl | rfl <;> simp only [UInt8.toNat_ofNat'] <;> omega
    · rcases hb with rfl | rfl | rfl | rfl <;> simp only [UInt8.toNat_ofNat'] <;> omega

theorem lead_one {n : Nat} (h : n < 0x80) :
    lead (UInt8.ofNat n) = .inl (.char (Char.ofNat n)) := by
  have hn : (UInt8.ofNat n).toNat = n := by simp only [UInt8.toNat_ofNat']; omega
  simp only [lead, hn]
  rw [if_pos h]

theorem lead_two {n : Nat} (h : 0xC2 ≤ n) (h' : n < 0xE0) :
    lead (UInt8.ofNat n) = .inr ⟨1, 0, 0x80, 0xBF, n - 0xC0⟩ := by
  have hn : (UInt8.ofNat n).toNat = n := by simp only [UInt8.toNat_ofNat']; omega
  simp only [lead, hn]
  rw [if_neg (by omega), if_neg (by omega), if_pos h']

/-- The first byte of three, and what it says about the second. -/
theorem lead_three (n second : Nat) (h : 0xE0 ≤ n) (h' : n < 0xF0) (hs : 0x80 ≤ second)
    (hs' : second ≤ 0xBF) (low : n = 0xE0 → 0xA0 ≤ second) (high : n = 0xED → second ≤ 0x9F) :
    ∃ p, lead (UInt8.ofNat n) = .inr p ∧ p.left = 1 ∧ p.value = n - 0xE0 ∧
      p.low.toNat ≤ second ∧ second ≤ p.high.toNat := by
  have hn : (UInt8.ofNat n).toNat = n := by simp only [UInt8.toNat_ofNat']; omega
  simp only [lead, hn]
  rw [if_neg (by omega), if_neg (by omega), if_neg (by omega)]
  split
  · rename_i e
    exact ⟨_, rfl, rfl, by simp [e], low e, hs'⟩
  split
  · rename_i e
    exact ⟨_, rfl, rfl, by simp [e], hs, high e⟩
  · exact ⟨_, rfl, rfl, rfl, hs, hs'⟩

theorem lead_four (n second : Nat) (h : 0xF0 ≤ n) (h' : n < 0xF5) (hs : 0x80 ≤ second)
    (hs' : second ≤ 0xBF) (low : n = 0xF0 → 0x90 ≤ second) (high : n = 0xF4 → second ≤ 0x8F) :
    ∃ p, lead (UInt8.ofNat n) = .inr p ∧ p.left = 2 ∧ p.value = n - 0xF0 ∧
      p.low.toNat ≤ second ∧ second ≤ p.high.toNat := by
  have hn : (UInt8.ofNat n).toNat = n := by simp only [UInt8.toNat_ofNat']; omega
  simp only [lead, hn]
  rw [if_neg (by omega), if_neg (by omega), if_neg (by omega), if_neg (by omega),
    if_neg (by omega), if_neg (by omega)]
  split
  · rename_i e
    exact ⟨_, rfl, rfl, by simp [e], low e, hs'⟩
  split
  · exact ⟨_, rfl, rfl, rfl, hs, hs'⟩
  · rw [if_pos (by omega)]
    have e : n = 0xF4 := by omega
    exact ⟨_, rfl, rfl, by simp [e], hs, high e⟩

/-- A further byte of a character. -/
theorem piecesFrom_some {p : Pending} {n : Nat} (r : Bytes) (hb : n < 0x100)
    (low : p.low.toNat ≤ n) (high : n ≤ p.high.toNat) :
    piecesFrom (some p) (UInt8.ofNat n :: r) =
      match p.left with
      | 0 => .char (Char.ofNat (p.value * 64 + (n - 0x80))) :: piecesFrom none r
      | left + 1 =>
        piecesFrom (some ⟨p.seen + 1, left, 0x80, 0xBF, p.value * 64 + (n - 0x80)⟩) r := by
  have hn : (UInt8.ofNat n).toNat = n := by simp only [UInt8.toNat_ofNat']; omega
  rw [piecesFrom, if_pos (by simp only [UInt8.le_iff_toNat_le, hn]; exact ⟨low, high⟩)]
  cases h : p.left <;> simp [Pending.push, h, hn]

theorem piecesFrom_encodeChar (c : Char) (r : Bytes) :
    piecesFrom none (String.utf8EncodeChar c ++ r) = .char c :: piecesFrom none r := by
  have valid := toNat_valid c
  have hc : Char.ofNat c.toNat = c := Char.ofNat_toNat c
  have hv : c.val.toNat = c.toNat := rfl
  simp only [String.utf8EncodeChar, hv]
  generalize c.toNat = n at *
  split
  case isTrue h =>
    rw [List.singleton_append, piecesFrom, lead_one (by omega), hc]
  split
  case isTrue h =>
    simp only [List.cons_append, List.nil_append]
    rw [piecesFrom, lead_two (by omega) (by omega)]
    simp only
    rw [piecesFrom_some r (by omega) (by simp) (by simp; omega)]
    simp only
    rw [show (n / 64 % 32 + 192 - 0xC0) * 64 + (n % 64 + 128 - 0x80) = n by omega, hc]
  split
  case isTrue h =>
    obtain ⟨p, hp, left, value, low, high⟩ := lead_three (n / 4096 % 16 + 224)
      (n / 64 % 64 + 128) (by omega) (by omega) (by omega) (by omega) (by omega) (by omega)
    simp only [List.cons_append, List.nil_append]
    rw [piecesFrom, hp]
    simp only
    rw [piecesFrom_some _ (by omega) low high, left]
    simp only
    rw [piecesFrom_some r (by omega) (by simp) (by simp; omega), value]
    simp only
    rw [show ((n / 4096 % 16 + 224 - 0xE0) * 64 + (n / 64 % 64 + 128 - 0x80)) * 64 +
      (n % 64 + 128 - 0x80) = n by omega, hc]
  case isFalse h =>
    obtain ⟨p, hp, left, value, low, high⟩ := lead_four (n / 262144 % 8 + 240)
      (n / 4096 % 64 + 128) (by omega) (by omega) (by omega) (by omega) (by omega)
      (by omega)
    simp only [List.cons_append, List.nil_append]
    rw [piecesFrom, hp]
    simp only
    rw [piecesFrom_some _ (by omega) low high, left]
    simp only
    rw [piecesFrom_some _ (by omega) (by simp) (by simp; omega)]
    simp only
    rw [piecesFrom_some r (by omega) (by simp) (by simp; omega), value]
    simp only
    rw [show (((n / 262144 % 8 + 240 - 0xF0) * 64 + (n / 4096 % 64 + 128 - 0x80)) * 64 +
      (n / 64 % 64 + 128 - 0x80)) * 64 + (n % 64 + 128 - 0x80) = n by omega, hc]

/-! ## Texts -/

theorem pieces_encode (s : List Char) : pieces (encode s) = s.map .char := by
  unfold pieces
  induction s with
  | nil => rfl
  | cons c s ih => rw [encode_cons, piecesFrom_encodeChar, ih, List.map_cons]

/-- An encoded text is read as the text where nothing is refused, too. -/
@[simp] theorem lossyChars_encode (s : List Char) : lossyChars (encode s) = s := by
  rw [lossyChars, pieces_encode, List.map_map]
  exact List.map_id s

theorem encode_inj {s t : List Char} (h : encode s = encode t) : s = t := by
  have hs := lossyChars_encode s
  rwa [h, lossyChars_encode, eq_comm] at hs

theorem encode_eq_nil {s : List Char} (h : encode s = []) : s = [] := by
  have := pieces_encode s
  rw [h] at this
  exact List.map_eq_nil_iff.1 this.symm

theorem strictFrom_map_char (start : Nat) (s : List Char) :
    strictFrom start (s.map .char) = .ok s := by
  induction s generalizing start with
  | nil => rfl
  | cons c s ih =>
    rw [List.map_cons, strictFrom, ih]
    rfl

/-- An encoded text is read as the text. -/
@[simp] theorem strict_bytes (s : String) : strict (bytes s) = .ok s := by
  rw [strict, bytes, pieces_encode, strictFrom_map_char]
  simp [Except.map]

/-- Which characters the ASCII bytes of an encoded text stand for. -/
theorem mem_of_mem_encode {s : List Char} {b : UInt8} (hb : b ∈ encode s) (h : b.toNat < 0x80) :
    Char.ofNat b.toNat ∈ s := by
  obtain ⟨c, hc, hbc⟩ := List.mem_flatMap.1 hb
  by_cases hlt : c.toNat < 0x80
  · rw [encodeChar_of_lt hlt, List.mem_singleton] at hbc
    have : b.toNat = c.toNat := by rw [hbc, UInt8.toNat_ofNat']; omega
    rwa [this, Char.ofNat_toNat]
  · have := le_of_mem_encodeChar (by omega) hbc
    omega

/-! ## Texts in ASCII -/

theorem encode_of_ascii {s : List Char} (h : ∀ c ∈ s, c.toNat < 0x80) :
    encode s = s.map fun c => UInt8.ofNat c.toNat := by
  induction s with
  | nil => rfl
  | cons c s ih =>
    obtain ⟨hc, hs⟩ := List.forall_mem_cons.1 h
    rw [encode_cons, encodeChar_of_lt hc, ih hs, List.map_cons, List.singleton_append]

/-! ## Bytes that are read as ASCII -/

theorem toNat_ofNat_of_le {n : Nat} (h : 0x80 ≤ n) :
    (Char.ofNat n).toNat = 0 ∨ 0x80 ≤ (Char.ofNat n).toNat := by
  by_cases hn : n.isValidChar
  · rw [Char.ofNat, dif_pos hn]
    exact .inr h
  · rw [Char.ofNat, dif_neg hn]
    exact .inl rfl

/-- What a character read in part will come to is beyond ASCII. -/
structure Pending.Wide (p : Pending) : Prop where
  last : p.left = 0 → 2 ≤ p.value
  more : p.left ≠ 0 → 2 ≤ p.value * 64 + (p.low.toNat - 0x80)

theorem wide_of_lead {b : UInt8} {p : Pending} (h : lead b = .inr p) : p.Wide := by
  have hb : b.toNat < 0x100 := b.toNat_lt
  simp only [lead] at h
  repeat' split at h
  all_goals cases h
  all_goals refine ⟨fun hleft => ?_, fun hleft => ?_⟩
  all_goals simp at hleft ⊢
  all_goals omega

theorem Pending.Wide.push {p q : Pending} {b : UInt8} (h : p.Wide) (hlow : p.low ≤ b)
    (hq : p.push b = .inr q) : q.Wide := by
  have hlow' : p.low.toNat ≤ b.toNat := UInt8.le_iff_toNat_le.1 hlow
  simp only [Pending.push] at hq
  split at hq
  · cases hq
  · next left hleft =>
    cases hq
    have hmore := h.more (by omega)
    refine ⟨fun _ => ?_, fun _ => ?_⟩ <;> simp only <;> omega

/-- The first piece of bytes in the middle of a character. -/
theorem piecesFrom_wide {p : Pending} (h : p.Wide) (bs : Bytes) : ∃ piece rest,
    piecesFrom (some p) bs = piece :: rest ∧
      (piece.lossy.toNat = 0 ∨ 0x80 ≤ piece.lossy.toNat) := by
  have hreplacement : 0x80 ≤ '\uFFFD'.toNat := by decide
  induction bs generalizing p with
  | nil => exact ⟨_, _, rfl, .inr hreplacement⟩
  | cons b r ih =>
    rw [piecesFrom]
    split
    · next hrange =>
      cases hpush : p.push b with
      | inr q => exact ih (h.push hrange.1 hpush)
      | inl piece =>
        refine ⟨_, _, rfl, ?_⟩
        simp only [Pending.push] at hpush
        split at hpush
        · next hleft =>
          cases hpush
          have hlast := h.last hleft
          exact toNat_ofNat_of_le (by omega)
        · cases hpush
    · cases lead b <;> exact ⟨_, _, rfl, .inr hreplacement⟩

/-- Bytes that are read as text in ASCII are that text. -/
theorem eq_encode_of_lossyChars {s : List Char} (hs : ∀ c ∈ s, c.toNat ≠ 0 ∧ c.toNat < 0x80)
    {bs : Bytes} (h : lossyChars bs = s) : bs = encode s := by
  induction s generalizing bs with
  | nil =>
    cases bs with
    | nil => rfl
    | cons b r =>
      rw [lossyChars, List.map_eq_nil_iff, pieces, piecesFrom] at h
      cases hlead : lead b with
      | inl piece => simp [hlead] at h
      | inr p =>
        obtain ⟨piece, rest, hpieces, -⟩ := piecesFrom_wide (wide_of_lead hlead) r
        simp [hlead, hpieces] at h
  | cons c s ih =>
    obtain ⟨hc, hs⟩ := List.forall_mem_cons.1 hs
    cases bs with
    | nil => simp [lossyChars, pieces, piecesFrom] at h
    | cons b r =>
      rw [lossyChars, pieces, piecesFrom] at h
      cases hlead : lead b with
      | inr p =>
        obtain ⟨piece, rest, hpieces, hwide⟩ := piecesFrom_wide (wide_of_lead hlead) r
        simp only [hlead, hpieces, List.map_cons, List.cons.injEq] at h
        rw [h.1] at hwide
        omega
      | inl piece =>
        simp only [hlead, List.map_cons, List.cons.injEq] at h
        obtain ⟨hpiece, hrest⟩ := h
        have hb : piece = .char (Char.ofNat b.toNat) ∧ b.toNat < 0x80 := by
          simp only [lead] at hlead
          repeat' split at hlead
          all_goals cases hlead
          · exact ⟨rfl, by assumption⟩
          all_goals
            rw [← hpiece] at hc
            exact absurd hc (by decide)
        rw [hb.1] at hpiece
        have hchar : Char.ofNat b.toNat = c := hpiece
        have hvalue : c.toNat = b.toNat := by rw [← hchar, toNat_ofNat (by omega)]
        rw [encode_cons, encodeChar_of_lt hc.2, hvalue, UInt8.ofNat_toNat, ← ih hs hrest]
        rfl

end BucketAccess.Utf8
