import BucketAccess.Proofs.Text.Utf8
import BucketAccess.Text.Order

/-!
# Order of texts by their bytes

Texts are in the order of their bytes: those of a character come before those of every later one,
and what follows in the texts makes no difference, since no character has bytes that those of
another one begin with. The order of texts is therefore transitive and total, as that of bytes is.
-/

namespace BucketAccess.Utf8

/-- Bytes are compared by their numbers. -/
theorem ofNat_cons_lt_iff {m n : Nat} (hm : m < 0x100) (hn : n < 0x100) (s t : Bytes) :
    UInt8.ofNat m :: s < UInt8.ofNat n :: t ↔ m < n ∨ m = n ∧ s < t := by
  have hmod : m % 2 ^ 8 = m ∧ n % 2 ^ 8 = n := by omega
  rw [List.cons_lt_cons_iff, UInt8.lt_iff_toNat_lt, ← UInt8.toNat_inj, UInt8.toNat_ofNat',
    UInt8.toNat_ofNat', hmod.1, hmod.2]

/-- The bytes of a character come before those of a later one, whatever follows them. -/
theorem encodeChar_append_lt {c d : Char} (h : c.toNat < d.toNat) (s t : Bytes) :
    String.utf8EncodeChar c ++ s < String.utf8EncodeChar d ++ t := by
  have hvalid := toNat_valid d
  have hc : c.val.toNat = c.toNat := rfl
  have hd : d.val.toNat = d.toNat := rfl
  simp only [String.utf8EncodeChar, hc, hd]
  generalize c.toNat = m at *
  generalize d.toNat = n at *
  -- First bytes tell how many there are; of as many, the first ones that differ decide.
  have hplaces : m / 262144 < n / 262144 ∨ m / 262144 = n / 262144 ∧
      (m / 4096 < n / 4096 ∨ m / 4096 = n / 4096 ∧
        (m / 64 < n / 64 ∨ m / 64 = n / 64 ∧ m % 64 < n % 64)) := by
    omega
  split_ifs <;> simp (disch := omega) only [List.cons_append, List.nil_append, ofNat_cons_lt_iff,
    Nat.mod_eq_of_lt]
  all_goals omega

theorem append_le_append_iff (p s t : Bytes) : p ++ s ≤ p ++ t ↔ s ≤ t := by
  induction p with
  | nil => rfl
  | cons b p ih =>
    rw [List.cons_append, List.cons_append, List.cons_le_cons_iff, ih]
    simp only [Std.lt_irrefl, true_and, false_or]

/-- Bytes are in the order of the characters that they stand for. -/
theorem encode_cons_le_iff {c d : Char} {s t : List Char} :
    encode (c :: s) ≤ encode (d :: t) ↔ c.toNat < d.toNat ∨ c = d ∧ encode s ≤ encode t := by
  rw [encode_cons, encode_cons]
  rcases Nat.lt_trichotomy c.toNat d.toNat with hlt | heq | hgt
  · simp only [hlt, true_or, iff_true]
    exact List.le_of_lt (encodeChar_append_lt hlt _ _)
  · obtain rfl := Char.toNat_inj.1 heq
    rw [append_le_append_iff]
    simp only [Nat.lt_irrefl, true_and, false_or]
  · have hne : c ≠ d := fun he => Nat.lt_irrefl _ (he ▸ hgt)
    simp only [hne, false_and, or_false, Nat.lt_asymm hgt, iff_false, List.not_le]
    exact encodeChar_append_lt hgt _ _

theorem encode_lt_iff {s t : List Char} : encode s < encode t ↔ s ≠ t ∧ encode s ≤ encode t := by
  constructor
  · intro h
    exact ⟨fun he => List.lt_irrefl _ (he ▸ h), List.le_of_lt h⟩
  · rintro ⟨hne, h⟩
    exact (List.le_iff_lt_or_eq.1 h).resolve_right fun he => hne (encode_inj he)

theorem encode_cons_le_cons {c : Char} {s t : List Char} :
    encode (c :: s) ≤ encode (c :: t) ↔ encode s ≤ encode t := by
  rw [encode_cons_le_iff]
  simp only [Nat.lt_irrefl, true_and, false_or]

end BucketAccess.Utf8

namespace BucketAccess.Text

theorem lexLE_iff {s t : List Char} : lexLE s t = true ↔ Utf8.encode s ≤ Utf8.encode t := by
  induction s generalizing t with
  | nil => simp only [lexLE, Utf8.encode_nil, List.nil_le]
  | cons c s ih =>
    cases t with
    | nil =>
      simp only [lexLE, Utf8.encode_nil, List.le_nil, Bool.false_eq_true, false_iff]
      exact fun h => List.cons_ne_nil c s (Utf8.encode_eq_nil h)
    | cons d t =>
      rw [lexLE, Utf8.encode_cons_le_iff]
      split
      case isTrue heq => simp only [heq, ih, Nat.lt_irrefl, true_and, false_or]
      case isFalse hne => simp only [decide_eq_true_eq, hne, false_and, or_false]

theorem lexLE_trans (s t u : List Char) (hst : lexLE s t = true) (htu : lexLE t u = true) :
    lexLE s u = true := by
  rw [lexLE_iff] at hst htu ⊢
  exact List.le_trans hst htu

theorem lexLE_total (s t : List Char) : (lexLE s t || lexLE t s) = true := by
  rw [Bool.or_eq_true, lexLE_iff, lexLE_iff]
  exact List.le_total _ _

end BucketAccess.Text
