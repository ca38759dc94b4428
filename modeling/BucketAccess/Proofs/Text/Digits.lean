import BucketAccess.Proofs.Text.Order
import BucketAccess.Text.Numeral
import Mathlib.Algebra.Group.Nat.Defs
import Mathlib.Data.List.Basic

/-!
# Digits

A number is read back from the digits that it is written with, in any base up to sixteen. They do
not begin with a zero unless they are one. Reading takes any digits, in whatever case and with
zeros before them. Digits of one width are, as bytes, in the order of the numbers that they write.
-/

namespace BucketAccess.Numeral

variable {radix : Nat}

theorem digit?_digitChar : ∀ radix ≤ 16, ∀ d < radix, digit? radix d.digitChar = some d := by
  decide

theorem lt_of_digit? {c : Char} {d : Nat} (h : digit? radix c = some d) : d < radix := by
  unfold digit? at h
  simp only [Option.ite_none_right_eq_some, Option.some.injEq] at h
  obtain ⟨hlt, rfl⟩ := h
  exact hlt

theorem lt_of_isSome_digit? {c : Char} (h : (digit? radix c).isSome) :
    c.toNat < 128 := by
  by_contra hc
  have hdecimal : ¬ (48 ≤ c.toNat ∧ c.toNat ≤ 57) := by omega
  have hlower : ¬ (97 ≤ c.toNat ∧ c.toNat ≤ 122) := by omega
  have hupper : ¬ (65 ≤ c.toNat ∧ c.toNat ≤ 90) := by omega
  unfold digit? at h
  simp [hdecimal, hlower, hupper] at h

/-- Digits are those of the number without its last one, and that. -/
theorem toDigits_induction {motive : Nat → List Char → Prop} (h : 1 < radix)
    (single : ∀ d < radix, motive d [d.digitChar])
    (append : ∀ n d s, 0 < n → d < radix → motive n s →
      motive (n * radix + d) (s ++ [d.digitChar])) (n : Nat) :
    motive n (Nat.toDigits radix n) := by
  induction n using Nat.strongRecOn with
  | ind n ih =>
    by_cases hn : n < radix
    · rw [Nat.toDigits_of_lt_base hn]
      exact single n hn
    · have hle : radix ≤ n := by omega
      have hless : n / radix < n := Nat.div_lt_self (by omega) h
      have hpos : 0 < n / radix := Nat.div_pos hle (by omega)
      have hlast : n % radix < radix := Nat.mod_lt n (by omega)
      have hsum : n / radix * radix + n % radix = n := by
        rw [Nat.mul_comm]
        exact Nat.div_add_mod n radix
      have hmotive := append _ _ _ hpos hlast (ih _ hless)
      rw [hsum] at hmotive
      rwa [Nat.toDigits_of_base_le h hle]

theorem isSome_digit?_of_mem_toDigits (h : 1 < radix) (h16 : radix ≤ 16) (n : Nat) :
    ∀ c ∈ Nat.toDigits radix n, (digit? radix c).isSome := by
  have hdigit : ∀ d < radix, (digit? radix d.digitChar).isSome := by
    intro d hd
    rw [digit?_digitChar radix h16 d hd]
    rfl
  refine toDigits_induction (motive := fun _ s => ∀ c ∈ s, (digit? radix c).isSome) h ?_ ?_ n
  · intro d hd c hc
    rw [List.mem_singleton.1 hc]
    exact hdigit d hd
  · intro n d s _ hd ih c hc
    rcases List.mem_append.1 hc with hc | hc
    · exact ih c hc
    · rw [List.mem_singleton.1 hc]
      exact hdigit d hd

theorem foldl_toDigits (h : 1 < radix) (h16 : radix ≤ 16) (n : Nat) :
    (Nat.toDigits radix n).foldl (fun n c => n * radix + (digit? radix c).getD 0) 0 = n := by
  refine toDigits_induction
    (motive := fun n s => s.foldl (fun n c => n * radix + (digit? radix c).getD 0) 0 = n) h ?_ ?_ n
  · intro d hd
    rw [List.foldl_cons, List.foldl_nil, digit?_digitChar radix h16 d hd, Option.getD_some]
    omega
  · intro n d s _ hd ih
    rw [List.foldl_append, ih, List.foldl_cons, List.foldl_nil, digit?_digitChar radix h16 d hd,
      Option.getD_some]

theorem eq_zero_of_head?_toDigits (h : 1 < radix) (h16 : radix ≤ 16) {n : Nat}
    (hn : (Nat.toDigits radix n).head? = some '0') : n = 0 := by
  have hzero : ∀ d < radix, d.digitChar = '0' → d = 0 := by
    intro d hd he
    have hvalue := digit?_digitChar radix h16 d hd
    have hzero := digit?_digitChar radix h16 0 (by omega)
    rw [he] at hvalue
    exact Option.some.inj (hvalue.symm.trans hzero)
  suffices hall : Nat.toDigits radix n ≠ [] ∧ ((Nat.toDigits radix n).head? = some '0' → n = 0) from
    hall.2 hn
  refine toDigits_induction
    (motive := fun n s => s ≠ [] ∧ (s.head? = some '0' → n = 0)) h ?_ ?_ n
  · intro d hd
    refine ⟨by simp, fun he => hzero d hd ?_⟩
    simpa using he
  · intro n d s hpos _ ih
    refine ⟨by simp, fun he => ?_⟩
    rw [List.head?_append_of_ne_nil _ ih.1] at he
    have := ih.2 he
    omega

/-! ## Reading -/

theorem le_foldl_digits (h : 0 < radix) (s : List Char) (n : Nat) :
    n ≤ s.foldl (fun n c => n * radix + (digit? radix c).getD 0) n := by
  induction s generalizing n with
  | nil => exact Nat.le_refl n
  | cons c s ih =>
    have hle := ih (n * radix + (digit? radix c).getD 0)
    have hmul := Nat.le_mul_of_pos_right n h
    rw [List.foldl_cons]
    omega

theorem readFrom_of_digits (hradix : 0 < radix) {bound : Nat} {s : List Char}
    (h : ∀ c ∈ s, (digit? radix c).isSome) {n : Nat}
    (hle : s.foldl (fun n c => n * radix + (digit? radix c).getD 0) n ≤ bound) :
    readFrom radix bound n s =
      .ok (s.foldl (fun n c => n * radix + (digit? radix c).getD 0) n) := by
  induction s generalizing n with
  | nil => rfl
  | cons c s ih =>
    obtain ⟨hc, hs⟩ := List.forall_mem_cons.1 h
    obtain ⟨d, hd⟩ := Option.isSome_iff_exists.1 hc
    have hfirst := le_foldl_digits hradix s (n * radix + d)
    rw [List.foldl_cons, hd, Option.getD_some] at hle ⊢
    rw [readFrom, hd]
    simp only
    rw [if_pos (by omega), ih hs hle]

/-- A number that is not above the bound is read from digits that write it. -/
theorem read_of_digits (hradix : 0 < radix) {bound : Nat} {s : List Char} (hs : s ≠ [])
    (h : ∀ c ∈ s, (digit? radix c).isSome)
    (hle : s.foldl (fun n c => n * radix + (digit? radix c).getD 0) 0 ≤ bound) :
    read radix bound s =
      .ok (s.foldl (fun n c => n * radix + (digit? radix c).getD 0) 0) := by
  cases s with
  | nil => exact absurd rfl hs
  | cons c s => exact readFrom_of_digits hradix h hle

/-! ## Digits of a width -/

theorem isSome_digit?_of_mem_fixed {width n : Nat} {c : Char} (h : c ∈ fixed width n) :
    (digit? 10 c).isSome := by
  have hdigit : ∀ d < 10, (digit? 10 (digitChar d)).isSome := by decide
  induction width generalizing n with
  | zero => cases h
  | succ width ih =>
    rw [fixed, List.mem_append, List.mem_singleton] at h
    rcases h with h | rfl
    · exact ih h
    · exact hdigit _ (Nat.mod_lt _ (by decide))

theorem isSome_digit?_of_mem_padded {width n : Nat} {c : Char} (h : c ∈ padded width n) :
    (digit? 10 c).isSome := by
  rcases List.mem_append.1 h with h | h
  · rw [List.eq_of_mem_replicate h]
    decide
  · exact isSome_digit?_of_mem_toDigits (by decide) (by decide) n c h

theorem isDigit_of_isSome_digit? {c : Char} (h : (digit? 10 c).isSome) : c.isDigit := by
  have hascii : ∀ n < 128, (digit? 10 (Char.ofNat n)).isSome → (Char.ofNat n).isDigit := by decide
  have hc := hascii c.toNat (lt_of_isSome_digit? h)
  rw [Char.ofNat_toNat] at hc
  exact hc h

theorem length_fixed (width n : Nat) : (fixed width n).length = width := by
  induction width generalizing n with
  | zero => rfl
  | succ width ih => rw [fixed, List.length_append, ih, List.length_singleton]

/-- Numbers are compared before what follows them. -/
theorem encode_fixed_le_iff {width m n : Nat} (hm : m < 10 ^ width) (hn : n < 10 ^ width)
    (s t : List Char) : Utf8.encode (fixed width m ++ s) ≤ Utf8.encode (fixed width n ++ t) ↔
      m < n ∨ m = n ∧ Utf8.encode s ≤ Utf8.encode t := by
  have hdigit : ∀ d < 10, ∀ e < 10, ((digitChar d).toNat < (digitChar e).toNat ↔ d < e) ∧
      (digitChar d = digitChar e ↔ d = e) := by decide
  induction width generalizing m n s t with
  | zero =>
    have hzero : m = 0 ∧ n = 0 := by omega
    simp [fixed, hzero]
  | succ width ih =>
    obtain ⟨hlt, heq⟩ := hdigit (m % 10) (by omega) (n % 10) (by omega)
    -- The last digits are compared as what follows the others.
    have hfirst := ih (m := m / 10) (n := n / 10) (by omega) (by omega)
      (digitChar (m % 10) :: s) (digitChar (n % 10) :: t)
    rw [Utf8.encode_cons_le_iff, hlt, heq] at hfirst
    rw [fixed, fixed, List.append_assoc, List.append_assoc, List.singleton_append,
      List.singleton_append]
    refine hfirst.trans ?_
    by_cases hrest : Utf8.encode s ≤ Utf8.encode t
    · simp only [hrest, and_true]
      omega
    · simp only [hrest, and_false, or_false]
      omega

end BucketAccess.Numeral
