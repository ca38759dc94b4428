import BucketAccess.Json.Writer
import BucketAccess.Proofs.Json.Grammar
import Mathlib.Algebra.Group.Nat.Defs
import Mathlib.Data.List.Basic

/-!
# Whole numbers in JSON

A plain integer of 64 bits is written so that it is read back: as its digits, after a minus if it is
negative. The integer `-0` stands for the double minus zero, which is written as one.
-/

namespace BucketAccess.Json

/-- An integer without fraction and exponent that fits 64 bits, with a sign or without. -/
structure Literal.Plain (l : Literal) : Prop where
  fraction : l.fraction = []
  exponent : l.exponent = none
  fits : digitsValue l.whole < if l.negative then 2 ^ 63 + 1 else 2 ^ 64

/-- A number that such an integer stands for. -/
def Number.Plain (n : Number) : Prop := ∃ l : Literal, l.Plain ∧ l.number? = some n

theorem le_foldl_digits (digits : List Nat) (n : Nat) :
    n ≤ digits.foldl (fun n d => n * 10 + d) n := by
  induction digits generalizing n with
  | nil => exact Nat.le_refl n
  | cons d digits ih =>
    have := ih (n * 10 + d)
    rw [List.foldl_cons]
    omega

/-- Digits of a number that fits are all taken. -/
theorem takeWhole_eq {digits : List Nat} {n : Nat}
    (h : digits.foldl (fun n d => n * 10 + d) n < 2 ^ 64) :
    takeWhole n digits = (digits.foldl (fun n d => n * 10 + d) n, 0) := by
  induction digits generalizing n with
  | nil => rfl
  | cons d digits ih =>
    rw [List.foldl_cons] at h ⊢
    have fits : fits n d := by
      have := le_foldl_digits digits (n * 10 + d)
      simp only [Json.fits, decide_eq_true_eq]
      omega
    rw [takeWhole, if_pos fits, ih h]

/-- Minus zero. -/
def minusZero : Number := .double ⟨true, 0, 0⟩

theorem number?_eq {l : Literal} (h : l.Plain) : l.number? =
    if l.negative then
      if digitsValue l.whole = 0 then some minusZero
      else some (.whole (-(digitsValue l.whole : Int)))
    else some (.whole (digitsValue l.whole)) := by
  obtain ⟨negative, whole, fraction, exponent⟩ := l
  obtain ⟨rfl, rfl, fits⟩ := h
  simp only at fits ⊢
  have taken : takeWhole 0 whole = (digitsValue whole, 0) := by
    refine takeWhole_eq (Nat.lt_of_lt_of_le fits ?_)
    cases negative <;> simp
  rw [Literal.number?]
  simp only [taken]
  rw [if_pos (by simp)]
  cases negative with
  | false => rfl
  | true =>
    simp only [if_true] at fits
    by_cases e : digitsValue whole = 0
    · have zero : scale? 0 0 = some .zero := by decide +kernel
      simp [e, Literal.double?, Literal.exponentValue, taken, takeFraction, zero]
      rfl
    · simp [e, show 0 < digitsValue whole ∧ digitsValue whole ≤ 0x8000000000000000 by omega]

theorem Number.Plain.cases {n : Number} (h : n.Plain) :
    (∃ k < 2 ^ 64, n = .whole (k : Nat)) ∨
      (∃ k : Nat, 0 < k ∧ k < 2 ^ 63 + 1 ∧ n = .whole (-(k : Int))) ∨ n = minusZero := by
  obtain ⟨l, plain, hn⟩ := h
  have fits := plain.fits
  rw [number?_eq plain] at hn
  split at hn
  · rename_i negative
    rw [if_pos negative] at fits
    split at hn
    · exact .inr (.inr (Option.some.inj hn).symm)
    · rename_i e
      exact .inr (.inl ⟨_, Nat.pos_of_ne_zero e, fits, (Option.some.inj hn).symm⟩)
  · rename_i positive
    rw [if_neg positive] at fits
    exact .inl ⟨_, fits, (Option.some.inj hn).symm⟩

/-! ## Writing -/

theorem digitChar_eq {d : Nat} (h : d < 10) : Nat.digitChar d = Numeral.digitChar d := by
  have all : ∀ d < 10, Nat.digitChar d = Numeral.digitChar d := by decide
  exact all d h

/-- The digits that a number is written with. -/
theorem exists_digits (n : Nat) : ∃ digits, IsDigits digits ∧
    (digits.head? = some 0 → digits = [0]) ∧ Numeral.decimal n = digitChars digits ∧
    digitsValue digits = n := by
  induction n using Nat.strongRecOn with
  | ind n ih =>
    by_cases small : n < 10
    · refine ⟨[n], ⟨by simp, by simpa using small⟩, by simp, ?_, by simp [digitsValue]⟩
      rw [Numeral.decimal, Nat.toDigits_of_lt_base small, digitChar_eq small]
      rfl
    · obtain ⟨digits, hd, zero, text, value⟩ := ih (n / 10) (by omega)
      have split := Nat.toDigits_append_toDigits (b := 10) (n := n / 10) (d := n % 10) (by omega)
        (by omega) (by omega)
      rw [Nat.toDigits_of_lt_base (by omega : n % 10 < 10), digitChar_eq (by omega),
        show 10 * (n / 10) + n % 10 = n by omega] at split
      refine ⟨digits ++ [n % 10], ⟨by simp, ?_⟩, ?_, ?_, ?_⟩
      · intro d h
        rcases List.mem_append.1 h with h | h
        · exact hd.2 d h
        · rw [List.mem_singleton.1 h]
          omega
      · intro first
        rw [List.head?_append_of_ne_nil _ hd.1] at first
        rw [zero first] at value
        simp [digitsValue] at value
        omega
      · rw [Numeral.decimal, ← split, ← Numeral.decimal, text]
        simp [digitChars]
      · rw [digitsValue, List.foldl_append, ← digitsValue, value]
        simp
        omega

theorem wholeText_neg {k : Nat} (h : 0 < k) :
    wholeText (-(k : Int)) = '-' :: Numeral.decimal k := by
  rw [wholeText, if_pos (by omega), Int.natAbs_neg, Int.natAbs_natCast]

theorem wholeText_natCast (k : Nat) : wholeText (k : Int) = Numeral.decimal k := by
  rw [wholeText, if_neg (by omega), Int.natAbs_natCast]

/-- A plain number is written as a number of the grammar that stands for it. -/
theorem Number.Plain.written {n : Number} (h : n.Plain) :
    ∃ l, NumberText l n.text ∧ l.draft = .number n := by
  rcases h.cases with ⟨k, fits, rfl⟩ | ⟨k, pos, fits, rfl⟩ | rfl
  · obtain ⟨digits, hd, zero, text, value⟩ := exists_digits k
    have number := number?_eq (l := ⟨false, digits, [], none⟩) ⟨rfl, rfl, by simpa [value]⟩
    refine ⟨⟨false, digits, [], none⟩, ?_, by rw [Literal.draft, number]; simp [value]⟩
    rw [Number.text, wholeText_natCast, text]
    simpa using @NumberText.mk false digits [] none [] [] hd zero .none .none
  · obtain ⟨digits, hd, zero, text, value⟩ := exists_digits k
    have number := number?_eq (l := ⟨true, digits, [], none⟩) ⟨rfl, rfl, by simpa [value]⟩
    have nonzero : k ≠ 0 := by omega
    refine ⟨⟨true, digits, [], none⟩, ?_, by rw [Literal.draft, number]; simp [value, nonzero]⟩
    rw [Number.text, wholeText_neg pos, text]
    simpa using @NumberText.mk true digits [] none [] [] hd zero .none .none
  · have number : Literal.number? ⟨true, [0], [0], none⟩ = some minusZero := by decide +kernel
    refine ⟨⟨true, [0], [0], none⟩, ?_, by rw [Literal.draft, number]⟩
    have digits : IsDigits [0] := ⟨by decide, by decide⟩
    exact @NumberText.mk true [0] [0] none _ _ digits (fun _ => rfl) (.some digits) .none

end BucketAccess.Json
