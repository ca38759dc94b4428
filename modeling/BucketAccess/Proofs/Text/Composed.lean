import BucketAccess.Proofs.Text.Utf8
import BucketAccess.Text.Composed
import BucketAccess.Text.LowerCase

/-!
# Composed texts without capitals

Text in ASCII is composed, and a text without the capital letters of ASCII is composed without them:
the tables have no capital to put in for anything.
-/

namespace BucketAccess.Text

/-! ## Capital letters -/

theorem isUpper_iff {c : Char} : c.isUpper = true ↔ 65 ≤ c.toNat ∧ c.toNat ≤ 90 := by
  show decide (c.val ≥ 'A'.val ∧ c.val ≤ 'Z'.val) = true ↔ _
  rw [decide_eq_true_eq, ge_iff_le, UInt32.le_iff_toNat_le, UInt32.le_iff_toNat_le]
  rfl

theorem isUpper_eq_false_iff {c : Char} : c.isUpper = false ↔ c.toNat < 65 ∨ 90 < c.toNat := by
  rw [← Bool.not_eq_true, isUpper_iff]
  omega

theorem isUpper_ofNat_eq_false {n : Nat} (h : n < 65 ∨ 90 < n) :
    (Char.ofNat n).isUpper = false := by
  by_cases hn : n.isValidChar
  · have hvalue : (Char.ofNat n).toNat = n := by
      unfold Char.ofNat
      rw [dif_pos hn]
      rfl
    rw [isUpper_eq_false_iff, hvalue]
    exact h
  · have hnull : Char.ofNat n = Char.ofNat 0 := by
      unfold Char.ofNat
      rw [dif_neg hn]
      rfl
    rw [hnull]
    decide

theorem toLower_of_isUpper_eq_false {c : Char} (h : c.isUpper = false) : c.toLower = c := by
  have hvalue : ¬ (c.val ≥ 'A'.val ∧ c.val ≤ 'Z'.val) := by
    intro hc
    have hupper : c.isUpper = true := decide_eq_true hc
    rw [h] at hupper
    cases hupper
  unfold Char.toLower
  exact dif_neg hvalue

theorem isUpper_toLower_eq_false {c : Char} (h : c.toNat < 128) : c.toLower.isUpper = false :=
  Utf8.forall_ascii (P := fun c => c.toLower.isUpper = false) (by decide) h

theorem loweringRuns_lower : loweringRuns.all (fun r => 90 < r.chars.first + r.shift) = true := by
  decide

theorem isUpper_lowerChar_eq_false (c : Char) : (lowerChar c).isUpper = false := by
  unfold lowerChar
  split
  · next h => exact isUpper_toLower_eq_false h
  · next h =>
    split
    · next run hrun =>
      have hlower := List.all_eq_true.1 loweringRuns_lower run (List.mem_of_find?_eq_some hrun)
      have hholds := List.find?_some hrun
      simp only [Run.holds, Bool.and_eq_true, decide_eq_true_eq] at hlower hholds
      exact isUpper_ofNat_eq_false (by omega)
    · rw [isUpper_eq_false_iff]
      omega

/-! ## Tables -/

theorem compositions_apart : compositions.all (fun r =>
    !(Char.ofNat r.1).isUpper && 128 ≤ r.2.1 && 128 ≤ r.2.2) = true := by decide +kernel

theorem combiningClasses_apart : combiningClasses.all (fun r => 128 ≤ r.1) = true := by
  decide +kernel

theorem compositions_spec {a b n : Nat} (h : (a, b, n) ∈ compositions) :
    (Char.ofNat a).isUpper = false ∧ 128 ≤ b ∧ 128 ≤ n := by
  have hall := List.all_eq_true.1 compositions_apart _ h
  simpa [and_assoc] using hall

theorem combiningClass_of_lt {c : Char} (h : c.toNat < 128) : combiningClass c = 0 := by
  have hnone : combiningClasses.find? (fun r => r.1 ≤ c.toNat && c.toNat ≤ r.2.1) = none := by
    rw [List.find?_eq_none]
    intro r hr
    have hle := List.all_eq_true.1 combiningClasses_apart r hr
    simp only [decide_eq_true_eq] at hle
    simp only [Bool.and_eq_true, decide_eq_true_eq]
    omega
  unfold combiningClass
  rw [hnone]

theorem splitComposite?_of_lt {c : Char} (h : c.toNat < 128) : splitComposite? c = none := by
  have hnone : compositions.find? (·.2.2 == c.toNat) = none := by
    rw [List.find?_eq_none]
    rintro ⟨a, b, n⟩ hr
    have hle := (compositions_spec hr).2.2
    simp only [beq_iff_eq]
    omega
  unfold splitComposite?
  rw [hnone]
  rfl

theorem composite?_of_lt {a b : Char} (h : b.toNat < 128) : composite? a b = none := by
  have hsyllable : syllable? a.toNat b.toNat = none := by
    unfold syllable?
    rw [if_neg (by omega), if_neg (by omega)]
  have hnone : compositions.find? (fun r => r.1 == a.toNat && r.2.1 == b.toNat) = none := by
    rw [List.find?_eq_none]
    rintro ⟨x, y, n⟩ hr
    have hle := (compositions_spec hr).2.1
    simp only [Bool.and_eq_true, beq_iff_eq]
    omega
  unfold composite?
  rw [hsyllable]
  simp only
  rw [hnone]
  rfl

/-! ## Text in ASCII -/

theorem takeApart_of_ascii {s : List Char} (h : ∀ c ∈ s, c.toNat < 128) : takeApart s = s := by
  induction s with
  | nil => rfl
  | cons c s ih =>
    obtain ⟨hc, hs⟩ := List.forall_mem_cons.1 h
    show parts 3 c ++ takeApart s = c :: s
    rw [parts, splitComposite?_of_lt hc, ih hs]
    rfl

theorem orderMarks_of_ascii {s : List Char} (h : ∀ c ∈ s, c.toNat < 128) : orderMarks s = s := by
  have hfold : ∀ sofar, s.foldl (fun sofar c => putMark c sofar) sofar = s.reverse ++ sofar := by
    induction s with
    | nil => exact fun _ => rfl
    | cons c s ih =>
      obtain ⟨hc, hs⟩ := List.forall_mem_cons.1 h
      intro sofar
      have hput : putMark c sofar = c :: sofar := by
        cases sofar with
        | nil => rfl
        | cons last before =>
          rw [putMark, if_neg fun hclass => hclass.1 (combiningClass_of_lt hc)]
      rw [List.foldl_cons, hput, ih hs, List.reverse_cons, List.append_assoc]
      rfl
  unfold orderMarks
  rw [hfold, List.append_nil, List.reverse_reverse]

theorem composeFrom_of_ascii {s : List Char} (h : ∀ c ∈ s, c.toNat < 128) (base : Char) :
    composeFrom base [] s = base :: s := by
  induction s generalizing base with
  | nil => rfl
  | cons c s ih =>
    obtain ⟨hc, hs⟩ := List.forall_mem_cons.1 h
    have hclass := combiningClass_of_lt hc
    rw [composeFrom, composite?_of_lt hc]
    simp [hclass, ih hs]

theorem compose_of_ascii {s : List Char} (h : ∀ c ∈ s, c.toNat < 128) : compose s = s := by
  unfold compose
  rw [takeApart_of_ascii h, orderMarks_of_ascii h]
  cases s with
  | nil => rfl
  | cons c s => exact composeFrom_of_ascii (List.forall_mem_cons.1 h).2 c

/-! ## Text without capitals -/

/-- No capital letter of ASCII. -/
def NoCapitals (s : List Char) : Prop := ∀ c ∈ s, c.isUpper = false

theorem noCapitals_cons {c : Char} {s : List Char} :
    NoCapitals (c :: s) ↔ c.isUpper = false ∧ NoCapitals s := List.forall_mem_cons

theorem noCapitals_append {s t : List Char} :
    NoCapitals (s ++ t) ↔ NoCapitals s ∧ NoCapitals t := List.forall_mem_append

theorem noCapitals_parts {c : Char} (h : c.isUpper = false) (depth : Nat) :
    NoCapitals (parts depth c) := by
  induction depth generalizing c with
  | zero => exact noCapitals_cons.2 ⟨h, nofun⟩
  | succ depth ih =>
    rw [parts]
    split
    · next a b hsplit =>
      obtain ⟨⟨x, y, n⟩, hfind, hab⟩ := Option.map_eq_some_iff.1 hsplit
      cases hab
      obtain ⟨hx, hy, -⟩ := compositions_spec (List.mem_of_find?_eq_some hfind)
      refine noCapitals_append.2 ⟨ih hx, noCapitals_cons.2 ⟨?_, nofun⟩⟩
      exact isUpper_ofNat_eq_false (by omega)
    · exact noCapitals_cons.2 ⟨h, nofun⟩

theorem mem_putMark {x c : Char} {s : List Char} (h : x ∈ putMark c s) : x = c ∨ x ∈ s := by
  induction s with
  | nil => exact .inl (List.mem_singleton.1 h)
  | cons last before ih =>
    rw [putMark] at h
    split at h
    · rcases List.mem_cons.1 h with rfl | h
      · exact .inr (.head _)
      · exact (ih h).imp_right (.tail _)
    · exact List.mem_cons.1 h

theorem noCapitals_orderMarks {s : List Char} (h : NoCapitals s) : NoCapitals (orderMarks s) := by
  have hfold : ∀ sofar, NoCapitals sofar →
      NoCapitals (s.foldl (fun sofar c => putMark c sofar) sofar) := by
    induction s with
    | nil => exact fun _ hsofar => hsofar
    | cons c s ih =>
      obtain ⟨hc, hs⟩ := noCapitals_cons.1 h
      intro sofar hsofar
      refine ih hs _ fun x hx => ?_
      rcases mem_putMark hx with rfl | hx
      · exact hc
      · exact hsofar x hx
  intro c hc
  exact hfold [] nofun c (List.mem_reverse.1 hc)

theorem isUpper_composite? {a b c : Char} (h : composite? a b = some c) : c.isUpper = false := by
  unfold composite? at h
  split at h
  · next n hn =>
    cases h
    refine isUpper_ofNat_eq_false (.inr ?_)
    unfold syllable? at hn
    split at hn
    · have := Option.some.inj hn
      omega
    · split at hn
      · have := Option.some.inj hn
        omega
      · cases hn
  · obtain ⟨⟨x, y, n⟩, hfind, rfl⟩ := Option.map_eq_some_iff.1 h
    have hle := (compositions_spec (List.mem_of_find?_eq_some hfind)).2.2
    show (Char.ofNat n).isUpper = false
    exact isUpper_ofNat_eq_false (by omega)

theorem noCapitals_composeFrom {base : Char} {marks s : List Char} (hbase : base.isUpper = false)
    (hmarks : NoCapitals marks) (hs : NoCapitals s) : NoCapitals (composeFrom base marks s) := by
  have hreverse : ∀ {marks}, NoCapitals marks → NoCapitals marks.reverse :=
    fun h c hc => h c (List.mem_reverse.1 hc)
  fun_induction composeFrom base marks s with
  | case1 => exact noCapitals_cons.2 ⟨hbase, hreverse hmarks⟩
  | case2 base marks c r joined base' hjoined ih =>
    refine ih ?_ hmarks (noCapitals_cons.1 hs).2
    simp only [joined] at hjoined
    split at hjoined
    · exact isUpper_composite? hjoined
    · cases hjoined
  | case3 base marks c r joined hjoined hclass ih =>
    obtain ⟨hc, hr⟩ := noCapitals_cons.1 hs
    exact noCapitals_append.2 ⟨noCapitals_cons.2 ⟨hbase, hreverse hmarks⟩, ih hc nofun hr⟩
  | case4 base marks c r joined hjoined hclass ih =>
    obtain ⟨hc, hr⟩ := noCapitals_cons.1 hs
    exact ih hbase (noCapitals_cons.2 ⟨hc, hmarks⟩) hr

theorem noCapitals_compose {s : List Char} (h : NoCapitals s) : NoCapitals (compose s) := by
  have hapart : NoCapitals (takeApart s) := by
    intro x hx
    obtain ⟨c, hc, hx⟩ := List.mem_flatMap.1 hx
    exact noCapitals_parts (h c hc) 3 x hx
  have hordered := noCapitals_orderMarks hapart
  unfold compose
  split
  · exact nofun
  · next c r heq =>
    rw [heq] at hordered
    obtain ⟨hc, hr⟩ := noCapitals_cons.1 hordered
    exact noCapitals_composeFrom hc nofun hr

end BucketAccess.Text
