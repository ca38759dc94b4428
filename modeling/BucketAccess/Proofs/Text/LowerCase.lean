import BucketAccess.Proofs.Text.Composed
import BucketAccess.Proofs.Text.Utf8

/-!
# Lower case once

Text in lower case stays as it is: no run of the table leads into another one, or to one of the two
characters that need more than the table. No character below the letters comes from another one.
-/

namespace BucketAccess.Text

/-! ## Runs -/

variable {a b : Run} {n : Nat}

def Run.isOneParity (run : Run) : Bool := run.step == 2 || run.first == run.last

/-- A test for runs without a common number. Runs that overlap are those of the pairs of a capital
and the small letter next to it. -/
def Run.isApart (a b : Run) : Bool :=
  a.last < b.first || b.last < a.first ||
    (a.isOneParity && b.isOneParity && (a.first + b.first) % 2 == 1)

theorem Run.mod_two (h : a.isOneParity = true) (ha : a.holds n = true) :
    n % 2 = a.first % 2 := by
  simp only [isOneParity, Bool.or_eq_true, beq_iff_eq] at h
  simp only [holds, Bool.and_eq_true, decide_eq_true_eq, beq_iff_eq] at ha
  obtain ⟨⟨hfirst, hlast⟩, hstep⟩ := ha
  rcases h with h | h
  · rw [h] at hstep
    omega
  · omega

theorem Run.holds_eq_false (h : a.isApart b = true) (ha : a.holds n = true) :
    b.holds n = false := by
  refine Bool.eq_false_iff.2 fun hb => ?_
  have hbounds : (a.first ≤ n ∧ n ≤ a.last) ∧ b.first ≤ n ∧ n ≤ b.last := by
    simp only [holds, Bool.and_eq_true, decide_eq_true_eq] at ha hb
    exact ⟨ha.1, hb.1⟩
  simp only [isApart, Bool.or_eq_true, Bool.and_eq_true, decide_eq_true_eq, beq_iff_eq] at h
  rcases h with h | ⟨⟨hparity, hparity'⟩, hsum⟩
  · omega
  · have hn := mod_two hparity ha
    have hn' := mod_two hparity' hb
    omega

/-- The lower-case forms of a run. -/
def LoweringRun.image (r : LoweringRun) : Run :=
  ⟨(r.chars.first + r.shift).toNat, (r.chars.last + r.shift).toNat, r.chars.step⟩

/-- Characters that have another lower-case form. -/
def capitalRuns : List Run := ⟨0x130, 0x130, 1⟩ :: loweringRuns.map (·.chars)

theorem loweringRuns_apart :
    loweringRuns.all (fun r => capitalRuns.all r.image.isApart) = true := by decide +kernel

theorem loweringRuns_valid : loweringRuns.all (fun r => 97 ≤ r.chars.first + r.shift &&
    (r.image.last < 0xD800 || (0xDFFF < r.image.first && r.image.last < 0x110000))) = true := by
  decide

theorem LoweringRun.holds_image {r : LoweringRun} (h : r ∈ loweringRuns)
    (hn : r.chars.holds n = true) :
    r.image.holds (n + r.shift).toNat = true ∧ 97 ≤ (n + r.shift).toNat ∧
      (n + r.shift).toNat.isValidChar := by
  have himage : r.image.first = (r.chars.first + r.shift).toNat ∧
      r.image.last = (r.chars.last + r.shift).toNat := ⟨rfl, rfl⟩
  have hvalid := List.all_eq_true.1 loweringRuns_valid r h
  simp only [Bool.and_eq_true, Bool.or_eq_true, decide_eq_true_eq] at hvalid
  simp only [Run.holds, Bool.and_eq_true, decide_eq_true_eq, beq_iff_eq] at hn ⊢
  obtain ⟨⟨hfirst, hlast⟩, hstep⟩ := hn
  have hsub : (n + r.shift).toNat - r.image.first = n - r.chars.first := by omega
  refine ⟨⟨⟨by omega, by omega⟩, ?_⟩, by omega, ?_⟩
  · rw [hsub]
    exact hstep
  · unfold Nat.isValidChar
    omega

/-! ## Characters -/

/-- A character of a text in lower case. -/
structure IsLowered (c : Char) : Prop where
  fixed : lowerChar c = c
  dotted : c ≠ 'İ'
  sigma : c ≠ 'Σ'

theorem isLowered_of_capitalRuns {c : Char} (hc : 97 ≤ c.toNat)
    (h : ∀ run ∈ capitalRuns, run.holds c.toNat = false) : IsLowered c := by
  have hother : ∀ d : Char, (capitalRuns.any fun run => run.holds d.toNat) = true → c ≠ d := by
    rintro d hd rfl
    obtain ⟨run, hrun, hholds⟩ := List.any_eq_true.1 hd
    rw [h run hrun] at hholds
    cases hholds
  refine ⟨?_, hother 'İ' (by decide), hother 'Σ' (by decide)⟩
  have hnone : loweringRuns.find? (·.chars.holds c.toNat) = none := by
    refine List.find?_eq_none.2 fun r hr => ?_
    rw [h _ (.tail _ (List.mem_map_of_mem hr))]
    exact Bool.false_ne_true
  unfold lowerChar
  split
  · exact toLower_of_isUpper_eq_false (isUpper_eq_false_iff.2 (by omega))
  · rw [hnone]

theorem isLowered_lowerChar {c : Char} (hdotted : c ≠ 'İ') (hsigma : c ≠ 'Σ') :
    IsLowered (lowerChar c) := by
  by_cases hc : c.toNat < 128
  · have hascii : ∀ d : Char, d.toNat < 128 → lowerChar (lowerChar d) = lowerChar d ∧
        lowerChar d ≠ 'İ' ∧ lowerChar d ≠ 'Σ' :=
      fun _ => Utf8.forall_ascii (P := fun d => lowerChar (lowerChar d) = lowerChar d ∧
        lowerChar d ≠ 'İ' ∧ lowerChar d ≠ 'Σ') (by decide)
    obtain ⟨h, h', h''⟩ := hascii c hc
    exact ⟨h, h', h''⟩
  · cases hrun : loweringRuns.find? (·.chars.holds c.toNat) with
    | none =>
      have hsame : lowerChar c = c := by
        unfold lowerChar
        rw [if_neg hc, hrun]
      rw [hsame]
      exact ⟨hsame, hdotted, hsigma⟩
    | some run =>
      have hlower : lowerChar c = Char.ofNat (c.toNat + run.shift).toNat := by
        unfold lowerChar
        rw [if_neg hc, hrun]
      have hmem := List.mem_of_find?_eq_some hrun
      have hholds := List.find?_some hrun
      obtain ⟨himage, hge, hvalid⟩ := LoweringRun.holds_image hmem hholds
      have hvalue : (lowerChar c).toNat = (c.toNat + run.shift).toNat := by
        rw [hlower, Char.ofNat, dif_pos hvalid]
        rfl
      refine isLowered_of_capitalRuns (by omega) fun other hother => ?_
      have hall := List.all_eq_true.1 loweringRuns_apart run hmem
      rw [hvalue]
      exact Run.holds_eq_false (List.all_eq_true.1 hall other hother) himage

/-- No character below the letters is the lower-case form of another one. -/
theorem eq_of_lowerChar {c d : Char} (hpos : 0 < d.toNat) (hlt : d.toNat < 65)
    (h : lowerChar c = d) : c = d := by
  unfold lowerChar at h
  split at h
  · by_cases hc : c.isUpper = true
    · have hlower : ∀ e : Char, e.toNat < 128 → e.isUpper = true → 65 ≤ e.toLower.toNat :=
        fun _ => Utf8.forall_ascii (P := fun e => e.isUpper = true → 65 ≤ e.toLower.toNat)
          (by decide)
      have hge := hlower c ‹_› hc
      rw [h] at hge
      omega
    · rwa [toLower_of_isUpper_eq_false (Bool.eq_false_iff.2 hc)] at h
  · split at h
    · next run hrun =>
      have hholds := List.find?_some hrun
      obtain ⟨-, hge, hvalid⟩ := LoweringRun.holds_image (List.mem_of_find?_eq_some hrun) hholds
      have hvalue : d.toNat = (c.toNat + run.shift).toNat := by
        rw [← h, Char.ofNat, dif_pos hvalid]
        rfl
      omega
    · exact h

/-! ## Texts -/

variable {s : List Char} {c : Char}

/-- Where the characters of a text in lower case come from. -/
theorem of_mem_lowerCase (h : c ∈ lowerCase s) :
    c ∈ ['i', '\u0307', 'ς', 'σ'] ∨ ∃ x ∈ s, x ≠ 'İ' ∧ x ≠ 'Σ' ∧ c = lowerChar x := by
  have hfrom : ∀ before, c ∈ lowerCaseFrom before s → c ∈ ['i', '\u0307', 'ς', 'σ'] ∨
      ∃ x ∈ s, x ≠ 'İ' ∧ x ≠ 'Σ' ∧ c = lowerChar x := by
    clear h
    induction s with
    | nil => exact fun _ h => absurd h List.not_mem_nil
    | cons x s ih =>
      intro before h
      rw [lowerCaseFrom] at h
      rcases List.mem_append.1 h with h | h
      · split at h
        · exact .inl (List.mem_append_left ['ς', 'σ'] h)
        · split at h
          · rw [List.mem_singleton.1 h]
            split
            · exact .inl (by decide)
            · exact .inl (by decide)
          · exact .inr ⟨x, .head _, ‹_›, ‹_›, List.mem_singleton.1 h⟩
      · exact (ih _ h).imp_right fun ⟨y, hy, hc⟩ => ⟨y, .tail _ hy, hc⟩
  exact hfrom [] h

theorem isLowered_of_mem_lowerCase (h : c ∈ lowerCase s) : IsLowered c := by
  have hspecial : ∀ d ∈ ['i', '\u0307', 'ς', 'σ'], lowerChar d = d ∧ d ≠ 'İ' ∧ d ≠ 'Σ' := by
    simp only [List.forall_mem_cons]
    exact ⟨by decide, by decide, by decide, by decide, nofun⟩
  rcases of_mem_lowerCase h with h | ⟨x, -, hdotted, hsigma, rfl⟩
  · obtain ⟨hfixed, hdotted, hsigma⟩ := hspecial c h
    exact ⟨hfixed, hdotted, hsigma⟩
  · exact isLowered_lowerChar hdotted hsigma

theorem lowerCase_of_isLowered (h : ∀ c ∈ s, IsLowered c) : lowerCase s = s := by
  have hfrom : ∀ before, lowerCaseFrom before s = s := by
    induction s with
    | nil => exact fun _ => rfl
    | cons x s ih =>
      obtain ⟨hx, hs⟩ := List.forall_mem_cons.1 h
      intro before
      rw [lowerCaseFrom, if_neg hx.dotted, if_neg hx.sigma, hx.fixed, ih hs]
      rfl
  exact hfrom []

theorem lowerCase_lowerCase (s : List Char) : lowerCase (lowerCase s) = lowerCase s :=
  lowerCase_of_isLowered fun _ => isLowered_of_mem_lowerCase

/-- In ASCII only the capital letters change. -/
theorem lowerCase_of_ascii (h : ∀ c ∈ s, c.toNat < 128) : lowerCase s = s.map Char.toLower := by
  have hwide : 128 ≤ 'İ'.toNat ∧ 128 ≤ 'Σ'.toNat := by decide
  have hfrom : ∀ before, lowerCaseFrom before s = s.map Char.toLower := by
    induction s with
    | nil => exact fun _ => rfl
    | cons x s ih =>
      obtain ⟨hx, hs⟩ := List.forall_mem_cons.1 h
      have hdotted : x ≠ 'İ' := fun he => by rw [he] at hx; omega
      have hsigma : x ≠ 'Σ' := fun he => by rw [he] at hx; omega
      intro before
      rw [lowerCaseFrom, if_neg hdotted, if_neg hsigma, lowerChar, if_pos hx, ih hs]
      rfl
  exact hfrom []

theorem mem_of_mem_lowerCase (hpos : 0 < c.toNat) (hlt : c.toNat < 65) (h : c ∈ lowerCase s) :
    c ∈ s := by
  have hspecial : ∀ d ∈ ['i', '\u0307', 'ς', 'σ'], 65 ≤ d.toNat := by
    simp only [List.forall_mem_cons]
    exact ⟨by decide, by decide, by decide, by decide, nofun⟩
  rcases of_mem_lowerCase h with h | ⟨x, hx, -, -, rfl⟩
  · have hge := hspecial c h
    omega
  · rwa [← eq_of_lowerChar hpos hlt rfl]

end BucketAccess.Text
