import BucketAccess.Proofs.Text.Pieces
import BucketAccess.Web.Punycode
import Mathlib.Data.List.Nodup
import Mathlib.Data.List.Sort
import Mathlib.Data.List.TakeWhile
import Mathlib.Tactic.Ring

/-!
# Texts read back from Punycode

A text of at most a thousand characters that are not all ASCII is read back from its Punycode. The
reader keeps in step with the writer: after the digits that are written so far, its text has the
characters that the writer has passed up to the code in hand, and of those ahead the ones below that
code; and the number that comes next counts from where the reader is to where the writer is.
-/

namespace BucketAccess.Web.Punycode

/-! ## Digits -/

theorem threshold_le (bias position : Nat) : threshold bias position ≤ 26 := by
  unfold threshold
  split
  · decide
  · split
    · exact Nat.le_refl 26
    · omega

theorem digit?_digit : ∀ d < 36, digit? (digit d) = some d := by decide

theorem isSome_digit?_digits (bias position n : Nat) :
    ∀ c ∈ digits bias position n, (digit? c).isSome := by
  have hdigit : ∀ d < 36, (digit? (digit d)).isSome := by
    intro d hd
    rw [digit?_digit d hd]
    rfl
  have hle := threshold_le bias position
  fun_induction digits bias position n with
  | case1 position n t hlt =>
    exact List.forall_mem_singleton.2 (hdigit _ (by omega))
  | case2 position n t hlt ih =>
    have hmod : (n - t) % (36 - t) < 36 - t := Nat.mod_lt _ (by omega)
    exact List.forall_mem_cons.2 ⟨hdigit _ (by omega), ih (threshold_le bias _)⟩

/-- The weight of a digit that is not the last one stays within the bound. Far from the bias the
threshold is high, and with it the digit; near it all the weights so far are powers of 35. -/
theorem weight_le {bias position weight n : Nat}
    (hnear : position ≤ bias + 8 → ∃ k, weight = 35 ^ k) (hn : threshold bias position ≤ n)
    (hle : n * weight < 1200000000) : weight * (36 - threshold bias position) ≤ bound := by
  have hpos := threshold_pos bias position
  by_cases h : position ≤ bias + 8
  · obtain ⟨k, rfl⟩ := hnear h
    have hself : 1 * 35 ^ k ≤ n * 35 ^ k := Nat.mul_le_mul_right _ (by omega)
    have hk : k < 6 := by
      by_contra hk
      have hpow : 35 ^ 6 ≤ 35 ^ k := Nat.pow_le_pow_right (by decide) (by omega)
      omega
    have hpow : 35 ^ k ≤ 35 ^ 5 := Nat.pow_le_pow_right (by decide) (by omega)
    calc 35 ^ k * (36 - threshold bias position) ≤ 35 ^ 5 * 35 :=
          Nat.mul_le_mul hpow (by omega)
      _ ≤ bound := by decide
  · have hfar : 9 ≤ threshold bias position := by
      unfold threshold
      split
      · omega
      · split <;> omega
    have hmul : 9 * weight ≤ n * weight := Nat.mul_le_mul_right _ (by omega)
    calc weight * (36 - threshold bias position) ≤ weight * 27 :=
          Nat.mul_le_mul_left _ (by omega)
      _ ≤ bound := by
        unfold bound
        omega

theorem step_last {p : Progress} {d : Nat} (hd : d < threshold p.bias p.position)
    (hsum : p.sum + d * p.weight ≤ bound) :
    p.step (digit d) = p.insert (p.sum + d * p.weight) := by
  have hle := threshold_le p.bias p.position
  unfold Progress.step
  rw [digit?_digit d (by omega), Option.bind_eq_bind, Option.bind_some]
  dsimp only
  rw [if_neg (by omega), if_pos hd]

theorem step_more {p : Progress} {d : Nat} (hd : d < 36) (ht : threshold p.bias p.position ≤ d)
    (hsum : p.sum + d * p.weight ≤ bound)
    (hweight : p.weight * (36 - threshold p.bias p.position) ≤ bound) :
    p.step (digit d) = some { p with
      sum := p.sum + d * p.weight
      weight := p.weight * (36 - threshold p.bias p.position)
      position := p.position + 36 } := by
  unfold Progress.step
  rw [digit?_digit d hd, Option.bind_eq_bind, Option.bind_some]
  dsimp only
  rw [if_neg (by omega), if_neg (by omega), if_neg (by omega)]

/-- The digits of a number put in what the number says. -/
theorem foldlM_digits (bias position n : Nat) (p : Progress) (hbias : p.bias = bias)
    (hposition : p.position = position) (hnear : position ≤ bias + 8 → ∃ k, p.weight = 35 ^ k)
    (hsum : p.sum + n * p.weight < 1200000000) :
    (digits bias position n).foldlM Progress.step p = p.insert (p.sum + n * p.weight) := by
  revert p
  have hle := threshold_le bias position
  have hpos := threshold_pos bias position
  fun_induction digits bias position n with
  | case1 position n t hlt =>
    rintro p rfl rfl - hsum
    have hbound : p.sum + n * p.weight ≤ bound := by
      unfold bound
      omega
    rw [List.foldlM_cons, step_last hlt hbound]
    cases p.insert (p.sum + n * p.weight) <;> rfl
  | case2 position n t hlt ih =>
    rintro p rfl rfl hnear hsum
    have hmod : (n - t) % (36 - t) < 36 - t := Nat.mod_lt _ (by omega)
    have hparts : n = t + (n - t) % (36 - t) + (n - t) / (36 - t) * (36 - t) := by
      have := Nat.mod_add_div' (n - t) (36 - t)
      omega
    -- what the first digit leaves of the number has the next weight
    have htotal : p.sum + n * p.weight = p.sum + (t + (n - t) % (36 - t)) * p.weight +
        (n - t) / (36 - t) * (p.weight * (36 - t)) := by
      conv => lhs; rw [hparts]
      ring
    have hbound : p.sum + (t + (n - t) % (36 - t)) * p.weight ≤ bound := by
      unfold bound
      omega
    have hweight : p.weight * (36 - t) ≤ bound :=
      weight_le (n := n) hnear (by omega) (by omega)
    have hrest := ih (threshold_le _ _) (threshold_pos _ _)
      { p with
        sum := p.sum + (t + (n - t) % (36 - t)) * p.weight
        weight := p.weight * (36 - t)
        position := p.position + 36 } rfl rfl
    rw [List.foldlM_cons, step_more (by omega) (by omega) hbound hweight, htotal]
    refine hrest (fun hnext => ?_) (htotal.symm.trans_lt hsum)
    obtain ⟨k, hk⟩ := hnear (by omega)
    have hlow : t = 1 := if_pos (by omega)
    refine ⟨k + 1, ?_⟩
    show p.weight * (36 - t) = _
    rw [hk, hlow, Nat.pow_succ]

/-! ## Reader and writer in step -/

theorem insertIdx_length_append (front back : List Char) (c : Char) :
    (front ++ back).insertIdx front.length c = front ++ c :: back := by
  induction front with
  | nil => rfl
  | cons x front ih =>
    rw [List.cons_append, List.length_cons, List.insertIdx_succ_cons, ih, List.cons_append]

/-- A number that counts to a code and a place in the text puts the character there. -/
theorem insert_eq {p : Progress} {front back : List Char} {c : Char} {total : Nat}
    (hchars : p.chars = front ++ back) (hcode : p.code ≤ c.toNat)
    (htotal : total = (c.toNat - p.code) * (p.chars.length + 1) + front.length) :
    p.insert total = some {
      chars := front ++ c :: back
      code := c.toNat
      place := front.length + 1
      bias := adapt (total - p.place) (p.chars.length + 1) (p.place == 0)
      sum := front.length + 1 } := by
  have hlength : front.length < p.chars.length + 1 := by
    rw [hchars, List.length_append]
    omega
  obtain ⟨hdiv, hmod⟩ : total / (p.chars.length + 1) = c.toNat - p.code ∧
      total % (p.chars.length + 1) = front.length := by
    refine (Nat.div_mod_unique (by omega)).2 ⟨?_, hlength⟩
    rw [htotal, Nat.mul_comm, Nat.add_comm]
  have hreached : p.code + (c.toNat - p.code) = c.toNat := by omega
  have hvalid : c.toNat.isValidChar := c.valid
  unfold Progress.insert
  dsimp only
  rw [hdiv, hmod, hreached, if_pos hvalid, Char.ofNat_toNat, hchars, insertIdx_length_append]

/-- Where a reader is that began as `start` once it has what is written so far, when the writer has
passed `before` in search of a code and has yet to pass `after`. -/
structure InStep (start : Progress) (w : Written) (code : Nat) (before after : List Char)
    (p : Progress) : Prop where
  read : w.digits.foldlM Progress.step start = some p
  sum : p.sum = p.place
  weight : p.weight = 1
  position : p.position = 36
  bias : p.bias = w.bias
  first : (p.place == 0) = w.first
  points : p.chars.length = w.points
  chars : p.chars = before.filter (·.toNat ≤ code) ++ after.filter (·.toNat < code)
  reached : p.code ≤ code
  /-- Each code in between has a place before every character so far and one at the end. -/
  distance : p.place + w.sum =
    (code - p.code) * (w.points + 1) + (before.filter (·.toNat ≤ code)).length

variable {start p : Progress} {w : Written} {code : Nat} {before after : List Char} {c : Char}

theorem InStep.points_le (h : InStep start w code before after p) :
    w.points ≤ before.length + after.length := by
  have hbefore := before.length_filter_le (·.toNat ≤ code)
  have hafter := after.length_filter_le (·.toNat < code)
  rw [← h.points, h.chars, List.length_append]
  omega

/-- The number for the character ahead is not too great to be read. -/
theorem InStep.distance_lt (h : InStep start w c.toNat before (c :: after) p)
    (hlength : before.length + (c :: after).length ≤ 1000) : p.place + w.sum < 1200000000 := by
  have hcode : c.toNat - p.code ≤ 1114111 := by
    have hvalid : c.toNat.isValidChar := c.valid
    rcases hvalid with hlt | hlt
    · omega
    · omega
  have hmul : (c.toNat - p.code) * (w.points + 1) ≤ 1114111 * 1001 :=
    Nat.mul_le_mul hcode (by have := h.points_le; omega)
  have hbefore := before.length_filter_le (·.toNat ≤ c.toNat)
  have := h.distance
  omega

theorem InStep.read_digits (h : InStep start w c.toNat before (c :: after) p)
    (hlength : before.length + (c :: after).length ≤ 1000) :
    (w.digits ++ digits w.bias 36 w.sum).foldlM Progress.step start =
      p.insert (p.place + w.sum) := by
  have htotal : p.sum + w.sum * p.weight = p.place + w.sum := by
    rw [h.sum, h.weight, Nat.mul_one]
  have hdigits := foldlM_digits w.bias 36 w.sum p h.bias h.position (fun _ => ⟨0, h.weight⟩)
    (htotal.trans_lt (h.distance_lt hlength))
  rw [List.foldlM_append, h.read, Option.bind_eq_bind, Option.bind_some, hdigits, htotal]

theorem InStep.pass_below (h : InStep start w code before (c :: after) p) (hc : c.toNat < code) :
    InStep start (w.pass code c) code (before ++ [c]) after p := by
  have hbefore : (before ++ [c]).filter (·.toNat ≤ code) =
      before.filter (·.toNat ≤ code) ++ [c] := by
    rw [List.filter_append, List.filter_cons_of_pos (by simpa using hc.le), List.filter_nil]
  unfold Written.pass
  rw [if_pos hc]
  refine { h with chars := ?_, distance := ?_ }
  · rw [h.chars, hbefore, List.filter_cons_of_pos (by simpa using hc), List.append_assoc,
      List.singleton_append]
  · have := h.distance
    rw [hbefore, List.length_append, List.length_singleton]
    dsimp only
    omega

theorem InStep.pass_above (h : InStep start w code before (c :: after) p) (hc : code < c.toNat) :
    InStep start (w.pass code c) code (before ++ [c]) after p := by
  have hbefore : (before ++ [c]).filter (·.toNat ≤ code) = before.filter (·.toNat ≤ code) := by
    rw [List.filter_append, List.filter_cons_of_neg (by simpa using hc), List.filter_nil,
      List.append_nil]
  unfold Written.pass
  rw [if_neg (by omega), if_neg (by omega)]
  refine { h with chars := ?_, distance := ?_ }
  · rw [h.chars, hbefore, List.filter_cons_of_neg (by simpa using hc.le)]
  · rw [hbefore]
    exact h.distance

/-- A character with the code in hand is written, and the reader puts it where the writer is. -/
theorem InStep.pass_here (h : InStep start w c.toNat before (c :: after) p)
    (hlength : before.length + (c :: after).length ≤ 1000) :
    ∃ p', InStep start (w.pass c.toNat c) c.toNat (before ++ [c]) after p' := by
  have hbefore : (before ++ [c]).filter (·.toNat ≤ c.toNat) =
      before.filter (·.toNat ≤ c.toNat) ++ [c] := by
    rw [List.filter_append, List.filter_cons_of_pos (by simp), List.filter_nil]
  have hchars := h.chars
  rw [List.filter_cons_of_neg (by simp)] at hchars
  have htotal := h.distance
  rw [← h.points] at htotal
  have hread := (h.read_digits hlength).trans (insert_eq hchars h.reached htotal)
  have hdelta : p.place + w.sum - p.place = w.sum := by omega
  unfold Written.pass
  rw [if_neg (by omega), if_pos rfl]
  refine ⟨_, hread, rfl, rfl, rfl, ?bias, rfl, ?points, ?chars, Nat.le_refl _, ?distance⟩
  case bias =>
    dsimp only
    rw [hdelta, h.points, h.first]
  case points =>
    dsimp only
    rw [← h.points, hchars]
    simp only [List.length_append, List.length_cons]
    omega
  case chars => rw [hbefore, List.append_assoc, List.singleton_append]
  case distance =>
    rw [hbefore, List.length_append, List.length_singleton, Nat.sub_self, Nat.zero_mul,
      Nat.zero_add, Nat.add_zero]

/-- The writer passes one character, and the reader takes what is written for it. -/
theorem InStep.pass (h : InStep start w code before (c :: after) p)
    (hlength : before.length + (c :: after).length ≤ 1000) :
    ∃ p', InStep start (w.pass code c) code (before ++ [c]) after p' := by
  rcases Nat.lt_trichotomy c.toNat code with hlt | rfl | hgt
  · exact ⟨p, h.pass_below hlt⟩
  · exact h.pass_here hlength
  · exact ⟨p, h.pass_above hgt⟩

theorem InStep.foldl_pass (h : InStep start w code before after p)
    (hlength : before.length + after.length ≤ 1000) :
    ∃ p', InStep start (after.foldl (Written.pass code) w) code (before ++ after) [] p' := by
  induction after generalizing before w p with
  | nil => exact ⟨p, (List.append_nil before).symm ▸ h⟩
  | cons c after ih =>
    obtain ⟨p', hpass⟩ := h.pass hlength
    rw [List.append_cons]
    refine ih hpass ?_
    rw [List.length_append, List.length_singleton]
    rw [List.length_cons] at hlength
    omega

/-! ## All codes -/

/-- The writer goes on with the next code, from the beginning of the text. -/
theorem InStep.next {s : List Char} (h : InStep start w code [] s p)
    (hlength : s.length ≤ 1000) :
    ∃ p', InStep start { s.foldl (Written.pass code) w with
      sum := (s.foldl (Written.pass code) w).sum + 1 } (code + 1) [] s p' := by
  obtain ⟨p', hpass⟩ := h.foldl_pass (by simpa using hlength)
  have hchars := hpass.chars
  have hdistance := hpass.distance
  have hpoints := hpass.points
  rw [List.nil_append] at hchars hdistance
  rw [List.filter_nil, List.append_nil] at hchars
  refine ⟨p', { hpass with chars := ?_, reached := ?_, distance := ?_ }⟩
  · rw [hchars, List.filter_nil, List.nil_append]
    exact List.filter_congr fun c _ => decide_eq_decide.2 Nat.lt_succ_iff.symm
  · exact Nat.le_succ_of_le hpass.reached
  · have hnext : code + 1 - p'.code = code - p'.code + 1 := by
      have := hpass.reached
      omega
    dsimp only
    rw [← hchars, hpoints] at hdistance
    rw [hnext, List.filter_nil, List.length_nil, Nat.succ_mul]
    omega

/-- Codes that no character has are passed over at once. -/
theorem InStep.skip {s : List Char} {code' : Nat} (h : InStep start w code [] s p)
    (hle : code ≤ code') (hskip : ∀ c ∈ s, c.toNat < code' → c.toNat < code) :
    InStep start { w with sum := w.sum + (code' - code) * (w.points + 1) } code' [] s p := by
  have hdistance := h.distance
  refine { h with chars := ?_, reached := ?_, distance := ?_ }
  · rw [h.chars]
    refine congrArg _ (List.filter_congr fun c hc => decide_eq_decide.2 ⟨?_, hskip c hc⟩)
    exact fun hlt => lt_of_lt_of_le hlt hle
  · exact h.reached.trans hle
  · have hsplit : code' - p.code = (code' - code) + (code - p.code) := by
      have := h.reached
      omega
    dsimp only
    rw [List.filter_nil, List.length_nil] at hdistance ⊢
    rw [hsplit, Nat.add_mul]
    omega

/-- Once all codes are written, the reader has the whole text. -/
theorem InStep.put {s : List Char} {codes : List Nat} (h : InStep start w code [] s p)
    (hlength : s.length ≤ 1000) (hsorted : codes.Pairwise (· < ·)) (hle : ∀ n ∈ codes, code ≤ n)
    (hcodes : ∀ c ∈ s, code ≤ c.toNat → c.toNat ∈ codes) :
    ∃ p', (w.put s code codes).digits.foldlM Progress.step start = some p' ∧ p'.chars = s ∧
      p'.position = 36 := by
  induction codes generalizing w code p with
  | nil =>
    refine ⟨p, h.read, ?_, h.position⟩
    rw [h.chars, List.filter_nil, List.nil_append, List.filter_eq_self]
    intro c hc
    have hlt : ¬ code ≤ c.toNat := fun hcode => List.not_mem_nil (hcodes c hc hcode)
    exact decide_eq_true (by omega)
  | cons n codes ih =>
    obtain ⟨hfirst, hsorted⟩ := List.pairwise_cons.1 hsorted
    obtain ⟨hn, -⟩ := List.forall_mem_cons.1 hle
    -- a character between the two codes would have a code that is to be written
    have hskip : ∀ c ∈ s, c.toNat < n → c.toNat < code := by
      intro c hc hlt
      by_contra hcode
      rcases List.mem_cons.1 (hcodes c hc (by omega)) with he | hmem
      · omega
      · have := hfirst _ hmem
        omega
    obtain ⟨p', hnext⟩ := (h.skip hn hskip).next hlength
    refine ih hnext hsorted (fun m hm => hfirst m hm) fun c hc hcode => ?_
    rcases List.mem_cons.1 (hcodes c hc (by omega)) with he | hmem
    · omega
    · exact hmem

/-! ## Texts -/

theorem isSome_digit?_put (s : List Char) {codes : List Nat}
    (h : ∀ x ∈ w.digits, (digit? x).isSome) :
    ∀ x ∈ (w.put s code codes).digits, (digit? x).isSome := by
  have hfold : ∀ (s : List Char) (code : Nat) (w : Written), (∀ x ∈ w.digits, (digit? x).isSome) →
      ∀ x ∈ (s.foldl (Written.pass code) w).digits, (digit? x).isSome := by
    intro s code
    induction s with
    | nil => exact fun _ h => h
    | cons c s ih =>
      refine fun w h => ih _ ?_
      unfold Written.pass
      split
      · exact h
      · split
        · exact List.forall_mem_append.2 ⟨h, isSome_digit?_digits _ _ _⟩
        · exact h
  induction codes generalizing w code with
  | nil => exact h
  | cons next codes ih =>
    rw [Written.put]
    exact ih (hfold s next _ h)

theorem nodup_eraseDups (codes : List Nat) : codes.eraseDups.Nodup := by
  induction hn : codes.length using Nat.strongRecOn generalizing codes with
  | ind n ih =>
    cases codes with
    | nil => exact List.nodup_nil
    | cons a codes =>
      rw [List.eraseDups_cons]
      have hlt : (codes.filter fun b => !b == a).length < n := by
        have := codes.length_filter_le fun b => !b == a
        rw [← hn, List.length_cons]
        omega
      refine List.nodup_cons.2 ⟨fun hmem => ?_, ih _ hlt _ rfl⟩
      simpa using (List.mem_filter.1 (List.mem_eraseDups.1 hmem)).2

theorem splitBasic_append {basic numbers : List Char} (h : ∀ x ∈ numbers, x ≠ '-') :
    splitBasic ((if basic = [] then [] else basic ++ ['-']) ++ numbers) = (basic, numbers) := by
  have hno : '-' ∉ numbers.reverse := fun hx => h _ (List.mem_reverse.1 hx) rfl
  unfold splitBasic
  by_cases hbasic : basic = []
  · rw [if_pos hbasic, List.nil_append, List.takeWhile_eq_self_iff.2 (Text.keeps_of_not_mem hno),
      List.reverse_reverse]
    simp [hbasic]
  · have hnumbers : (basic ++ ['-'] ++ numbers).reverse.takeWhile (· ≠ '-') = numbers.reverse := by
      rw [List.reverse_append, List.reverse_append, List.reverse_singleton, List.singleton_append,
        Text.takeWhile_ne_append hno]
    rw [if_neg hbasic, hnumbers, List.reverse_reverse]
    have hlength : (basic ++ ['-'] ++ numbers).length - numbers.length - 1 = basic.length := by
      simp only [List.length_append, List.length_singleton]
      omega
    have htake : (basic ++ ['-'] ++ numbers).take basic.length = basic := by
      rw [List.append_assoc, List.take_left]
    dsimp only
    rw [hlength, htake, if_neg hbasic]

def basicOf (s : List Char) : List Char := s.filter (·.toNat < 128)

/-- The codes that are to be written, in ascending order. -/
def codesOf (s : List Char) : List Nat :=
  ((s.filter (128 ≤ ·.toNat)).map Char.toNat).eraseDups.mergeSort

def writtenOf (s : List Char) : Written :=
  .put s { points := (basicOf s).length } 128 (codesOf s)

theorem encode_eq (s : List Char) : encode s =
    (if basicOf s = [] then [] else basicOf s ++ ['-']) ++ (writtenOf s).digits := by
  have hbasic : s.filter (not ∘ fun c => decide (128 ≤ c.toNat)) = basicOf s := by
    refine List.filter_congr fun c _ => ?_
    rw [Function.comp_apply, ← decide_not]
    exact decide_eq_decide.2 Nat.not_le
  unfold encode writtenOf codesOf
  rw [List.partition_eq_filter_filter, hbasic]

theorem mem_codesOf {s : List Char} {n : Nat} :
    n ∈ codesOf s ↔ ∃ c ∈ s, 128 ≤ c.toNat ∧ c.toNat = n := by
  unfold codesOf
  rw [List.mem_mergeSort, List.mem_eraseDups, List.mem_map]
  simp only [List.mem_filter, decide_eq_true_eq, and_assoc]

theorem pairwise_codesOf (s : List Char) : (codesOf s).Pairwise (· < ·) := by
  have hle := List.pairwise_mergeSort' (· ≤ ·)
    ((s.filter (128 ≤ ·.toNat)).map Char.toNat).eraseDups
  have hne : (codesOf s).Nodup := List.nodup_mergeSort.2 (nodup_eraseDups _)
  exact hle.imp₂ (fun _ _ hle hne => lt_of_le_of_ne hle hne) hne

theorem isSome_digit?_writtenOf (s : List Char) :
    ∀ x ∈ (writtenOf s).digits, (digit? x).isSome :=
  isSome_digit?_put s nofun

/-- What is written for a text, read after its ASCII characters, gives all of it. -/
theorem read_writtenOf {s : List Char} (hlength : s.length ≤ 1000) :
    ∃ p, (writtenOf s).digits.foldlM Progress.step { chars := basicOf s } = some p ∧
      p.chars = s ∧ p.position = 36 := by
  have hstart : InStep { chars := basicOf s } { points := (basicOf s).length } 128 [] s
      { chars := basicOf s } :=
    ⟨rfl, rfl, rfl, rfl, rfl, rfl, rfl, rfl, Nat.le_refl _, by simp⟩
  refine hstart.put hlength (pairwise_codesOf s) ?_ fun c hc hle => mem_codesOf.2 ⟨c, hc, hle, rfl⟩
  intro n hn
  obtain ⟨c, -, hle, rfl⟩ := mem_codesOf.1 hn
  exact hle

/-- A text that is not all ASCII is read back from its Punycode. -/
theorem decode?_encode {s : List Char} (hlength : s.length ≤ 1000)
    (hs : ∃ c ∈ s, 128 ≤ c.toNat) : decode? (encode s) = some s := by
  obtain ⟨p, hread, hchars, hposition⟩ := read_writtenOf hlength
  have hhyphen : ∀ x ∈ (writtenOf s).digits, x ≠ '-' := by
    rintro x hx rfl
    exact absurd (isSome_digit?_writtenOf s _ hx) (by decide)
  have hne : (writtenOf s).digits ≠ [] := by
    intro hnil
    rw [hnil] at hread
    obtain rfl := Option.some.inj hread
    obtain ⟨c, hc, hle⟩ := hs
    rw [← hchars] at hc
    have hlt := (List.mem_filter.1 hc).2
    rw [decide_eq_true_eq] at hlt
    omega
  have hascii : (basicOf s).any (128 ≤ ·.toNat) = false := by
    unfold basicOf
    simp
  unfold decode?
  rw [encode_eq, splitBasic_append hhyphen]
  dsimp only
  rw [hascii, hread]
  simp [hne, hposition, hchars]

/-- Punycode is written with what the text has in ASCII, hyphens and digits. -/
theorem mem_encode {s : List Char} {c : Char} (h : c ∈ encode s) :
    c ∈ s ∧ c.toNat < 128 ∨ c = '-' ∨ (digit? c).isSome := by
  rw [encode_eq, List.mem_append] at h
  rcases h with h | h
  · split at h
    · cases h
    · rcases List.mem_append.1 h with h | h
      · exact .inl (by simpa [basicOf] using h)
      · exact .inr (.inl (List.mem_singleton.1 h))
  · exact .inr (.inr (isSome_digit?_writtenOf s c h))

end BucketAccess.Web.Punycode
