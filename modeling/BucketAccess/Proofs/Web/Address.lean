import BucketAccess.Proofs.Text.Digits
import BucketAccess.Proofs.Text.Pieces
import BucketAccess.Web.Host
import Mathlib.Algebra.Group.Nat.Defs
import Mathlib.Data.List.Basic
import Mathlib.Data.List.TakeWhile

/-!
# Addresses

The one form of an IPv4 address and of an IPv6 address is read back as the address. What was read
has such a form: an IPv4 address is a number of 32 bits, an IPv6 address has eight groups of 16
bits.
-/

namespace BucketAccess.Web

/-! ## Numbers -/

theorem allDigits_toDigits {radix : Nat} (h : 1 < radix) (h16 : radix ≤ 16) (n : Nat) :
    allDigits radix (Nat.toDigits radix n) = true :=
  List.all_eq_true.2 (Numeral.isSome_digit?_of_mem_toDigits h h16 n)

theorem not_mem_toDigits {radix : Nat} (h : 1 < radix) (h16 : radix ≤ 16) {c : Char}
    (hc : Numeral.digit? radix c = none) (n : Nat) : c ∉ Nat.toDigits radix n := by
  intro hmem
  have hsome := Numeral.isSome_digit?_of_mem_toDigits h h16 n c hmem
  rw [hc] at hsome
  cases hsome

theorem dot_not_mem_decimalText (n : Nat) : '.' ∉ decimalText n :=
  not_mem_toDigits (by decide) (by decide) (by decide) n

theorem colon_not_mem_hexText (n : Nat) : ':' ∉ hexText n :=
  not_mem_toDigits (by decide) (by decide) (by decide) n

theorem dot_not_mem_hexText (n : Nat) : '.' ∉ hexText n :=
  not_mem_toDigits (by decide) (by decide) (by decide) n

theorem digit?_getD_lt {radix : Nat} (h : 0 < radix) (c : Char) :
    (Numeral.digit? radix c).getD 0 < radix := by
  cases hc : Numeral.digit? radix c with
  | none => exact h
  | some d => exact Numeral.lt_of_digit? hc

theorem foldl_lt {radix : Nat} (h : 0 < radix) (s : List Char) (n : Nat) :
    s.foldl (fun n c => n * radix + (Numeral.digit? radix c).getD 0) n <
      (n + 1) * radix ^ s.length := by
  induction s generalizing n with
  | nil => simp
  | cons c s ih =>
    have hdigit := digit?_getD_lt h c
    have hnext : n * radix + (Numeral.digit? radix c).getD 0 + 1 ≤ (n + 1) * radix := by
      rw [Nat.add_mul, Nat.one_mul]
      omega
    rw [List.foldl_cons, List.length_cons, Nat.pow_succ']
    calc _ < (n * radix + (Numeral.digit? radix c).getD 0 + 1) * radix ^ s.length := ih _
      _ ≤ (n + 1) * radix * radix ^ s.length := Nat.mul_le_mul_right _ hnext
      _ = (n + 1) * (radix * radix ^ s.length) := Nat.mul_assoc _ _ _

/-! ## IPv4 -/

theorem ipv4Number?_decimalText (n : Nat) : ipv4Number? (decimalText n) = some n := by
  by_cases hn : n = 0
  · rw [hn]
    decide
  · have hhead : ∀ s, decimalText n ≠ '0' :: s := by
      intro s hs
      have hhead : (Nat.toDigits 10 n).head? = some '0' := by
        show (decimalText n).head? = _
        rw [hs]
        rfl
      exact hn (Numeral.eq_zero_of_head?_toDigits (by decide) (by decide) hhead)
    have hdigits : allDigits 10 (decimalText n) = true :=
      allDigits_toDigits (by decide) (by decide) n
    unfold ipv4Number?
    simp only
    split
    · next h => exact absurd h Nat.toDigits_ne_nil
    · next h => exact absurd h (hhead _)
    · next h => exact absurd h (hhead _)
    · next h => exact absurd h (hhead _)
    · rw [if_pos hdigits]
      exact congrArg some (Numeral.foldl_toDigits (by decide) (by decide) n)

theorem labels_ipv4Text (a : Nat) : labels (ipv4Text a) =
    [decimalText (a / 16777216), decimalText (a / 65536 % 256), decimalText (a / 256 % 256),
      decimalText (a % 256)] := by
  have hsplit : (ipv4Text a).splitOn '.' =
      [decimalText (a / 16777216), decimalText (a / 65536 % 256), decimalText (a / 256 % 256),
        decimalText (a % 256)] := by
    unfold ipv4Text
    simp only [List.append_assoc, List.cons_append]
    rw [List.splitOn_append_cons_self_of_not_mem (dot_not_mem_decimalText _),
      List.splitOn_append_cons_self_of_not_mem (dot_not_mem_decimalText _),
      List.splitOn_append_cons_self_of_not_mem (dot_not_mem_decimalText _),
      List.splitOn_eq_singleton (dot_not_mem_decimalText _)]
  have hlast : decimalText (a % 256) ≠ [] := Nat.toDigits_ne_nil
  unfold labels
  rw [hsplit]
  simp [hlast]

theorem readIpv4_ipv4Text {a : Nat} (h : a < 4294967296) : readIpv4 (ipv4Text a) = .ok a := by
  have hparts : (labels (ipv4Text a)).mapM ipv4Number? =
      some [a / 16777216, a / 65536 % 256, a / 256 % 256, a % 256] := by
    rw [labels_ipv4Text]
    simp [ipv4Number?_decimalText]
  have hpow : Nat.pow 256 3 = 16777216 := rfl
  unfold readIpv4
  rw [hparts]
  show (if _ then _ else Except.ok ([a / 16777216, a / 65536 % 256, a / 256 % 256].foldr
    (fun n rest => n * Nat.pow 256 3 + rest / 256) 0 + a % 256)) = _
  rw [if_neg]
  · rw [List.foldr_cons, List.foldr_cons, List.foldr_cons, List.foldr_nil, hpow]
    refine congrArg Except.ok ?_
    omega
  · simp
    omega

/-- The parts before the last one leave room for it. -/
theorem foldr_le {first : List Nat} (hlength : first.length ≤ 4) (h : ∀ n ∈ first, n ≤ 255) :
    first.foldr (fun n rest => n * Nat.pow 256 3 + rest / 256) 0 + 256 ^ (4 - first.length) ≤
      4294967296 := by
  induction first with
  | nil => exact Nat.le_refl _
  | cons n r ih =>
    obtain ⟨hn, hr⟩ := List.forall_mem_cons.1 h
    rw [List.length_cons] at hlength
    have hle := ih (by omega) hr
    have hroom : 256 ^ (4 - r.length) = 256 * 256 ^ (4 - (r.length + 1)) := by
      rw [← Nat.pow_succ']
      congr 1
      omega
    rw [hroom] at hle
    have hpow : Nat.pow 256 3 = 16777216 := rfl
    rw [hpow] at hle
    rw [List.foldr_cons, List.length_cons, hpow]
    omega

theorem readIpv4_lt {domain : List Char} {a : Nat} (h : readIpv4 domain = .ok a) :
    a < 4294967296 := by
  unfold readIpv4 at h
  split at h
  · cases h
  · next parts _ =>
    simp only at h
    split at h
    · cases h
    · next hparts =>
      cases h
      simp only [not_or, Nat.not_lt, Nat.not_le, List.any_eq_true, decide_eq_true_eq, not_exists,
        not_and] at hparts
      obtain ⟨hlength, hfirst, hlast⟩ := hparts
      have hle := foldr_le (by rw [List.length_dropLast]; omega) hfirst
      rw [Nat.pow_eq] at hlast
      omega

/-! ## IPv6 -/

theorem ipv6Group?_hexText {g : Nat} (h : g < 65536) : ipv6Group? (hexText g) = some g := by
  have hne : hexText g ≠ [] := Nat.toDigits_ne_nil
  have hlength : (hexText g).length ≤ 4 :=
    (Nat.length_toDigits_le_iff (by decide) (by decide)).2 h
  have hdigits : allDigits 16 (hexText g) = true := allDigits_toDigits (by decide) (by decide) g
  unfold ipv6Group?
  rw [if_neg (by simp [hne, hdigits]; omega)]
  exact congrArg some (Numeral.foldl_toDigits (by decide) (by decide) g)

theorem ipv6Group?_lt {s : List Char} {g : Nat} (h : ipv6Group? s = some g) : g < 65536 := by
  unfold ipv6Group? at h
  split at h
  · cases h
  · next hs =>
    cases h
    simp only [not_or, Nat.not_lt] at hs
    have hlt := foldl_lt (by decide : 0 < 16) s 0
    have hpow : 16 ^ s.length ≤ 16 ^ 4 := Nat.pow_le_pow_right (by decide) hs.2.1
    omega

theorem byteNumber?_le {s : List Char} {n : Nat} (h : byteNumber? s = some n) : n ≤ 255 := by
  unfold byteNumber? at h
  split at h
  · cases h
  · simp only at h
    split at h
    · next hn =>
      cases h
      exact hn
    · cases h

theorem ipv6Groups?_lt {dotted : Bool} {pieces : List (List Char)} {groups : List Nat}
    (h : ipv6Groups? dotted pieces = some groups) : ∀ g ∈ groups, g < 65536 := by
  fun_induction ipv6Groups? dotted pieces generalizing groups with
  | case1 =>
    cases h
    simp
  | case2 s _ a b c d hbytes =>
    cases h
    have hle : ∀ n ∈ [a, b, c, d], n ≤ 255 := by
      intro n hn
      obtain ⟨piece, -, hread⟩ := Text.exists_of_mem_mapM hbytes n hn
      exact byteNumber?_le hread
    have := hle a (by simp)
    have := hle b (by simp)
    have := hle c (by simp)
    have := hle d (by simp)
    simp
    omega
  | case3 => cases h
  | case4 s =>
    obtain ⟨g, hg, rfl⟩ := Option.map_eq_some_iff.1 h
    simpa using ipv6Group?_lt hg
  | case5 s r _ ih =>
    cases hs : ipv6Group? s with
    | none => simp [hs] at h
    | some g =>
      cases hr : ipv6Groups? dotted r with
      | none => simp [hs, hr] at h
      | some rest =>
        simp only [hs, hr, Option.bind_eq_bind, Option.bind_some, Option.pure_def,
          Option.some.injEq] at h
        subst h
        exact List.forall_mem_cons.2 ⟨ipv6Group?_lt hs, ih hr⟩

/-- The groups of an address. -/
structure IsIpv6 (groups : List Nat) : Prop where
  length : groups.length = 8
  lt : ∀ g ∈ groups, g < 65536

theorem isIpv6_of_read {s : List Char} {groups : List Nat} (h : readIpv6? s = some groups) :
    IsIpv6 groups := by
  unfold readIpv6? at h
  split at h
  · obtain ⟨hread, hlength⟩ := Option.filter_eq_some_iff.1 h
    exact ⟨by simpa using hlength, ipv6Groups?_lt hread⟩
  · next before after _ =>
    cases hf : ipv6Groups? false (pieces before) with
    | none => simp [hf] at h
    | some first =>
      cases hl : ipv6Groups? true (pieces after) with
      | none => simp [hf, hl] at h
      | some last =>
        simp only [hf, hl, Option.bind_eq_bind, Option.bind_some] at h
        split at h
        · next hcount =>
          cases h
          refine ⟨by simp; omega, fun g hg => ?_⟩
          rcases List.mem_append.1 hg with hg | hg
          · rcases List.mem_append.1 hg with hg | hg
            · exact ipv6Groups?_lt hf g hg
            · rw [List.eq_of_mem_replicate hg]
              decide
          · exact ipv6Groups?_lt hl g hg
        · cases h

theorem ipv6Groups?_map_hexText {dotted : Bool} {groups : List Nat}
    (h : ∀ g ∈ groups, g < 65536) : ipv6Groups? dotted (groups.map hexText) = some groups := by
  induction groups with
  | nil => rfl
  | cons g r ih =>
    obtain ⟨hg, hr⟩ := List.forall_mem_cons.1 h
    cases r with
    | nil =>
      show ipv6Groups? dotted [hexText g] = _
      rw [ipv6Groups?, if_neg fun hdot => dot_not_mem_hexText g hdot.2, ipv6Group?_hexText hg]
      rfl
    | cons g' r =>
      rw [List.map_cons, ipv6Groups?, ipv6Group?_hexText hg, ih hr]
      · rfl
      · simp

theorem groupsText_cons_cons (g g' : Nat) (r : List Nat) :
    groupsText (g :: g' :: r) = hexText g ++ ':' :: groupsText (g' :: r) := by
  simp [groupsText, List.intercalate_cons_cons]

theorem head?_groupsText_ne (g : Nat) (r s : List Char) (gs : List Nat) :
    groupsText (g :: gs) ++ s ≠ ':' :: r := by
  intro h
  have hne : hexText g ≠ [] := Nat.toDigits_ne_nil
  have hhead : ∃ c ∈ hexText g, (groupsText (g :: gs) ++ s).head? = some c := by
    obtain ⟨c, t, ht⟩ := List.exists_cons_of_ne_nil hne
    refine ⟨c, by simp [ht], ?_⟩
    cases gs with
    | nil => simp [groupsText, ht]
    | cons g' gs => simp [groupsText_cons_cons, ht]
  obtain ⟨c, hc, hhead⟩ := hhead
  rw [h] at hhead
  cases hhead
  exact colon_not_mem_hexText g hc

theorem splitGap_append {s : List Char} (h : ':' ∉ s) (r : List Char) :
    splitGap (s ++ r) = (splitGap r).map fun p => (s ++ p.1, p.2) := by
  induction s with
  | nil => simp
  | cons c s ih =>
    rw [List.mem_cons, not_or] at h
    rw [List.cons_append, splitGap, ih h.2, Option.map_map]
    · rfl
    · rintro r' rfl
      exact absurd rfl h.1

/-- There is no gap between groups. -/
theorem splitGap_groupsText (groups : List Nat) (r : List Char) :
    splitGap (groupsText groups ++ r) =
      (splitGap r).map fun p => (groupsText groups ++ p.1, p.2) := by
  induction groups with
  | nil => simp [groupsText]
  | cons g gs ih =>
    cases gs with
    | nil =>
      have hone : groupsText [g] = hexText g := by simp [groupsText]
      rw [hone]
      exact splitGap_append (colon_not_mem_hexText g) r
    | cons g' gs =>
      have hcolon : splitGap (':' :: (groupsText (g' :: gs) ++ r)) =
          (splitGap (groupsText (g' :: gs) ++ r)).map fun p => (':' :: p.1, p.2) := by
        rw [splitGap]
        rintro r' - h
        exact head?_groupsText_ne g' r' r gs h
      rw [groupsText_cons_cons, List.append_assoc, List.cons_append,
        splitGap_append (colon_not_mem_hexText g), hcolon, ih, Option.map_map, Option.map_map]
      simp [Function.comp_def]

theorem pieces_groupsText (groups : List Nat) :
    pieces (groupsText groups) = groups.map hexText := by
  cases groups with
  | nil => rfl
  | cons g r =>
    have hne : groupsText (g :: r) ≠ [] := by
      have hhex : hexText g ≠ [] := Nat.toDigits_ne_nil
      cases r with
      | nil => simpa [groupsText] using hhex
      | cons g' r => simp [groupsText_cons_cons]
    unfold pieces
    rw [if_neg hne]
    refine List.splitOn_intercalate ':' (fun l hl => ?_) (by simp)
    obtain ⟨n, -, rfl⟩ := List.mem_map.1 hl
    exact colon_not_mem_hexText n

/-- The longest run is one of zeros. -/
theorem longestRun_spec (groups : List Nat) (place : Nat) : ∃ front back,
    groups = front ++ List.replicate (longestRun place groups).2 0 ++ back ∧
      (longestRun place groups).1 = place + front.length := by
  induction groups generalizing place with
  | nil => exact ⟨[], [], rfl, rfl⟩
  | cons g r ih =>
    unfold longestRun
    by_cases hle : (longestRun (place + 1) r).2 ≤ zeroRun (g :: r)
    · simp only [hle, ↓reduceIte]
      refine ⟨[], (g :: r).dropWhile (· = 0), ?_, rfl⟩
      have hzeros : (g :: r).takeWhile (· = 0) = List.replicate (zeroRun (g :: r)) 0 := by
        refine List.eq_replicate_iff.2 ⟨rfl, fun n hn => ?_⟩
        simpa using List.mem_takeWhile_imp hn
      rw [List.nil_append, ← hzeros, List.takeWhile_append_dropWhile]
    · simp only [hle, ↓reduceIte]
      obtain ⟨front, back, hr, hplace⟩ := ih (place + 1)
      refine ⟨g :: front, back, ?_, ?_⟩
      · rw [List.cons_append, List.cons_append, ← hr]
      · rw [hplace, List.length_cons]
        omega

theorem readIpv6?_ipv6Text {groups : List Nat} (h : IsIpv6 groups) :
    readIpv6? (ipv6Text groups) = some groups := by
  obtain ⟨front, back, hgroups, hplace⟩ := longestRun_spec groups 0
  have hlength := congrArg List.length hgroups
  rw [h.length, List.length_append, List.length_append, List.length_replicate] at hlength
  have hfront : ∀ g ∈ front, g < 65536 := fun g hg => h.lt g (by rw [hgroups]; simp [hg])
  have hback : ∀ g ∈ back, g < 65536 := fun g hg => h.lt g (by rw [hgroups]; simp [hg])
  unfold ipv6Text
  generalize longestRun 0 groups = run at *
  obtain ⟨place, length⟩ := run
  simp only at hgroups hplace hlength ⊢
  rw [Nat.zero_add] at hplace
  by_cases hrun : length < 2
  · have hgap : splitGap (groupsText groups) = none := by
      have := splitGap_groupsText groups []
      simpa [splitGap] using this
    rw [if_pos hrun]
    unfold readIpv6?
    rw [hgap]
    show (ipv6Groups? true (pieces (groupsText groups))).filter (·.length = 8) = _
    rw [pieces_groupsText, ipv6Groups?_map_hexText h.lt]
    simp [h.length]
  · have htake : groups.take place = front := by
      rw [hgroups, hplace, List.append_assoc, List.take_left]
    have hdrop : groups.drop (place + length) = back := by
      rw [hgroups, List.drop_left' (by simp [hplace])]
    have hgap : splitGap (groupsText front ++ ':' :: ':' :: groupsText back) =
        some (groupsText front, groupsText back) := by
      rw [splitGap_groupsText, splitGap]
      simp
    rw [if_neg hrun, htake, hdrop]
    unfold readIpv6?
    rw [hgap]
    show (do
      let first ← ipv6Groups? false (pieces (groupsText front))
      let last ← ipv6Groups? true (pieces (groupsText back))
      if first.length + last.length ≤ 7 then
        some (first ++ List.replicate (8 - (first.length + last.length)) 0 ++ last)
      else none) = _
    rw [pieces_groupsText, pieces_groupsText, ipv6Groups?_map_hexText hfront,
      ipv6Groups?_map_hexText hback]
    have hcount : front.length + back.length ≤ 7 := by omega
    have hzeros : 8 - (front.length + back.length) = length := by omega
    simp only [Option.bind_eq_bind, Option.bind_some]
    rw [if_pos hcount, hzeros, ← hgroups]

/-- The text of an address has hexadecimal digits and colons only. -/
theorem mem_ipv6Text {groups : List Nat} {c : Char} (h : c ∈ ipv6Text groups) :
    c = ':' ∨ (Numeral.digit? 16 c).isSome := by
  have hgroups : ∀ gs : List Nat, c ∈ groupsText gs → c = ':' ∨ (Numeral.digit? 16 c).isSome := by
    intro gs hc
    induction gs with
    | nil => simp [groupsText] at hc
    | cons g gs ih =>
      have hhex : c ∈ hexText g → (Numeral.digit? 16 c).isSome :=
        Numeral.isSome_digit?_of_mem_toDigits (by decide) (by decide) g c
      cases gs with
      | nil => exact .inr (hhex (by simpa [groupsText] using hc))
      | cons g' gs =>
        rw [groupsText_cons_cons, List.mem_append, List.mem_cons] at hc
        rcases hc with hc | hc | hc
        · exact .inr (hhex hc)
        · exact .inl hc
        · exact ih hc
  unfold ipv6Text at h
  simp only at h
  split at h
  · exact hgroups _ h
  · simp only [List.mem_append, List.mem_cons] at h
    rcases h with h | h | h | h
    · exact hgroups _ h
    · exact .inl h
    · exact .inl h
    · exact hgroups _ h

/-! ## In brackets -/

/-- The one form of an address in brackets. -/
theorem readBracketed_ok {s host : List Char} (h : readBracketed s = .ok host) :
    ∃ groups, IsIpv6 groups ∧ host = '[' :: (ipv6Text groups ++ [']']) := by
  unfold readBracketed at h
  simp only at h
  split at h
  · split at h
    · next groups hread =>
      cases h
      exact ⟨groups, isIpv6_of_read hread, rfl⟩
    · cases h
  · cases h

theorem readBracketed_ipv6Text {groups : List Nat} (h : IsIpv6 groups) :
    readBracketed ('[' :: (ipv6Text groups ++ [']'])) =
      .ok ('[' :: (ipv6Text groups ++ [']'])) := by
  unfold readBracketed
  simp [readIpv6?_ipv6Text h]

end BucketAccess.Web
