import BucketAccess.Time.Calendar
import Mathlib

/-!
# The calendar goes on day by day

The date of a day is worked out from its number alone. It is one that the Gregorian rule has, and the
date of the next day is the one that the rule has next: so later days have later dates, across the
ends of months, years and centuries.
-/

namespace BucketAccess

attribute [ext] Date

namespace Date

/-! ## Years and months -/

/-- Every fourth year, except three hundredths out of four. -/
def IsLeap (year : Int) : Prop := year % 4 = 0 ∧ (year % 100 ≠ 0 ∨ year % 400 = 0)

instance : DecidablePred IsLeap := fun _ => inferInstanceAs (Decidable (_ ∧ _))

def monthLength (year : Int) (month : Nat) : Nat :=
  if month = 2 then (if IsLeap year then 29 else 28)
  else if month ∈ [4, 6, 9, 11] then 30
  else 31

structure Valid (d : Date) : Prop where
  one_le_month : 1 ≤ d.month
  month_le : d.month ≤ 12
  one_le_day : 1 ≤ d.day
  day_le : d.day ≤ monthLength d.year d.month

/-- The day after a day. -/
def next (d : Date) : Date :=
  if d.day < monthLength d.year d.month then { d with day := d.day + 1 }
  else if d.month < 12 then ⟨d.year, d.month + 1, 1⟩
  else ⟨d.year + 1, 1, 1⟩

/-! ## Years from March -/

def yearLength (year : Int) : Nat := if IsLeap year then 366 else 365

theorem yearLength_of_isLeap {year : Int} (h : IsLeap year) : yearLength year = 366 := if_pos h

theorem yearLength_of_not_isLeap {year : Int} (h : ¬ IsLeap year) : yearLength year = 365 :=
  if_neg h

/-- The days from the first of March of the year 0 to that of another year. -/
def marchDays (year : Int) : Int := 365 * year + year / 4 - year / 100 + year / 400

/-- The year that begins in March has the last day of February of the next year. -/
theorem marchDays_succ (year : Int) :
    marchDays (year + 1) = marchDays year + yearLength (year + 1) := by
  unfold marchDays
  by_cases h : IsLeap (year + 1)
  · rw [yearLength_of_isLeap h]
    unfold IsLeap at h
    omega
  · rw [yearLength_of_not_isLeap h]
    unfold IsLeap at h
    omega

theorem yearLength_bounds (year : Int) : 365 ≤ yearLength year ∧ yearLength year ≤ 366 := by
  unfold yearLength
  split <;> decide

theorem yearLength_pos (year : Int) : 0 < yearLength year :=
  Nat.lt_of_lt_of_le (by decide) (yearLength_bounds year).1

/-- The date of a day of the year that begins in March. -/
def ofMarch (year : Int) (dayOfYear : Nat) : Date :=
  let fifth := (5 * dayOfYear + 2) / 153
  let month := if fifth < 10 then fifth + 3 else fifth - 9
  ⟨year + (if month ≤ 2 then 1 else 0), month, dayOfYear - (153 * fifth + 2) / 5 + 1⟩

/-- A day of the cycle by the hundreds, the fours and the single years before it. -/
theorem exists_parts {n : Nat} (h : n < 146097) : ∃ hundreds fours years day : Nat,
    hundreds ≤ 3 ∧ fours ≤ 24 ∧ years ≤ 3 ∧ day ≤ 365 ∧
    (day = 365 → years = 3 ∧ (fours = 24 → hundreds = 3)) ∧
    n = 36524 * hundreds + 1461 * fours + 365 * years + day := by
  obtain ⟨hundreds, hhundreds⟩ : ∃ k, k = min (n / 36524) 3 := ⟨_, rfl⟩
  obtain ⟨rest, hrest⟩ : ∃ k, k = n - 36524 * hundreds := ⟨_, rfl⟩
  obtain ⟨years, hyears⟩ : ∃ k, k = min (rest % 1461 / 365) 3 := ⟨_, rfl⟩
  refine ⟨hundreds, rest / 1461, years, rest % 1461 - 365 * years, ?_, ?_, ?_, ?_, ?_, ?_⟩ <;> omega

theorem yearOfCycle_eq {hundreds fours years day : Nat} (hh : hundreds ≤ 3) (hf : fours ≤ 24)
    (hy : years ≤ 3) (hd : day ≤ 365)
    (hlast : day = 365 → years = 3 ∧ (fours = 24 → hundreds = 3)) :
    yearOfCycle (36524 * hundreds + 1461 * fours + 365 * years + day) =
      100 * hundreds + 4 * fours + years := by
  unfold yearOfCycle
  generalize hn : 36524 * hundreds + 1461 * fours + 365 * years + day = n
  by_cases hday : day = 365
  case pos =>
    obtain ⟨rfl, hcentury⟩ := hlast hday
    have hfours : n / 1460 = 25 * hundreds + fours + 1 := by omega
    by_cases hfour : fours = 24
    case pos =>
      have hend := hcentury hfour
      subst hfour hend hday hn
      rfl
    case neg =>
      have hhundreds : n / 36524 = hundreds := by omega
      have hcycle : n / 146096 = 0 := by omega
      rw [hfours, hhundreds, hcycle]
      omega
  case neg =>
    have hhundreds : n / 36524 = hundreds := by omega
    have hcycle : n / 146096 = 0 := by omega
    rw [hhundreds, hcycle]
    by_cases hfour : 24 * hundreds + fours + 365 * years + day < 1460
    case pos =>
      have hfours : n / 1460 = 25 * hundreds + fours := by omega
      rw [hfours]
      omega
    case neg =>
      have hfours : n / 1460 = 25 * hundreds + fours + 1 := by omega
      rw [hfours]
      omega

theorem yearOfCycle_spec {n : Nat} (h : n < 146097) : ∃ day : Nat,
    n - (365 * yearOfCycle n + yearOfCycle n / 4 - yearOfCycle n / 100) = day ∧
    day < yearLength (yearOfCycle n + 1) ∧ (n : Int) = marchDays (yearOfCycle n) + day := by
  obtain ⟨hundreds, fours, years, day, hh, hf, hy, hd, hlast, hparts⟩ := exists_parts h
  have hyear := yearOfCycle_eq hh hf hy hd hlast
  rw [← hparts] at hyear
  have hfours : yearOfCycle n / 4 = 25 * hundreds + fours := by omega
  have hhundreds : yearOfCycle n / 100 = hundreds := by omega
  refine ⟨day, by omega, ?_, ?_⟩
  · by_cases hleap : IsLeap (yearOfCycle n + 1)
    · rw [yearLength_of_isLeap hleap]
      omega
    · rw [yearLength_of_not_isLeap hleap]
      unfold IsLeap at hleap
      omega
  · unfold marchDays
    omega

/-- The leap rule comes back with each cycle. -/
theorem yearLength_add_cycles (year cycles : Int) :
    yearLength (year + cycles * 400) = yearLength year := by
  have hleap : IsLeap (year + cycles * 400) ↔ IsLeap year := by
    unfold IsLeap
    omega
  unfold yearLength
  simp only [hleap]

theorem marchDays_add_cycles (year cycles : Int) :
    marchDays (year + cycles * 400) = marchDays year + 146097 * cycles := by
  unfold marchDays
  omega

/-- Each day is one of a year that begins in March. -/
theorem exists_march (days : Int) : ∃ (year : Int) (day : Nat), day < yearLength (year + 1) ∧
    days + 719468 = marchDays year + day ∧ ofDays days = ofMarch year day := by
  obtain ⟨cycles, hcycles⟩ : ∃ k, (days + 719468).fdiv 146097 = k := ⟨_, rfl⟩
  obtain ⟨n, hn⟩ : ∃ n, ((days + 719468).fmod 146097).toNat = n := ⟨_, rfl⟩
  have hdiv : (days + 719468).fdiv 146097 = (days + 719468) / 146097 :=
    Int.fdiv_eq_ediv_of_nonneg _ (by decide)
  have hmod : (days + 719468).fmod 146097 = (days + 719468) % 146097 :=
    Int.fmod_eq_emod_of_nonneg _ (by decide)
  have hsum : days + 719468 = 146097 * cycles + n := by omega
  obtain ⟨day, hday, hof, hparts⟩ := yearOfCycle_spec (n := n) (by omega)
  refine ⟨yearOfCycle n + cycles * 400, day, ?_, ?_, ?_⟩
  · rwa [add_right_comm, yearLength_add_cycles]
  · rw [marchDays_add_cycles]
    omega
  · simp only [ofDays, ofMarch, hcycles, hn, hday]

theorem strictMono_marchDays : StrictMono marchDays := by
  refine strictMono_int_of_lt_succ fun year => ?_
  have hpos := yearLength_pos (year + 1)
  rw [marchDays_succ]
  omega

section

variable {year year' : Int} {day day' : Nat}

theorem marchDays_add_lt (h : day < yearLength (year + 1)) (hlt : year < year') :
    marchDays year + day < marchDays year' + day' := by
  have hmono := strictMono_marchDays.monotone (show year + 1 ≤ year' by omega)
  rw [marchDays_succ] at hmono
  omega

/-- Each day is one of one such year only. -/
theorem march_unique (h : day < yearLength (year + 1)) (h' : day' < yearLength (year' + 1))
    (hsum : marchDays year + day = marchDays year' + day') : year = year' ∧ day = day' := by
  rcases lt_trichotomy year year' with hlt | rfl | hlt
  · exact absurd hsum (marchDays_add_lt h hlt).ne
  · exact ⟨rfl, by omega⟩
  · exact absurd hsum (marchDays_add_lt h' hlt).ne'

/-! ## Months from March -/

/-- The days from the first of March to the beginning of a month, by its place after March. -/
def monthStart (place : Nat) : Nat := (153 * place + 2) / 5

/-- The number of a month, by its place after March. -/
def monthAt (place : Nat) : Nat := if place < 10 then place + 3 else place - 9

/-- The year of a month in the year that begins in March. -/
def yearAt (year : Int) (place : Nat) : Int := year + if monthAt place ≤ 2 then 1 else 0

theorem ofMarch_eq {place : Nat} (h : monthStart place ≤ day) (h' : day < monthStart (place + 1)) :
    ofMarch year day = ⟨yearAt year place, monthAt place, day - monthStart place + 1⟩ := by
  have hplace : (5 * day + 2) / 153 = place := by
    unfold monthStart at h h'
    omega
  simp only [ofMarch, hplace]
  rfl

theorem monthLength_eq (year : Int) {place : Nat} (h : place < 11) :
    monthLength (yearAt year place) (monthAt place) = monthStart (place + 1) - monthStart place := by
  interval_cases place <;> rfl

theorem monthLength_february (year : Int) : monthLength (yearAt year 11) (monthAt 11) =
    yearLength (year + 1) - monthStart 11 := by
  show (if IsLeap (year + 1) then 29 else 28) = (if IsLeap (year + 1) then 366 else 365) - 337
  split <;> rfl

/-- The month of a day. -/
theorem exists_place (h : day < yearLength (year + 1)) : ∃ place ≤ 11,
    monthStart place ≤ day ∧ day < monthStart (place + 1) ∧
      day < monthStart place + monthLength (yearAt year place) (monthAt place) := by
  have hyear := yearLength_bounds (year + 1)
  obtain ⟨place, hplace⟩ : ∃ place, (5 * day + 2) / 153 = place := ⟨_, rfl⟩
  have hstart : monthStart place ≤ day ∧ day < monthStart (place + 1) := by
    unfold monthStart
    omega
  refine ⟨place, by omega, hstart.1, hstart.2, ?_⟩
  rcases Nat.lt_or_eq_of_le (show place ≤ 11 by omega) with hlt | rfl
  · rw [monthLength_eq year hlt]
    omega
  · rw [monthLength_february]
    omega

/-! ## One day after another -/

theorem valid_ofMarch (h : day < yearLength (year + 1)) : (ofMarch year day).Valid := by
  obtain ⟨place, hplace, hstart, hend, hlength⟩ := exists_place h
  have hmonth : 1 ≤ monthAt place ∧ monthAt place ≤ 12 := by
    unfold monthAt
    split <;> omega
  rw [ofMarch_eq hstart hend]
  exact ⟨hmonth.1, hmonth.2, Nat.le_add_left 1 _, by simp only; omega⟩

/-- The first day of the next month comes after the last of a month. -/
theorem next_of_last {place : Nat} (h : place < 11) {d : Date} (hyear : d.year = yearAt year place)
    (hmonth : d.month = monthAt place) (hday : d.day = monthLength d.year d.month) :
    d.next = ⟨yearAt year (place + 1), monthAt (place + 1), 1⟩ := by
  unfold next
  rw [if_neg (by omega), hyear, hmonth]
  interval_cases place <;> simp [yearAt, monthAt]

theorem ofMarch_next (h : day + 1 < yearLength (year + 1)) :
    ofMarch year (day + 1) = (ofMarch year day).next := by
  obtain ⟨place, hplace, hstart, hend, hlength⟩ := exists_place h
  rw [ofMarch_eq hstart hend]
  by_cases hsame : monthStart place ≤ day
  case pos =>
    rw [ofMarch_eq hsame (Nat.lt_of_succ_lt hend), next, if_pos (by simp only; omega)]
    simp only
    congr 1
    omega
  case neg =>
    -- The day after is the first of its month, which is not the first of the year's.
    have hfirst : monthStart place = day + 1 := by omega
    obtain ⟨before, rfl⟩ : ∃ before, place = before + 1 := by
      refine Nat.exists_eq_succ_of_ne_zero fun hzero => ?_
      rw [hzero] at hfirst
      cases hfirst
    have hbefore : monthStart before ≤ day := by
      unfold monthStart at hfirst ⊢
      omega
    have hmonth := monthLength_eq year (show before < 11 by omega)
    rw [ofMarch_eq hbefore (by omega), next_of_last (by omega) rfl rfl (by simp only; omega),
      hfirst, Nat.sub_self]

theorem ofMarch_last (h : day + 1 = yearLength (year + 1)) :
    ofMarch (year + 1) 0 = (ofMarch year day).next := by
  have hyear := yearLength_bounds (year + 1)
  have hstart : monthStart 11 = 337 := rfl
  have hend : monthStart (11 + 1) = 367 := rfl
  have hlast : ofMarch year day = ⟨year + 1, 2, day - monthStart 11 + 1⟩ :=
    ofMarch_eq (show monthStart 11 ≤ day by omega) (by omega)
  have hfirst : ofMarch (year + 1) 0 = ⟨year + 1, 3, 1⟩ := by simp [ofMarch]
  have hlength : monthLength (year + 1) 2 = yearLength (year + 1) - monthStart 11 :=
    monthLength_february year
  rw [hfirst, hlast, next, if_neg (by simp only; omega)]
  rfl

end

/-- The dates follow one another. -/
theorem ofDays_succ (days : Int) : ofDays (days + 1) = (ofDays days).next := by
  obtain ⟨year, day, hday, hsum, hdate⟩ := exists_march days
  obtain ⟨year', day', hday', hsum', hdate'⟩ := exists_march (days + 1)
  rw [hdate, hdate']
  by_cases hnext : day + 1 < yearLength (year + 1)
  case pos =>
    obtain ⟨rfl, rfl⟩ := march_unique hnext hday' (by omega)
    exact ofMarch_next hnext
  case neg =>
    have hyear := marchDays_succ year
    obtain ⟨rfl, rfl⟩ := march_unique (yearLength_pos (year + 1 + 1)) hday' (by omega)
    exact ofMarch_last (by omega)

example : ofDays 0 = ⟨1970, 1, 1⟩ := by decide

theorem valid_ofDays (days : Int) : (ofDays days).Valid := by
  obtain ⟨year, day, hday, -, hdate⟩ := exists_march days
  rw [hdate]
  exact valid_ofMarch hday

/-! ## Order -/

/-- Dates in order: by year, month and day. -/
def key (d : Date) : Int ×ₗ Nat ×ₗ Nat := toLex (d.year, toLex (d.month, d.day))

theorem key_lt_iff {a b : Date} : a.key < b.key ↔ a.year < b.year ∨ a.year = b.year ∧
    (a.month < b.month ∨ a.month = b.month ∧ a.day < b.day) := by
  unfold key
  rw [Prod.Lex.toLex_lt_toLex, Prod.Lex.toLex_lt_toLex]

theorem key_inj {a b : Date} : a.key = b.key ↔ a = b := by
  unfold key
  rw [toLex_inj, Prod.mk.injEq, toLex_inj, Prod.mk.injEq, Date.ext_iff]

theorem key_lt_next (d : Date) : d.key < d.next.key := by
  rw [key_lt_iff]
  unfold next
  split
  · exact .inr ⟨rfl, .inr ⟨rfl, Nat.lt_succ_self _⟩⟩
  · split
    · exact .inr ⟨rfl, .inl (Nat.lt_succ_self _)⟩
    · exact .inl (Int.lt_succ _)

/-- Later days have later dates. -/
theorem strictMono_key_ofDays : StrictMono fun days => (ofDays days).key := by
  refine strictMono_int_of_lt_succ fun days => ?_
  rw [ofDays_succ]
  exact key_lt_next _

end Date

end BucketAccess
