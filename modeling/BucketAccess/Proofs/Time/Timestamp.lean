import BucketAccess.Proofs.Text.Digits
import BucketAccess.Proofs.Text.Utf8
import BucketAccess.Proofs.Time.Calendar
import BucketAccess.Time.Instant
import Mathlib.Data.List.Forall2

/-!
# Timestamps

The bytes of timestamps are in the order of the instants, as long as years have four digits: each
number has a width of its own, and what is written first counts for more. A timestamp tells tenths
of seconds apart, except within a leap second.
-/

namespace BucketAccess.Instant

instance : LE Instant where
  le a b := a.secs < b.secs ∨ a.secs = b.secs ∧ a.nanos ≤ b.nanos

theorem le_def {a b : Instant} : a ≤ b ↔ a.secs < b.secs ∨ a.secs = b.secs ∧ a.nanos ≤ b.nanos :=
  Iff.rfl

/-- A year that four digits write. -/
def HasShortYear (t : Instant) : Prop := 0 ≤ t.date.year ∧ t.date.year ≤ 9999

instance : DecidablePred HasShortYear := fun _ => inferInstanceAs (Decidable (_ ∧ _))

/-- The number of the tenth of a second since 1970. -/
def tenths (t : Instant) : Int := (t.secs * 1000000000 + t.nanos) / 100000000

/-! ## Shape -/

/-- What may stand at a place of a shape: a digit where the place names a unit of time, and otherwise
the place itself. -/
def Fits (place c : Char) : Prop :=
  if place ∈ ['Y', 'M', 'D', 'h', 'm', 's'] then c.isDigit = true else c = place

def shape : List Char := "YYYY-MM-DDThh:mm:ss.sZ".toList

theorem fits_fixed {place : Char} (h : place ∈ ['Y', 'M', 'D', 'h', 'm', 's']) (width n : Nat) :
    List.Forall₂ Fits (List.replicate width place) (Numeral.fixed width n) := by
  rw [List.forall₂_iff_get]
  refine ⟨by rw [List.length_replicate, Numeral.length_fixed], fun i hi hi' => ?_⟩
  rw [List.get_eq_getElem, List.getElem_replicate, Fits, if_pos h]
  exact Numeral.isDigit_of_isSome_digit?
    (Numeral.isSome_digit?_of_mem_fixed (List.get_mem _ _))

theorem timestamp_eq {t : Instant} (h : t.HasShortYear) : t.timestamp =
    Numeral.fixed 4 t.date.year.toNat ++ '-' :: (Numeral.fixed 2 t.date.month ++
      '-' :: (Numeral.fixed 2 t.date.day ++ 'T' :: (Numeral.fixed 2 t.hour ++
        ':' :: (Numeral.fixed 2 t.minute ++ ':' :: (Numeral.fixed 2 t.second ++
          '.' :: (Numeral.fixed 1 t.tenth ++ ['Z'])))))) := by
  have hyear : yearDigits t.date.year = Numeral.fixed 4 t.date.year.toNat := if_pos h
  simp only [timestamp, hyear, List.append_assoc, List.cons_append]

theorem fits_timestamp {t : Instant} (h : t.HasShortYear) :
    List.Forall₂ Fits shape t.timestamp := by
  have hshape : shape = List.replicate 4 'Y' ++ '-' :: (List.replicate 2 'M' ++
      '-' :: (List.replicate 2 'D' ++ 'T' :: (List.replicate 2 'h' ++ ':' :: (List.replicate 2 'm' ++
        ':' :: (List.replicate 2 's' ++ '.' :: (List.replicate 1 's' ++ ['Z'])))))) := by
    decide +kernel
  rw [timestamp_eq h, hshape]
  refine List.rel_append (fits_fixed (by decide) 4 _) (.cons rfl ?_)
  refine List.rel_append (fits_fixed (by decide) 2 _) (.cons rfl ?_)
  refine List.rel_append (fits_fixed (by decide) 2 _) (.cons rfl ?_)
  refine List.rel_append (fits_fixed (by decide) 2 _) (.cons rfl ?_)
  refine List.rel_append (fits_fixed (by decide) 2 _) (.cons rfl ?_)
  refine List.rel_append (fits_fixed (by decide) 2 _) (.cons rfl ?_)
  exact List.rel_append (fits_fixed (by decide) 1 _) (.cons rfl .nil)

theorem ascii_of_fits {places s : List Char} (h : List.Forall₂ Fits places s)
    (hplaces : ∀ place ∈ places, place.toNat < 0x80) : ∀ c ∈ s, c.toNat < 0x80 := by
  induction h with
  | nil => exact fun c hc => absurd hc List.not_mem_nil
  | @cons place c places s hfits _ ih =>
    obtain ⟨hplace, hplaces⟩ := List.forall_mem_cons.1 hplaces
    refine List.forall_mem_cons.2 ⟨?_, ih hplaces⟩
    unfold Fits at hfits
    split at hfits
    · simp only [Char.isDigit, Bool.and_eq_true, decide_eq_true_eq, ge_iff_le,
        UInt32.le_iff_toNat_le] at hfits
      exact Nat.lt_of_le_of_lt hfits.2 (by decide)
    · rwa [hfits]

theorem length_encode_timestamp {t : Instant} (h : t.HasShortYear) :
    (Utf8.encode t.timestamp).length = 22 := by
  have hshape : (shape.all fun place => place.toNat < 0x80) = true ∧ shape.length = 22 := by
    decide +kernel
  have hascii := ascii_of_fits (fits_timestamp h) (by simpa using hshape.1)
  rw [Utf8.encode_of_ascii hascii, List.length_map, ← (fits_timestamp h).length_eq, hshape.2]

/-! ## Order -/

/-- The time of day that a timestamp writes. -/
def clock (t : Instant) : Nat ×ₗ Nat ×ₗ Nat ×ₗ Nat :=
  toLex (t.hour, toLex (t.minute, toLex (t.second, t.tenth)))

/-- All that a timestamp writes, the date before the time of day. -/
def reading (t : Instant) : (Int ×ₗ Nat ×ₗ Nat) ×ₗ (Nat ×ₗ Nat ×ₗ Nat ×ₗ Nat) :=
  toLex (t.date.key, t.clock)

theorem clock_le_iff {a b : Instant} : a.clock ≤ b.clock ↔ a.hour < b.hour ∨ a.hour = b.hour ∧
    (a.minute < b.minute ∨ a.minute = b.minute ∧
      (a.second < b.second ∨ a.second = b.second ∧ a.tenth ≤ b.tenth)) := by
  unfold clock
  rw [Prod.Lex.toLex_le_toLex, Prod.Lex.toLex_le_toLex, Prod.Lex.toLex_le_toLex]

/-- The seconds of a moment by its day and the time of that day. -/
theorem secs_eq (t : Instant) :
    t.secs = 86400 * t.secs.fdiv 86400 + t.secondOfDay ∧ t.secondOfDay < 86400 := by
  have hmod : t.secs.fmod 86400 = t.secs % 86400 := Int.fmod_eq_emod_of_nonneg _ (by decide)
  have hdiv : t.secs.fdiv 86400 = t.secs / 86400 := Int.fdiv_eq_ediv_of_nonneg _ (by decide)
  unfold secondOfDay
  omega

/-- Two digits are enough for the time of day, and one for the tenth. -/
theorem clock_lt (t : Instant) :
    t.hour < 100 ∧ t.minute < 100 ∧ t.second < 100 ∧ t.tenth < 10 := by
  have hday := t.secs_eq.2
  have hnanos := t.nanos_lt
  unfold hour minute second tenth
  omega

theorem date_lt (t : Instant) : t.date.month < 100 ∧ t.date.day < 100 := by
  have hvalid := Date.valid_ofDays (t.secs.fdiv 86400)
  have hmonth := hvalid.month_le
  have hday := hvalid.day_le
  unfold Date.monthLength at hday
  unfold date
  split_ifs at hday <;> omega

/-- The bytes of timestamps are compared number by number. -/
theorem encode_timestamp_le_iff {a b : Instant} (ha : a.HasShortYear) (hb : b.HasShortYear) :
    Utf8.encode a.timestamp ≤ Utf8.encode b.timestamp ↔ a.reading ≤ b.reading := by
  obtain ⟨hhour, hminute, hsecond, htenth⟩ := a.clock_lt
  obtain ⟨hhour', hminute', hsecond', htenth'⟩ := b.clock_lt
  obtain ⟨hmonth, hday⟩ := a.date_lt
  obtain ⟨hmonth', hday'⟩ := b.date_lt
  unfold HasShortYear at ha hb
  have hyear : a.date.year.toNat < 10 ^ 4 ∧ b.date.year.toNat < 10 ^ 4 := by omega
  rw [timestamp_eq ha, timestamp_eq hb,
    Numeral.encode_fixed_le_iff hyear.1 hyear.2, Utf8.encode_cons_le_cons,
    Numeral.encode_fixed_le_iff hmonth hmonth', Utf8.encode_cons_le_cons,
    Numeral.encode_fixed_le_iff hday hday', Utf8.encode_cons_le_cons,
    Numeral.encode_fixed_le_iff hhour hhour', Utf8.encode_cons_le_cons,
    Numeral.encode_fixed_le_iff hminute hminute', Utf8.encode_cons_le_cons,
    Numeral.encode_fixed_le_iff hsecond hsecond', Utf8.encode_cons_le_cons,
    Numeral.encode_fixed_le_iff htenth htenth', Utf8.encode_cons_le_cons]
  have hdone : Utf8.encode [] ≤ Utf8.encode [] := List.le_refl _
  have hkey : a.date.key = b.date.key ↔ a.date.year = b.date.year ∧
      a.date.month = b.date.month ∧ a.date.day = b.date.day := by
    rw [Date.key_inj, Date.ext_iff]
  unfold reading
  rw [Prod.Lex.toLex_le_toLex, Date.key_lt_iff, hkey, clock_le_iff]
  simp only [hdone, and_true]
  omega

/-- The time of one day goes on with the instant. -/
theorem clock_le {a b : Instant} (h : a ≤ b) (hday : a.secs.fdiv 86400 = b.secs.fdiv 86400) :
    a.clock ≤ b.clock := by
  have hsecs := a.secs_eq.1
  have hsecs' := b.secs_eq.1
  have hnanos := a.nanos_lt
  -- No second of the same minute comes after one that is lengthened.
  have hleap := a.leap
  rw [le_def] at h
  rw [clock_le_iff]
  unfold hour minute second tenth
  generalize a.secondOfDay = m at *
  generalize b.secondOfDay = n at *
  omega

theorem reading_le {a b : Instant} (h : a ≤ b) : a.reading ≤ b.reading := by
  have hday : a.secs.fdiv 86400 ≤ b.secs.fdiv 86400 := by
    have hsecs := a.secs_eq
    have hsecs' := b.secs_eq
    rw [le_def] at h
    omega
  unfold reading
  rw [Prod.Lex.toLex_le_toLex]
  rcases hday.lt_or_eq with hlt | heq
  · exact .inl (Date.strictMono_key_ofDays hlt)
  · have hkey : a.date.key = b.date.key := congrArg (fun days => (Date.ofDays days).key) heq
    exact .inr ⟨hkey, clock_le h heq⟩

/-! ## Equal timestamps -/

theorem timestamp_eq_iff_reading {a b : Instant} (ha : a.HasShortYear) (hb : b.HasShortYear) :
    a.timestamp = b.timestamp ↔ a.reading = b.reading := by
  have hle := encode_timestamp_le_iff ha hb
  have hge := encode_timestamp_le_iff hb ha
  constructor
  · intro h
    rw [h] at hle hge
    exact le_antisymm (hle.1 (List.le_refl _)) (hge.1 (List.le_refl _))
  · intro h
    rw [h] at hle hge
    exact Utf8.encode_inj (Std.le_antisymm (hle.2 (le_refl _)) (hge.2 (le_refl _)))

/-- Outside leap seconds a timestamp tells the second and its tenth. -/
theorem reading_eq_iff {a b : Instant} (ha : a.nanos < 1000000000) (hb : b.nanos < 1000000000) :
    a.reading = b.reading ↔ a.secs = b.secs ∧ a.tenth = b.tenth := by
  constructor
  · intro h
    obtain ⟨hkey, hclock⟩ := Prod.mk.inj (toLex_inj.1 h)
    have hle := clock_le_iff.1 hclock.le
    have hge := clock_le_iff.1 hclock.ge
    have hdays : a.secs.fdiv 86400 = b.secs.fdiv 86400 := Date.strictMono_key_ofDays.injective hkey
    have htime : a.secondOfDay = b.secondOfDay := by
      unfold hour minute second at hle hge
      omega
    refine ⟨?_, by omega⟩
    rw [a.secs_eq.1, b.secs_eq.1, hdays, htime]
  · rintro ⟨hsecs, htenth⟩
    have hday : a.secondOfDay = b.secondOfDay := congrArg (fun s : Int => (s.fmod 86400).toNat) hsecs
    have hnone : a.nanos / 1000000000 = 0 ∧ b.nanos / 1000000000 = 0 := by omega
    simp only [reading, clock, date, hour, minute, second, hsecs, hday, hnone, htenth]

theorem tenths_eq_iff {a b : Instant} (ha : a.nanos < 1000000000) (hb : b.nanos < 1000000000) :
    a.tenths = b.tenths ↔ a.secs = b.secs ∧ a.tenth = b.tenth := by
  unfold tenths tenth
  omega

theorem timestamp_eq_iff {a b : Instant} (ha : a.HasShortYear) (hb : b.HasShortYear)
    (hnanos : a.nanos < 1000000000) (hnanos' : b.nanos < 1000000000) :
    a.timestamp = b.timestamp ↔ a.tenths = b.tenths := by
  rw [timestamp_eq_iff_reading ha hb, reading_eq_iff hnanos hnanos', tenths_eq_iff hnanos hnanos']

/-- The middle of the leap second at the end of 2016. -/
def leapSecond : Instant := ⟨1483228799, 1500000000, by decide, by decide, by decide, by decide⟩

/-- A moment of the first tenth of a second of 2017. -/
def newYear (nanos : Fin 100000000) : Instant :=
  ⟨1483228800, nanos, by decide, by decide, by omega, .inl (by omega)⟩

end BucketAccess.Instant
