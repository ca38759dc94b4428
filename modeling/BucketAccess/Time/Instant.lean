import BucketAccess.Text.Numeral
import BucketAccess.Time.Calendar

/-!
# Instants

A moment as seconds and nanoseconds since 1970, UTC, within the years -262143 to 262142. The last
second of a minute may hold up to two seconds' worth of nanoseconds: a leap second, which is printed
as second 60.
-/

namespace BucketAccess

/-- The first second of the year -262143. -/
def Instant.first : Int := -8334601228800

/-- The last second of the year 262142. -/
def Instant.last : Int := 8210266876799

structure Instant where
  secs : Int
  nanos : Nat
  first_le : Instant.first ≤ secs
  le_last : secs ≤ Instant.last
  nanos_lt : nanos < 2000000000
  leap : nanos < 1000000000 ∨ secs % 60 = 59
  deriving DecidableEq

namespace Instant

def ofUnix? (secs : Int) (nanos : Nat) : Option Instant :=
  if h : (first ≤ secs ∧ secs ≤ last) ∧ nanos < 2000000000 ∧
      (nanos < 1000000000 ∨ secs % 60 = 59) then
    some ⟨secs, nanos, h.1.1, h.1.2, h.2.1, h.2.2⟩
  else none

def date (t : Instant) : Date := Date.ofDays (t.secs.fdiv 86400)

def secondOfDay (t : Instant) : Nat := (t.secs.fmod 86400).toNat

def hour (t : Instant) : Nat := t.secondOfDay / 3600

def minute (t : Instant) : Nat := t.secondOfDay / 60 % 60

/-- From 0 to 60. -/
def second (t : Instant) : Nat := t.secondOfDay % 60 + t.nanos / 1000000000

/-- The tenth of the second; all of a leap second is its last tenth. -/
def tenth (t : Instant) : Nat := min (t.nanos / 100000000) 9

end Instant

/-- Four digits, with a sign if they are not enough or the year is before 0. -/
def yearDigits (year : Int) : List Char :=
  if 0 ≤ year ∧ year ≤ 9999 then Numeral.fixed 4 year.toNat
  else (if year < 0 then '-' else '+') :: Numeral.padded 4 year.natAbs

namespace Instant

/-- `YYYY-MM-DDThh:mm:ss.sZ`. -/
def timestamp (t : Instant) : List Char :=
  yearDigits t.date.year ++ '-' :: Numeral.fixed 2 t.date.month ++ '-' :: Numeral.fixed 2 t.date.day
    ++ 'T' :: Numeral.fixed 2 t.hour ++ ':' :: Numeral.fixed 2 t.minute
    ++ ':' :: Numeral.fixed 2 t.second ++ '.' :: Numeral.fixed 1 t.tenth ++ ['Z']

/-- `YYYYMMDD`. -/
def basicDate (t : Instant) : List Char :=
  yearDigits t.date.year ++ Numeral.fixed 2 t.date.month ++ Numeral.fixed 2 t.date.day

/-- `YYYYMMDDThhmmssZ`. -/
def basicTime (t : Instant) : List Char :=
  t.basicDate ++ 'T' :: Numeral.fixed 2 t.hour ++ Numeral.fixed 2 t.minute
    ++ Numeral.fixed 2 t.second ++ ['Z']

end Instant

end BucketAccess
