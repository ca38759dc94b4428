/-!
# The Gregorian calendar

Days, counted from 1970-01-01, as dates, with the leap rules carried back and forth without end.
Years are taken to begin in March, so that the day which a leap year adds is the last of its year;
146097 days make a cycle of four hundred years.
-/

namespace BucketAccess

structure Date where
  year : Int
  month : Nat
  day : Nat
  deriving DecidableEq, Repr

namespace Date

/-- The year of the cycle, counted from March, to which a day of the cycle belongs. -/
def yearOfCycle (dayOfCycle : Nat) : Nat :=
  (dayOfCycle - dayOfCycle / 1460 + dayOfCycle / 36524 - dayOfCycle / 146096) / 365

def ofDays (days : Int) : Date :=
  let fromMarch := days + 719468
  let cycle := fromMarch.fdiv 146097
  let dayOfCycle := (fromMarch.fmod 146097).toNat
  let year := yearOfCycle dayOfCycle
  let dayOfYear := dayOfCycle - (365 * year + year / 4 - year / 100)
  let fifth := (5 * dayOfYear + 2) / 153
  let month := if fifth < 10 then fifth + 3 else fifth - 9
  { year := year + cycle * 400 + (if month ≤ 2 then 1 else 0)
    month := month
    day := dayOfYear - (153 * fifth + 2) / 5 + 1 }

end Date

end BucketAccess
