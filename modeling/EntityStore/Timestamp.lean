/-!
# Instants and the civil calendar

An instant is a count of seconds since 1970-01-01T00:00:00 UTC with a fraction in
nanoseconds. The fraction runs to one second and, during a leap second, to two. Dates go by
the Gregorian calendar, extended in both directions.
-/

namespace EntityStore

structure Timestamp where
  seconds : Int
  nanos : Nat
deriving DecidableEq, Repr

structure Date where
  year : Int
  month : Nat
  day : Nat
deriving DecidableEq, Repr

namespace Date

def isLeapYear (y : Int) : Bool := y % 4 = 0 && (y % 100 ≠ 0 || y % 400 = 0)

def daysInMonth (y : Int) (m : Nat) : Nat :=
  if m = 2 then if isLeapYear y then 29 else 28
  else if m = 4 || m = 6 || m = 9 || m = 11 then 30
  else 31

/-- Whether the calendar has the date. -/
def isValid (d : Date) : Bool :=
  1 ≤ d.month && d.month ≤ 12 && 1 ≤ d.day && d.day ≤ daysInMonth d.year d.month

/-- Days in the 400-year cycle of the calendar. -/
def cycleDays : Int := 146097

/-- Days from 1970-01-01 to the date. Years are counted from March, so that the leap day is
the last of its year. -/
def toDays (d : Date) : Int :=
  let y : Int := if d.month ≤ 2 then d.year - 1 else d.year
  let cycle := y.fdiv 400
  let yearOfCycle := y.fmod 400
  let monthFromMarch : Int := (d.month + 9) % 12
  let dayOfYear := (153 * monthFromMarch + 2) / 5 + d.day - 1
  let dayOfCycle := yearOfCycle * 365 + yearOfCycle / 4 - yearOfCycle / 100 + dayOfYear
  cycle * cycleDays + dayOfCycle - 719468

/-- The date that lies the given number of days after 1970-01-01. -/
def ofDays (days : Int) : Date :=
  let z := days + 719468
  let cycle := z.fdiv cycleDays
  let dayOfCycle := z.fmod cycleDays
  let yearOfCycle :=
    (dayOfCycle - dayOfCycle / 1460 + dayOfCycle / 36524 - dayOfCycle / 146096) / 365
  let dayOfYear := dayOfCycle - (365 * yearOfCycle + yearOfCycle / 4 - yearOfCycle / 100)
  let monthFromMarch := (5 * dayOfYear + 2) / 153
  let day := dayOfYear - (153 * monthFromMarch + 2) / 5 + 1
  let month := if monthFromMarch < 10 then monthFromMarch + 3 else monthFromMarch - 9
  let year := yearOfCycle + cycle * 400
  ⟨if month ≤ 2 then year + 1 else year, month.toNat, day.toNat⟩

end Date

namespace Timestamp

/-- 1970-01-01T00:00:00 UTC. -/
def epoch : Timestamp := ⟨0, 0⟩

instance : Inhabited Timestamp := ⟨epoch⟩

instance : Ord Timestamp :=
  ⟨fun a b => (compare a.seconds b.seconds).then (compare a.nanos b.nanos)⟩

def secondsPerDay : Int := 86400

def date (t : Timestamp) : Date := Date.ofDays (t.seconds.fdiv secondsPerDay)

def secondOfDay (t : Timestamp) : Nat := (t.seconds.fmod secondsPerDay).toNat

/-- The instant of a date and a second of that day. -/
def ofDate (d : Date) (secondOfDay : Nat) (nanos : Nat) : Timestamp :=
  ⟨d.toDays * secondsPerDay + secondOfDay, nanos⟩

end Timestamp

end EntityStore
