/-!
# Enrolment.Timestamp.Basic

Points in time, in UTC: a day of the Gregorian calendar, which is extended to the years before its
introduction and has a year 0, and a time of day in nanoseconds. The second 60 is a leap second.
Years range from -262143 to 262142.
-/

namespace Enrolment

/-- A day, by year, month and day of the month. -/
structure Date where
  year : Int
  month : Nat
  day : Nat
  deriving DecidableEq, Repr

namespace Date

/-- Whether February has 29 days. -/
def isLeapYear (year : Int) : Bool := year % 4 == 0 && (year % 100 != 0 || year % 400 == 0)

def daysInMonth (year : Int) (month : Nat) : Nat :=
  if month = 2 then if isLeapYear year then 29 else 28
  else if month = 4 ∨ month = 6 ∨ month = 9 ∨ month = 11 then 30
  else 31

def firstYear : Int := -262143
def lastYear : Int := 262142

def IsValid (d : Date) : Prop :=
  (firstYear ≤ d.year ∧ d.year ≤ lastYear) ∧ (1 ≤ d.month ∧ d.month ≤ 12) ∧
    (1 ≤ d.day ∧ d.day ≤ daysInMonth d.year d.month)

instance (d : Date) : Decidable d.IsValid := inferInstanceAs (Decidable (_ ∧ _))

def next (d : Date) : Date :=
  if d.day < daysInMonth d.year d.month then { d with day := d.day + 1 }
  else if d.month < 12 then ⟨d.year, d.month + 1, 1⟩
  else ⟨d.year + 1, 1, 1⟩

def previous (d : Date) : Date :=
  if 1 < d.day then { d with day := d.day - 1 }
  else if 1 < d.month then ⟨d.year, d.month - 1, daysInMonth d.year (d.month - 1)⟩
  else ⟨d.year - 1, 12, 31⟩

end Date

/-- The day and the time of day exist. -/
def IsPointInTime (date : Date) (hour minute second nanos : Nat) : Prop :=
  date.IsValid ∧ hour < 24 ∧ minute < 60 ∧ second ≤ 60 ∧ nanos < 1000000000

instance (date : Date) (hour minute second nanos : Nat) :
    Decidable (IsPointInTime date hour minute second nanos) :=
  inferInstanceAs (Decidable (_ ∧ _))

/-- A point in time, in UTC. -/
structure Timestamp where
  date : Date
  hour : Nat
  minute : Nat
  second : Nat
  nanos : Nat
  isPointInTime : IsPointInTime date hour minute second nanos
  deriving DecidableEq

namespace Timestamp

/-- The point in time with the given parts, if it exists. -/
def ofParts? (date : Date) (hour minute second nanos : Nat) : Option Timestamp :=
  if h : IsPointInTime date hour minute second nanos then
    some ⟨date, hour, minute, second, nanos, h⟩
  else none

def minutesPerDay : Int := 1440

/-- The point in time at which clocks that are `offset` minutes ahead of UTC show the given parts.
An offset is shorter than a day, so the day in UTC is the same or a neighbour. -/
def ofLocal? (date : Date) (hour minute second nanos : Nat) (offset : Int) :
    Option Timestamp := do
  let _ ← ofParts? date hour minute second nanos
  let minutes := 60 * (hour : Int) + minute - offset
  let (date, minutes) :=
    if minutes < 0 then (date.previous, minutes + minutesPerDay)
    else if minutesPerDay ≤ minutes then (date.next, minutes - minutesPerDay)
    else (date, minutes)
  ofParts? date (minutes.toNat / 60) (minutes.toNat % 60) second nanos

end Timestamp

end Enrolment
