import TextTemplate.Number.Digits

/-!
# Dates and times of day

Dates of the Gregorian calendar extended in both directions, and times of day without a zone. A
leap second is the second 59 with a thousand million nanoseconds or more.
-/

namespace TextTemplate

namespace Calendar

/-- Every fourth year is a leap year, centuries only if they are divisible by four hundred. -/
def isLeapYear (year : Int) : Bool :=
  year % 4 = 0 && (year % 100 ≠ 0 || year % 400 = 0)

/-- The number of days in a month, nought for a month that does not exist. -/
def daysInMonth (year : Int) (month : Nat) : Nat :=
  match month with
  | 2 => if isLeapYear year then 29 else 28
  | 4 | 6 | 9 | 11 => 30
  | 1 | 3 | 5 | 7 | 8 | 10 | 12 => 31
  | _ => 0

/-- The years that a date can have. -/
def isYear (year : Int) : Bool :=
  -262143 ≤ year && year ≤ 262142

end Calendar

/-- A day of the calendar. -/
structure Date where
  year : Int
  month : Nat
  day : Nat
  year_valid : Calendar.isYear year
  day_valid : 1 ≤ day ∧ day ≤ Calendar.daysInMonth year month

/-- The day with these numbers, if there is one. -/
def Date.ofNumbers? (year : Int) (month day : Nat) : Option Date :=
  if valid : Calendar.isYear year ∧ 1 ≤ day ∧ day ≤ Calendar.daysInMonth year month then
    some ⟨year, month, day, valid.1, valid.2⟩
  else none

/-- Two dates are the same day. -/
def Date.same (left right : Date) : Bool :=
  left.year == right.year && left.month == right.month && left.day == right.day

/-- A time of day to the nanosecond. -/
structure Time where
  hour : Nat
  minute : Nat
  second : Nat
  nanosecond : Nat
  hour_lt : hour < 24
  minute_lt : minute < 60
  second_lt : second < 60
  nanosecond_lt : nanosecond < 2000000000

/-- The time with these numbers, if there is one. Only the last second of a minute can be a leap
second. -/
def Time.ofNumbers? (hour minute second nanosecond : Nat) : Option Time :=
  if valid : (hour < 24 ∧ minute < 60 ∧ second < 60 ∧ nanosecond < 2000000000) ∧
      (nanosecond < 1000000000 ∨ second = 59) then
    some ⟨hour, minute, second, nanosecond, valid.1.1, valid.1.2.1, valid.1.2.2.1, valid.1.2.2.2⟩
  else none

/-- The first moment of a day. -/
def Time.midnight : Time :=
  ⟨0, 0, 0, 0, by decide, by decide, by decide, by decide⟩

/-- The second as it is shown: a leap second is the second 60. -/
def Time.shownSecond (time : Time) : Nat :=
  time.second + time.nanosecond / 1000000000

/-- The nanoseconds within the shown second. -/
def Time.shownNanosecond (time : Time) : Nat :=
  time.nanosecond % 1000000000

/-- Two times are the same moment of a day. -/
def Time.same (left right : Time) : Bool :=
  left.hour == right.hour && left.minute == right.minute && left.second == right.second &&
    left.nanosecond == right.nanosecond

/-- A day and a time of that day, without a zone. -/
structure DateTime where
  date : Date
  time : Time

/-- Two moments are the same. -/
def DateTime.same (left right : DateTime) : Bool :=
  left.date.same right.date && left.time.same right.time

namespace Date

/-- The number of days before the first of a month, in a year that is not a leap year. -/
def daysBeforeMonth : Nat → Nat
  | 0 => 0
  | 1 => 0
  | month + 2 => daysBeforeMonth (month + 1) + Calendar.daysInMonth 1 (month + 1)

/-- The day of the week, Sunday being nought. The first of January of the year 1 is a Monday. -/
def weekday (date : Date) : Nat :=
  let before := date.year - 1
  let leapDay := if 2 < date.month ∧ Calendar.isLeapYear date.year then 1 else 0
  let days := before * 365 + before.fdiv 4 - before.fdiv 100 + before.fdiv 400 +
    (daysBeforeMonth date.month + leapDay + date.day : Nat)
  (days % 7).toNat

end Date

end TextTemplate
