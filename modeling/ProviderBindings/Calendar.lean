import ProviderBindings.Text.Digits

/-! # Dates and times

Dates of the calendar, times of day to the microsecond, and the two together with
or without an offset from universal time. Two moments with offsets are the same
when they name the same instant. -/
namespace ProviderBindings

/-- A date of the calendar. -/
structure Date where
  year : Nat
  month : Nat
  day : Nat
  deriving DecidableEq, Repr

/-- A time of day. -/
structure TimeOfDay where
  hour : Nat
  minute : Nat
  second : Nat
  micro : Nat
  deriving DecidableEq, Repr

/-- A date and a time of day; `offset` counts the minutes by which the clock is ahead
of universal time, when that is known. -/
structure Moment where
  date : Date
  time : TimeOfDay
  offset : Option Int
  deriving DecidableEq, Repr

namespace Date

/-- Whether a year has a leap day. -/
def isLeap (year : Nat) : Bool :=
  year % 4 == 0 && (year % 100 != 0 || year % 400 == 0)

/-- The number of days of a month; none in a month that there is not. -/
def daysIn (year month : Nat) : Nat :=
  if month = 2 then (if isLeap year then 29 else 28)
  else if month ∈ [4, 6, 9, 11] then 30
  else if 1 ≤ month ∧ month ≤ 12 then 31
  else 0

/-- Whether the calendar, which begins with the year one, has the date. -/
def isValid (d : Date) : Bool :=
  decide (1 ≤ d.year) && decide (1 ≤ d.day) && decide (d.day ≤ daysIn d.year d.month)

/-- The number of days of a year before its `month`-th month. -/
def daysBefore (year : Nat) : (month : Nat) → Nat
  | 0 => 0
  | month + 1 => daysBefore year month + daysIn year month

/-- The days from the first day of the year one to a date. -/
def dayNumber (d : Date) : Nat :=
  let years := d.year - 1
  365 * years + years / 4 - years / 100 + years / 400 +
    daysBefore d.year d.month + d.day - 1

/-- The date as `1979-05-27`. -/
def iso (d : Date) : String :=
  String.ofList (Text.paddedDecimal 4 d.year ++ '-' :: Text.paddedDecimal 2 d.month ++
    '-' :: Text.paddedDecimal 2 d.day)

end Date

namespace TimeOfDay

/-- The microseconds since midnight. -/
def micros (t : TimeOfDay) : Nat :=
  ((t.hour * 60 + t.minute) * 60 + t.second) * 1000000 + t.micro

/-- The time as `07:32:00`, with six places of a second if it is not whole. -/
def iso (t : TimeOfDay) : String :=
  let fraction := if t.micro = 0 then [] else '.' :: Text.paddedDecimal 6 t.micro
  String.ofList (Text.paddedDecimal 2 t.hour ++ ':' :: Text.paddedDecimal 2 t.minute ++
    ':' :: Text.paddedDecimal 2 t.second ++ fraction)

end TimeOfDay

namespace Moment

/-- An offset as `+05:30`. -/
def offsetText (offset : Int) : String :=
  let minutes := offset.natAbs
  String.ofList ((if offset < 0 then '-' else '+') :: Text.paddedDecimal 2 (minutes / 60) ++
    ':' :: Text.paddedDecimal 2 (minutes % 60))

/-- The moment in its usual form, with `separator` between date and time. -/
def iso (separator : String) (m : Moment) : String :=
  m.date.iso ++ separator ++ m.time.iso ++ (m.offset.map offsetText).getD ""

/-- The microseconds between the beginning of the calendar in universal time and a
moment with the given offset. -/
def instant (m : Moment) (offset : Int) : Int :=
  (m.date.dayNumber : Int) * 86400000000 + m.time.micros - offset * 60000000

/-- Whether two moments are the same: the same instant when both have an offset, the
same date and time when neither has one. -/
def isSame (a b : Moment) : Bool :=
  match a.offset, b.offset with
  | none, none => a.date == b.date && a.time == b.time
  | some x, some y => a.instant x == b.instant y
  | _, _ => false

end Moment

end ProviderBindings
