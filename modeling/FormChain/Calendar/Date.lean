/-!
# Dates, times of day and moments

The Gregorian calendar, extended without end to both sides, in universal time. A
`Moment` counts milliseconds from the start of 1970; a `Date` is a year, a month and
a day. Days are counted with years that begin in March, so that the leap day is the
last of its year and a month's first day is a linear function of the month, rounded.

Main definitions: the number of a day and the day of a number (`Date.dayNumber`,
`Date.ofDayNumber`), and the two parts of a moment (`Moment.date`, `Moment.time`). A
`LocalMoment` is a moment in a place whose clocks are not those of universal time.
-/

namespace FormChain

/-- A day of the calendar. -/
structure Date where
  /-- The year; the year before 1 is 0. -/
  year : Int
  /-- The month, from 1. -/
  month : Nat
  /-- The day of the month, from 1. -/
  day : Nat
  deriving DecidableEq, Repr

/-- Whether a year has a leap day. -/
def isLeapYear (y : Int) : Bool :=
  y % 4 = 0 && (y % 100 ≠ 0 || y % 400 = 0)

/-- How many days a month has. -/
def daysInMonth (y : Int) (m : Nat) : Nat :=
  if m = 2 then (if isLeapYear y then 29 else 28)
  else if m = 4 || m = 6 || m = 9 || m = 11 then 30
  else 31

namespace Date

/-- Whether the month exists and has the day. -/
def isValid (d : Date) : Bool :=
  1 ≤ d.month && d.month ≤ 12 && 1 ≤ d.day && d.day ≤ daysInMonth d.year d.month

/-- The days before the first of March of a year, counted from March of year 0. -/
def daysBeforeMarch (y : Int) : Int :=
  365 * y + y.fdiv 4 - y.fdiv 100 + y.fdiv 400

/-- The days before a month in a year that begins in March; March is month 0. -/
def daysBeforeMonth (m : Nat) : Nat :=
  (153 * m + 2) / 5

/-- **The number of a day**, counted from the first of January 1970. -/
def dayNumber (d : Date) : Int :=
  let year := if d.month ≤ 2 then d.year - 1 else d.year
  let month := (d.month + 9) % 12
  daysBeforeMarch year + Int.ofNat (daysBeforeMonth month + d.day) - 1 - 719468

/-- The days of four hundred years. -/
def daysInEra : Int := 146097

/-- **The day of a number.** -/
def ofDayNumber (n : Int) : Date :=
  let z := n + 719468
  let era := z.fdiv daysInEra
  let inEra := (z - era * daysInEra).toNat
  let yearOfEra := (inEra - inEra / 1460 + inEra / 36524 - inEra / 146096) / 365
  let dayOfYear := inEra - (365 * yearOfEra + yearOfEra / 4 - yearOfEra / 100)
  let m := (5 * dayOfYear + 2) / 153
  let month := if m < 10 then m + 3 else m - 9
  let year := Int.ofNat yearOfEra + era * 400
  { year := if month ≤ 2 then year + 1 else year
    month := month
    day := dayOfYear - daysBeforeMonth m + 1 }

/-- The day of the week of a day number, Sunday being 0. -/
def weekday (n : Int) : Nat :=
  ((n + 4).emod 7).toNat

end Date

/-- A time of day in milliseconds from midnight. -/
structure TimeOfDay where
  /-- The hour, below 24. -/
  hour : Nat
  /-- The minute, below 60. -/
  minute : Nat
  /-- The second, below 60. -/
  second : Nat
  /-- The millisecond; in a leap second it is a thousand or more. -/
  milli : Nat
  deriving DecidableEq, Repr

/-- The milliseconds from midnight. -/
def TimeOfDay.millis (t : TimeOfDay) : Nat :=
  ((t.hour * 60 + t.minute) * 60 + t.second) * 1000 + t.milli

/-- The time of day that lies `n` milliseconds behind midnight. -/
def TimeOfDay.ofMillis (n : Nat) : TimeOfDay :=
  ⟨n / 3600000 % 24, n / 60000 % 60, n / 1000 % 60, n % 1000⟩

/-- **A moment**: milliseconds since the start of 1970. -/
structure Moment where
  /-- The milliseconds. -/
  millis : Int
  deriving DecidableEq, Repr

namespace Moment

instance : Inhabited Moment := ⟨⟨0⟩⟩

/-- The milliseconds of a day. -/
def millisPerDay : Int := 86400000

/-- The number of the day a moment lies in. -/
def dayNumber (t : Moment) : Int :=
  t.millis.fdiv millisPerDay

/-- The day a moment lies in. -/
def date (t : Moment) : Date :=
  .ofDayNumber t.dayNumber

/-- The time of a moment in its day. -/
def time (t : Moment) : TimeOfDay :=
  .ofMillis (t.millis - t.dayNumber * millisPerDay).toNat

/-- The moment of a time on the day of a number. -/
def ofDayTime (day : Int) (t : TimeOfDay) : Moment :=
  ⟨day * millisPerDay + Int.ofNat t.millis⟩

end Moment

/-- **A moment in a place** with clocks of its own. -/
structure LocalMoment where
  /-- The moment. -/
  moment : Moment
  /-- How far the clocks of the place are ahead of universal time, in seconds. -/
  offset : Int := 0
  deriving DecidableEq, Repr, Inhabited

namespace LocalMoment

/-- The moment at which clocks of universal time show what those of the place show. -/
def onClock (t : LocalMoment) : Moment :=
  ⟨t.moment.millis + t.offset * 1000⟩

/-- The number of the day on the clocks of the place. -/
def dayNumber (t : LocalMoment) : Int :=
  t.onClock.dayNumber

/-- The day on the clocks of the place. -/
def date (t : LocalMoment) : Date :=
  t.onClock.date

/-- The time of day on the clocks of the place. -/
def time (t : LocalMoment) : TimeOfDay :=
  t.onClock.time

end LocalMoment

end FormChain
