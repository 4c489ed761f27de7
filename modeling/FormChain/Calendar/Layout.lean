import FormChain.Calendar.Date
import FormChain.Decimal.Integer
import FormChain.Text.Blank
import FormChain.Text.Pieces

/-!
# Reading dates and times

A `Layout` is a row of parts, and a text is read by taking the parts in their order;
nothing may be left over. Several layouts are tried in turn (`Moment.read?`): a date
and a time in one of eight layouts, a date alone, a time alone. Before them stands the
strict layout of internet timestamps, which carries a distance from universal time.

Numbers may be padded with blanks in front and may have fewer digits than usual, and a
year with a sign may have more. A second of 60 is a leap second: it counts as a
thousand milliseconds more in second 59.
-/

namespace FormChain.Calendar

/-! ### Layouts -/

/-- One part of a layout. -/
inductive Part where
  /-- The year: up to four digits, or a sign and any number of digits. -/
  | year
  /-- The month: one or two digits. -/
  | month
  /-- The day: one or two digits. -/
  | day
  /-- The hour: one or two digits. -/
  | hour
  /-- The minute: one or two digits. -/
  | minute
  /-- The second: one or two digits. -/
  | second
  /-- A point and digits, or nothing. -/
  | fraction
  /-- This very character. -/
  | mark (c : Char)
  /-- Any number of blanks. -/
  | gap
  deriving DecidableEq, Repr

/-- The parts of a date and time, in order. -/
abbrev Layout := List Part

/-- The numbers that a text gave for the parts of a layout. -/
structure Numbers where
  /-- The year. -/
  year : Int := 0
  /-- The month. -/
  month : Nat := 0
  /-- The day. -/
  day : Nat := 0
  /-- The hour. -/
  hour : Nat := 0
  /-- The minute. -/
  minute : Nat := 0
  /-- The second; 60 in a leap second. -/
  second : Nat := 0
  /-- The nanosecond. -/
  nano : Nat := 0
  deriving DecidableEq, Repr

/-- A number of at least one and at most `width` digits at the start of a text. -/
def number? (width : Nat) (cs : List Char) : Option (Nat × List Char) :=
  let ds := (cs.take width).takeWhile Decimal.isDigit
  if ds.isEmpty then none else some (Decimal.value ds, cs.drop ds.length)

/-- A year at the start of a text. -/
def year? (cs : List Char) : Option (Int × List Char) :=
  match cs with
  | '-' :: rest => (number? rest.length rest).map fun (n, behind) => (-(Int.ofNat n), behind)
  | '+' :: rest => (number? rest.length rest).map fun (n, behind) => (Int.ofNat n, behind)
  | rest => (number? 4 rest).map fun (n, behind) => (Int.ofNat n, behind)

/-- The digits of a fraction of a second as nanoseconds: nine of them count. -/
def nanos? (cs : List Char) : Option (Nat × List Char) :=
  let ds := cs.takeWhile Decimal.isDigit
  if ds.isEmpty then none
  else
    let kept := ds.take 9
    some (Decimal.value kept * Nat.pow 10 (9 - kept.length), cs.drop ds.length)

/-- Read one part. -/
def Part.read? (p : Part) (n : Numbers) (cs : List Char) : Option (Numbers × List Char) :=
  let two (put : Nat → Numbers) : Option (Numbers × List Char) :=
    (number? 2 (Text.trimStart cs)).map fun (v, rest) => (put v, rest)
  match p with
  | .year => (year? (Text.trimStart cs)).map fun (v, rest) => ({ n with year := v }, rest)
  | .month => two fun v => { n with month := v }
  | .day => two fun v => { n with day := v }
  | .hour => two fun v => { n with hour := v }
  | .minute => two fun v => { n with minute := v }
  | .second => two fun v => { n with second := v }
  | .fraction =>
    match cs with
    | '.' :: rest => (nanos? rest).map fun (v, behind) => ({ n with nano := v }, behind)
    | _ => some (n, cs)
  | .mark c =>
    match cs with
    | d :: rest => if c = d then some (n, rest) else none
    | [] => none
  | .gap => some (n, Text.trimStart cs)

/-- Read the parts of a layout one behind another. -/
def readParts? : Layout → Numbers → List Char → Option (Numbers × List Char)
  | [], n, cs => some (n, cs)
  | p :: ps, n, cs => do
    let (n, cs) ← p.read? n cs
    readParts? ps n cs

/-- **Read a whole text in a layout.** -/
def readAll? (l : Layout) (cs : List Char) : Option Numbers := do
  let (n, rest) ← readParts? l {} cs
  if rest.isEmpty then some n else none

/-! ### From numbers to moments -/

/-- The years that dates may lie in. -/
def isYearInRange (y : Int) : Bool :=
  -262143 ≤ y && y ≤ 262142

/-- The day of the numbers, when there is such a day. -/
def Numbers.date? (n : Numbers) : Option Date :=
  let d : Date := ⟨n.year, n.month, n.day⟩
  if isYearInRange n.year && d.isValid then some d else none

/-- The time of the numbers, when there is such a time. -/
def Numbers.time? (n : Numbers) : Option TimeOfDay :=
  if n.hour < 24 && n.minute < 60 && n.second ≤ 60 then
    let leap := if n.second = 60 then 1000 else 0
    some ⟨n.hour, n.minute, min n.second 59, n.nano / 1000000 + leap⟩
  else none

/-- The moment of the numbers, when there are such a day and such a time. -/
def Numbers.moment? (n : Numbers) : Option Moment := do
  let d ← n.date?
  let t ← n.time?
  some (.ofDayTime d.dayNumber t)

/-! ### The layouts -/

/-- A date with a separator. -/
def dateParts (sep : Char) : Layout :=
  [.year, .mark sep, .month, .mark sep, .day]

/-- Hours and minutes. -/
def clockParts : Layout :=
  [.hour, .mark ':', .minute]

/-- Hours, minutes and seconds. -/
def clockWithSeconds : Layout :=
  clockParts ++ [.mark ':', .second]

/-- The layouts of a date with a time, in the order in which they are tried. -/
def dateTimeLayouts : List Layout :=
  [ dateParts '-' ++ .mark 'T' :: clockWithSeconds ++ [.fraction],
    dateParts '-' ++ .mark 'T' :: clockWithSeconds,
    dateParts '-' ++ .mark 'T' :: clockParts,
    dateParts '-' ++ .gap :: clockWithSeconds ++ [.fraction],
    dateParts '-' ++ .gap :: clockWithSeconds,
    dateParts '-' ++ .gap :: clockParts,
    dateParts '/' ++ .gap :: clockWithSeconds,
    dateParts '/' ++ .gap :: clockParts ]

/-- The layouts of a date, which stands for its midnight. -/
def dateLayouts : List Layout :=
  [dateParts '-', dateParts '/']

/-- The layouts of a time of day, which stands for that time today. -/
def timeLayouts : List Layout :=
  [clockWithSeconds, clockParts]

/-! ### Internet timestamps -/

/-- Exactly two digits at the start of a text. -/
def twoDigits? (cs : List Char) : Option (Nat × List Char) :=
  match cs with
  | a :: b :: rest =>
    if Decimal.isDigit a && Decimal.isDigit b then some (Decimal.value [a, b], rest) else none
  | _ => none

/-- Exactly four digits at the start of a text. -/
def fourDigits? (cs : List Char) : Option (Nat × List Char) := do
  let (high, rest) ← twoDigits? cs
  let (low, rest) ← twoDigits? rest
  some (high * 100 + low, rest)

/-- One of some characters at the start of a text. -/
def oneOf? (choices : List Char) (cs : List Char) : Option (Char × List Char) :=
  match cs with
  | c :: rest => if choices.contains c then some (c, rest) else none
  | [] => none

/-- The distance from universal time in minutes: `Z`, or a sign, hours and minutes. -/
def offset? (cs : List Char) : Option (Int × List Char) :=
  match oneOf? ['Z', 'z'] cs with
  | some (_, rest) => some (0, rest)
  | none => do
    let (sign, rest) ← oneOf? ['+', '-', '\u2212'] cs
    let (hours, rest) ← twoDigits? rest
    let (_, rest) ← oneOf? [':'] rest
    let (minutes, rest) ← twoDigits? rest
    if hours ≤ 23 && minutes ≤ 59 then
      let n := Int.ofNat (hours * 60 + minutes)
      some (if sign = '+' then n else -n, rest)
    else none

/-- **The moment of an internet timestamp**, such as `2024-03-07T09:05:02.5+01:00`. -/
def timestamp? (cs : List Char) : Option Moment := do
  let (year, cs) ← fourDigits? cs
  let (_, cs) ← oneOf? ['-'] cs
  let (month, cs) ← twoDigits? cs
  let (_, cs) ← oneOf? ['-'] cs
  let (day, cs) ← twoDigits? cs
  let (_, cs) ← oneOf? ['T', 't', ' '] cs
  let (hour, cs) ← twoDigits? cs
  let (_, cs) ← oneOf? [':'] cs
  let (minute, cs) ← twoDigits? cs
  let (_, cs) ← oneOf? [':'] cs
  let (second, cs) ← twoDigits? cs
  let (nano, cs) ← match cs with
    | '.' :: rest => nanos? rest
    | _ => some (0, cs)
  let (offset, cs) ← offset? cs
  let n : Numbers := ⟨Int.ofNat year, month, day, hour, minute, second, nano⟩
  let t ← n.moment?
  if cs.isEmpty then some ⟨t.millis - offset * 60000⟩ else none

/-! ### All layouts in turn -/

/-- A date with a time in one of the layouts. -/
def dateTime? (cs : List Char) : Option Moment :=
  dateTimeLayouts.findSome? fun l => (readAll? l cs).bind Numbers.moment?

/-- The midnight of a date in one of the layouts. -/
def date? (cs : List Char) : Option Moment :=
  dateLayouts.findSome? fun l =>
    ((readAll? l cs).bind Numbers.date?).map fun d => .ofDayTime d.dayNumber ⟨0, 0, 0, 0⟩

/-- A time of day in one of the layouts, on the day of `now`. -/
def timeToday? (now : Moment) (cs : List Char) : Option Moment :=
  timeLayouts.findSome? fun l =>
    ((readAll? l cs).bind Numbers.time?).map fun t => .ofDayTime now.dayNumber t

end FormChain.Calendar

namespace FormChain

open Calendar in
/-- **The moment that a text without blanks at its ends stands for**: a count of
milliseconds, a timestamp, a date with a time, a date, or a time today. -/
def Moment.read? (now : Moment) (s : String) : Option Moment :=
  if s.isEmpty then none
  else
    let cs := s.toList
    ((Decimal.int64? s).map Moment.mk)
      |>.or (timestamp? cs)
      |>.or (dateTime? cs)
      |>.or (date? cs)
      |>.or (timeToday? now cs)

end FormChain
