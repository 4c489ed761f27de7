import FormChain.Calendar.Date
import FormChain.Text.Pieces

/-!
# Writing dates and times

A format is a text in which some letters stand for parts of a moment; text in square
brackets and everything else stands for itself. At every place the longest token
counts, so `MMMM` is the name of a month and not its number twice.

`Token.text` says what a token stands for, `formatPieces` how a format is read, and
`LocalMoment.format` puts the two together. What is written is what the clocks of the
place show, and how far they are from universal time.
-/

namespace FormChain

namespace Calendar

/-- A part of a moment that a format can ask for. -/
inductive Token where
  /-- The year with four digits. -/
  | year
  /-- The last two digits of the year. -/
  | shortYear
  /-- The name of the month. -/
  | monthName
  /-- The first three letters of the name of the month. -/
  | shortMonthName
  /-- The month with two digits. -/
  | month
  /-- The month. -/
  | bareMonth
  /-- The day with two digits. -/
  | day
  /-- The day. -/
  | bareDay
  /-- The name of the day of the week. -/
  | weekdayName
  /-- The first three letters of the name of the day of the week. -/
  | shortWeekdayName
  /-- The day of the week as a number, Sunday being 0. -/
  | weekday
  /-- The hour with two digits. -/
  | hour
  /-- The hour. -/
  | bareHour
  /-- The hour on a dial of twelve with two digits. -/
  | dialHour
  /-- The hour on a dial of twelve. -/
  | bareDialHour
  /-- The minute with two digits. -/
  | minute
  /-- The minute. -/
  | bareMinute
  /-- The second with two digits. -/
  | second
  /-- The second. -/
  | bareSecond
  /-- The millisecond with three digits. -/
  | milli
  /-- `AM` or `PM`. -/
  | halfDay
  /-- `am` or `pm`. -/
  | smallHalfDay
  /-- The distance from universal time without a colon. -/
  | offset
  /-- The distance from universal time with a colon. -/
  | colonOffset
  /-- The seconds since the start of 1970. -/
  | epochSecond
  deriving DecidableEq, Repr

/-- The spelling of every token, longer ones first. -/
def tokenSpellings : List (List Char × Token) :=
  [("YYYY", .year), ("MMMM", .monthName), ("dddd", .weekdayName), ("MMM", .shortMonthName),
   ("ddd", .shortWeekdayName), ("SSS", .milli), ("YY", .shortYear), ("MM", .month),
   ("DD", .day), ("HH", .hour), ("hh", .dialHour), ("mm", .minute), ("ss", .second),
   ("ZZ", .offset), ("M", .bareMonth), ("D", .bareDay), ("H", .bareHour),
   ("h", .bareDialHour), ("m", .bareMinute), ("s", .bareSecond), ("d", .weekday),
   ("A", .halfDay), ("a", .smallHalfDay), ("Z", .colonOffset),
   ("X", .epochSecond)].map fun (s, t) => (s.toList, t)

/-- The names of the months. -/
def monthNames : List String :=
  ["January", "February", "March", "April", "May", "June", "July", "August", "September",
   "October", "November", "December"]

/-- The names of the days of the week, from Sunday. -/
def weekdayNames : List String :=
  ["Sunday", "Monday", "Tuesday", "Wednesday", "Thursday", "Friday", "Saturday"]

/-- The first three letters of a name. -/
def shortName (name : String) : String :=
  String.ofList (name.toList.take 3)

/-- A number with zeros in front up to a width. -/
def padded (width n : Nat) : String :=
  let digits := Nat.toDigits 10 n
  String.ofList (List.replicate (width - digits.length) '0' ++ digits)

/-- The year with four digits; outside of those, with a sign and at least four. -/
def yearText (y : Int) : String :=
  if 0 ≤ y ∧ y ≤ 9999 then padded 4 y.toNat
  else (if y < 0 then "-" else "+") ++ padded 4 y.natAbs

/-- An hour on a dial of twelve. -/
def onDial (hour : Nat) : Nat :=
  if hour % 12 = 0 then 12 else hour % 12

/-- How far clocks are from universal time: a sign, the hours and the minutes with two
digits each and a text between them. Half a minute counts as one. -/
def offsetText (between : String) (seconds : Int) : String :=
  let minutes := (seconds.natAbs + 30) / 60
  (if seconds < 0 then "-" else "+") ++
    padded 2 (minutes / 60) ++ between ++ padded 2 (minutes % 60)

/-- **What a token stands for in a moment.** -/
def Token.text (t : LocalMoment) : Token → String
  | .year => yearText t.date.year
  | .shortYear => padded 2 (t.date.year.emod 100).toNat
  | .monthName => monthNames.getD (t.date.month - 1) ""
  | .shortMonthName => shortName (monthNames.getD (t.date.month - 1) "")
  | .month => padded 2 t.date.month
  | .bareMonth => padded 1 t.date.month
  | .day => padded 2 t.date.day
  | .bareDay => padded 1 t.date.day
  | .weekdayName => weekdayNames.getD (Date.weekday t.dayNumber) ""
  | .shortWeekdayName => shortName (weekdayNames.getD (Date.weekday t.dayNumber) "")
  | .weekday => padded 1 (Date.weekday t.dayNumber)
  | .hour => padded 2 t.time.hour
  | .bareHour => padded 1 t.time.hour
  | .dialHour => padded 2 (onDial t.time.hour)
  | .bareDialHour => padded 1 (onDial t.time.hour)
  | .minute => padded 2 t.time.minute
  | .bareMinute => padded 1 t.time.minute
  | .second => padded 2 t.time.second
  | .bareSecond => padded 1 t.time.second
  | .milli => padded 3 t.time.milli
  | .halfDay => if t.time.hour < 12 then "AM" else "PM"
  | .smallHalfDay => if t.time.hour < 12 then "am" else "pm"
  | .offset => offsetText "" t.offset
  | .colonOffset => offsetText ":" t.offset
  | .epochSecond => toString (t.moment.millis.fdiv 1000)

/-- A piece of a format: text that stands for itself, or a token. -/
inductive FormatPiece where
  /-- Text that stands for itself. -/
  | plain (text : List Char)
  /-- A token. -/
  | token (t : Token)
  deriving DecidableEq, Repr

/-- The token at the start of a text, the longest one there. -/
def tokenAt? (cs : List Char) : Option (Nat × Token) :=
  (tokenSpellings.find? fun (s, _) => s.isPrefixOf cs).map fun (s, t) => (s.length, t)

/-- Cut a format into pieces. After a piece of several characters has been taken, its
remaining characters are passed over. -/
def piecesAfter : (skip : Nat) → List Char → List FormatPiece
  | _, [] => []
  | skip + 1, _ :: rest => piecesAfter skip rest
  | 0, c :: rest =>
    match (if c = '[' then Text.cutFirst? ']' rest else none) with
    | some (inside, _) => .plain inside :: piecesAfter (inside.length + 1) rest
    | none =>
      match tokenAt? (c :: rest) with
      | some (length, t) => .token t :: piecesAfter (length - 1) rest
      | none => .plain [c] :: piecesAfter 0 rest

/-- **The pieces of a format**, left to right. -/
def formatPieces (format : String) : List FormatPiece :=
  piecesAfter 0 format.toList

/-- The text of a piece. -/
def FormatPiece.text (t : LocalMoment) : FormatPiece → String
  | .plain cs => String.ofList cs
  | .token k => k.text t

end Calendar

/-- **A moment written in a format.** -/
def LocalMoment.format (t : LocalMoment) (format : String) : String :=
  String.join ((Calendar.formatPieces format).map (·.text t))

end FormChain
