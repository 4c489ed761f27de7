import FormChain.Calendar.Format

/-!
# Formats as rows of directives

A format is written in two steps. It is first put into another language of formats, in
which a percent sign opens a directive and everything else stands for itself; what
stands for itself in the format has its percent signs doubled. What is then written is
told by the directives alone (`LocalMoment.writeDirectives?`).

The second language knows no brackets, and it fails: a percent sign that opens none of
the directives below leaves nothing to write.
-/

namespace FormChain

namespace Calendar

/-! ### The second language -/

/-- What the directives stand for, each spelled as behind the percent sign. A minus sign
asks for a number without a zero in front. -/
def directives : List (List Char × Token) :=
  [("Y", .year), ("y", .shortYear), ("B", .monthName), ("b", .shortMonthName),
   ("m", .month), ("-m", .bareMonth), ("d", .day), ("-d", .bareDay), ("A", .weekdayName),
   ("a", .shortWeekdayName), ("w", .weekday), ("H", .hour), ("-H", .bareHour),
   ("I", .dialHour), ("-I", .bareDialHour), ("M", .minute), ("-M", .bareMinute),
   ("S", .second), ("-S", .bareSecond), ("3f", .milli), ("p", .halfDay),
   ("P", .smallHalfDay), ("z", .offset), (":z", .colonOffset),
   ("s", .epochSecond)].map fun (s, t) => (s.toList, t)

/-- The directive that a text behind a percent sign starts with, and its length. Two
percent signs are one that stands for itself. -/
def directiveAt? (cs : List Char) : Option (Nat × FormatPiece) :=
  match cs with
  | '%' :: _ => some (1, .plain ['%'])
  | _ =>
    (directives.find? fun (s, _) => s.isPrefixOf cs).map fun (s, t) => (s.length, .token t)

/-- Read a row of directives, passing over the first `skip` characters. -/
def directivesAfter? : (skip : Nat) → List Char → Option (List FormatPiece)
  | _, [] => some []
  | skip + 1, _ :: rest => directivesAfter? skip rest
  | 0, c :: rest =>
    if c = '%' then
      (directiveAt? rest).bind fun (length, p) =>
        (directivesAfter? length rest).map (p :: ·)
    else (directivesAfter? 0 rest).map (.plain [c] :: ·)

/-! ### From one language to the other -/

/-- The directive that is put for a token. -/
def Token.directive : Token → String
  | .year => "Y"
  | .monthName => "B"
  | .weekdayName => "A"
  | .shortMonthName => "b"
  | .shortWeekdayName => "a"
  | .milli => "3f"
  | .shortYear => "y"
  | .month => "m"
  | .day => "d"
  | .hour => "H"
  | .dialHour => "I"
  | .minute => "M"
  | .second => "S"
  | .offset => "z"
  | .bareMonth => "-m"
  | .bareDay => "-d"
  | .bareHour => "-H"
  | .bareDialHour => "-I"
  | .bareMinute => "-M"
  | .bareSecond => "-S"
  | .weekday => "w"
  | .halfDay => "p"
  | .smallHalfDay => "P"
  | .colonOffset => ":z"
  | .epochSecond => "s"

/-- A text that stands for itself, with every percent sign doubled. -/
def escaped (cs : List Char) : List Char :=
  cs.flatMap fun c => if c = '%' then ['%', '%'] else [c]

/-- What is put for a piece of a format. -/
def FormatPiece.asDirectives : FormatPiece → List Char
  | .plain cs => escaped cs
  | .token t => '%' :: t.directive.toList

/-- **A format as a row of directives.** -/
def asDirectives (format : String) : List Char :=
  (formatPieces format).flatMap (·.asDirectives)

end Calendar

open Calendar

/-- What a row of directives writes of a moment, when it can be read. -/
def LocalMoment.writeDirectives? (t : LocalMoment) (cs : List Char) : Option String :=
  (directivesAfter? 0 cs).map fun ps => String.join (ps.map (·.text t))

/-- **A moment written in a format** by way of directives. -/
def LocalMoment.format? (t : LocalMoment) (format : String) : Option String :=
  t.writeDirectives? (asDirectives format)

end FormChain
