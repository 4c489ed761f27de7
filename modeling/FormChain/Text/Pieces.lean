/-!
# Cutting texts

Cutting a text at a separator, into lines, or around the first or last occurrence
of a character, and looking for one text in another. All of it works on lists of
characters.

Main statement: the lines of a text, each with its terminator, join back to the
text (`flatten_linesWithEnds`).
-/

namespace FormChain.Text

/-! ### Separators -/

/-- **The pieces between separators.** There is one more of them than there are
separators, so the empty text has one empty piece. -/
def pieces (sep : Char) : List Char → List (List Char)
  | [] => [[]]
  | c :: rest =>
    if c = sep then [] :: pieces sep rest
    else match pieces sep rest with
      | [] => [[c]]
      | p :: ps => (c :: p) :: ps

/-- Pieces joined by a separator; undoes `pieces`. -/
def joinPieces (sep : Char) : List (List Char) → List Char
  | [] => []
  | [p] => p
  | p :: ps => p ++ sep :: joinPieces sep ps

/-- The text before and after the first `sep`, when there is one. -/
def cutFirst? (sep : Char) : List Char → Option (List Char × List Char)
  | [] => none
  | c :: rest =>
    if c = sep then some ([], rest)
    else (cutFirst? sep rest).map fun (head, tail) => (c :: head, tail)

/-- The text before and after the last `sep`, when there is one. -/
def cutLast? (sep : Char) (cs : List Char) : Option (List Char × List Char) :=
  (cutFirst? sep cs.reverse).map fun (tail, head) => (head.reverse, tail.reverse)

/-! ### Lines -/

/-- **The lines of a text, each with the line feed that ends it.** The last line
may lack one, and no line is empty. -/
def linesWithEnds : List Char → List (List Char)
  | [] => []
  | c :: rest =>
    if c = '\n' then ['\n'] :: linesWithEnds rest
    else match rest, linesWithEnds rest with
      | [], _ => [[c]]
      | _, [] => [[c]]
      | _, l :: ls => (c :: l) :: ls

/-- A line without the line feed that ends it, and without a carriage return
before that. -/
def withoutLineEnd (line : List Char) : List Char :=
  match line.reverse with
  | '\n' :: '\r' :: rest => rest.reverse
  | '\n' :: rest => rest.reverse
  | _ => line

/-- The lines of a text without their ends. -/
def lines (cs : List Char) : List (List Char) :=
  (linesWithEnds cs).map withoutLineEnd

/-- The lines of a text, with their ends, join back to the text. -/
theorem flatten_linesWithEnds (cs : List Char) : (linesWithEnds cs).flatten = cs := by
  induction cs with
  | nil => rfl
  | cons c rest ih =>
    by_cases h : c = '\n'
    · simp [linesWithEnds, h, ih]
    · cases rest with
      | nil => simp [linesWithEnds, h]
      | cons d ds =>
        cases hl : linesWithEnds (d :: ds) with
        | nil => simp [hl] at ih
        | cons l ls =>
          simp only [linesWithEnds] at hl
          simp_all [linesWithEnds]

/-! ### Looking for one text in another -/

/-- What follows `needle` at the very start of a text. -/
def after? : (needle cs : List Char) → Option (List Char)
  | [], cs => some cs
  | _ :: _, [] => none
  | n :: ns, c :: cs => if n = c then after? ns cs else none

/-- What follows the first occurrence of `needle` in a text. -/
def afterFirst? (needle : List Char) : List Char → Option (List Char)
  | [] => after? needle []
  | c :: rest => (after? needle (c :: rest)).orElse fun _ => afterFirst? needle rest

/-- Whether `needle` occurs in a text. -/
def occursIn (needle cs : List Char) : Bool :=
  (afterFirst? needle cs).isSome

/-- Whether a text ends with `tail`. -/
def endsWith (cs tail : List Char) : Bool :=
  (after? tail.reverse cs.reverse).isSome

/-- Whether two texts are the same up to the case of ASCII letters. -/
def sameIgnoringCase (s t : String) : Bool :=
  s.toList.map Char.toLower == t.toList.map Char.toLower

/-- Texts joined with `sep` between neighbours. -/
def joined (sep : String) (xs : List String) : String :=
  String.intercalate sep xs

end FormChain.Text
