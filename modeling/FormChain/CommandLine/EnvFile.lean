import FormChain.Keyed
import FormChain.Text.Blank
import FormChain.Text.Pieces
import FormChain.Unicode.Alphabetic

/-!
# Files with variables of the environment

A file with a variable on every line, `NAME=value`. Quotes keep blanks together and may
reach over several lines; a number sign behind a blank starts a comment; `$NAME` stands
for the value of a variable. A variable that the environment has already keeps its
value.

The first line that breaks these rules ends the reading; what was read before it counts.
-/

namespace FormChain

/-- The name of the file with variables, in the folder that the program was started in. -/
def CommandLine.envFileName : String := ".env"

namespace EnvFile

/-! ### Lines -/

/-- Where in a line reading stands. -/
inductive Place where
  /-- Outside of quotes. -/
  | plain
  /-- Behind a blank. -/
  | behindBlank
  /-- Behind a backslash. -/
  | escaped
  /-- In single quotes. -/
  | inSingle
  /-- In single quotes, behind a backslash. -/
  | inSingleEscaped
  /-- In double quotes. -/
  | inDouble
  /-- In double quotes, behind a backslash. -/
  | inDoubleEscaped
  deriving DecidableEq, Repr

/-- The place that a character outside of quotes leads to. -/
def Place.opened (c : Char) : Place :=
  if c = '\\' then escaped
  else if c = '"' then inDouble
  else if c = '\'' then inSingle
  else plain

/-- The place behind a character. -/
def Place.behind (p : Place) (c : Char) : Place :=
  match p with
  | plain =>
    if isBlank c && c ≠ '\n' && c ≠ '\r' then behindBlank else opened c
  | behindBlank => opened c
  | escaped => plain
  | inSingle => if c = '\\' then inSingleEscaped else if c = '\'' then plain else inSingle
  | inSingleEscaped => inSingle
  | inDouble => if c = '\\' then inDoubleEscaped else if c = '"' then plain else inDouble
  | inDoubleEscaped => inDouble

/-- Walk through a line: what stands before a comment if there is one, and the place
behind the line. -/
def scan (p : Place) : List Char → Option (List Char) × Place
  | [] => (none, p)
  | c :: rest =>
    if p = .behindBlank && c = '#' then (some [], p)
    else
      let (kept, q) := scan (p.behind c) rest
      (kept.map (c :: ·), q)

/-- **Lines put together** where quotes reach over their ends. What is left open at the
end is no line. -/
def logicalLines (p : Place) (before : List Char) : List (List Char) → List (Option (List Char))
  | [] => if p = .plain then [] else [none]
  | line :: rest =>
    let all := before ++ line
    if (Text.trimStart all).head? = some '#' then some [] :: logicalLines .plain [] rest
    else
      match scan p line with
      | (some kept, _) => some (before ++ kept) :: logicalLines .plain [] rest
      | (none, .plain) => some (Text.withoutLineEnd all) :: logicalLines .plain [] rest
      | (none, q) => logicalLines q all rest

/-! ### Values -/

/-- Where in a value reading stands. -/
inductive ValuePlace where
  /-- Outside of single quotes. -/
  | plain
  /-- Behind a backslash. -/
  | escaped
  /-- In single quotes. -/
  | inSingle
  /-- In the name of a variable. -/
  | name (read : List Char)
  /-- In the name of a variable between braces. -/
  | braced (read : List Char)
  /-- Behind the value. -/
  | ended
  deriving DecidableEq, Repr

/-- The value of a variable, or nothing. -/
def valueOf (env : Keyed String) (name : List Char) : List Char :=
  ((env.get? (String.ofList name)).getD "").toList

/-- Characters that stand for themselves behind a backslash. -/
def escapable : List Char := ['\\', '\'', '"', '$', ' ']

/-- **Read a value.** The flag tells whether reading is in double quotes. -/
def readValue (env : Keyed String) (inDouble : Bool) (p : ValuePlace) (out : List Char) :
    List Char → Option (List Char)
  | [] =>
    match p with
    | .inSingle => none
    | .braced _ => none
    | .name read => if inDouble then none else some (out ++ valueOf env read)
    | _ => if inDouble then none else some out
  | c :: rest =>
    match p with
    | .ended =>
      if c = ' ' || c = '\t' then readValue env inDouble .ended out rest
      else if c = '#' then some out
      else none
    | .escaped =>
      if escapable.contains c then readValue env inDouble .plain (out ++ [c]) rest
      else if c = 'n' then readValue env inDouble .plain (out ++ ['\n']) rest
      else none
    | .inSingle =>
      if c = '\'' then readValue env inDouble .plain out rest
      else readValue env inDouble .inSingle (out ++ [c]) rest
    | .name read =>
      if Unicode.isAlphanumeric c then readValue env inDouble (.name (read ++ [c])) out rest
      else if c = '{' && read.isEmpty then readValue env inDouble (.braced []) out rest
      else if c = '$' then readValue env inDouble (.name []) (out ++ valueOf env read) rest
      else readValue env inDouble .plain (out ++ valueOf env read ++ [c]) rest
    | .braced read =>
      if c = '}' then readValue env inDouble .plain (out ++ valueOf env read) rest
      else readValue env inDouble (.braced (read ++ [c])) out rest
    | .plain =>
      if c = '$' then readValue env inDouble (.name []) out rest
      else if c = '\\' then readValue env inDouble .escaped out rest
      else if c = '"' then readValue env (!inDouble) .plain out rest
      else if inDouble then readValue env inDouble .plain (out ++ [c]) rest
      else if c = '\'' then readValue env inDouble .inSingle out rest
      else if c = ' ' || c = '\t' then readValue env inDouble .ended out rest
      else readValue env inDouble .plain (out ++ [c]) rest

/-! ### Assignments -/

/-- Whether a name can start so. -/
def startsName (c : Char) : Bool :=
  c.isAlpha || c = '_'

/-- Whether a name can go on so. -/
def continuesName (c : Char) : Bool :=
  c.isAlphanum || c = '_' || c = '.'

/-- A name, and what follows without blanks in front. -/
def name? (cs : List Char) : Option (List Char × List Char) :=
  match cs with
  | c :: _ =>
    if startsName c then
      some (cs.takeWhile continuesName, Text.trimStart (cs.dropWhile continuesName))
    else none
  | [] => none

/-- What follows an equals sign. -/
def afterEqual? : List Char → Option (List Char)
  | '=' :: rest => some rest
  | _ => none

/-- The word that may stand in front of an assignment. -/
def exportWord : List Char := "export".toList

/-- A name and what follows its equals sign. -/
def assignment? (cs : List Char) : Option (List Char × List Char) := do
  let (name, rest) ← name? cs
  match afterEqual? rest with
  | some value => return (name, value)
  | none =>
    if name = exportWord then
      let (name, rest) ← name? rest
      return (name, ← afterEqual? rest)
    else none

/-- What a line says: nothing, or a name and a value. -/
def readLine (env : Keyed String) (line : List Char) : Option (Option (String × String)) :=
  match Text.trimStart (Text.trimEnd line) with
  | [] => some none
  | '#' :: _ => some none
  | cs => do
    let (name, rest) ← assignment? cs
    match Text.trimStart rest with
    | [] => return some (String.ofList name, "")
    | '#' :: _ => return some (String.ofList name, "")
    | value =>
      return some (String.ofList name, String.ofList (← readValue env false .plain [] value))

/-! ### The file -/

/-- The environment with what lines say, up to the first that breaks the rules. -/
def readLines (env : Keyed String) : List (Option (List Char)) → Keyed String
  | [] => env
  | none :: _ => env
  | some line :: rest =>
    match readLine env line with
    | none => env
    | some none => readLines env rest
    | some (some (name, value)) =>
      readLines (if env.has name then env else env.insert name value) rest

/-- A text without the mark of byte order in front. -/
def withoutMark (cs : List Char) : List Char :=
  match cs with
  | c :: rest => if c = Char.ofNat 0xFEFF then rest else cs
  | [] => []

/-- The texts between braces. -/
def braced (cs : List Char) : List (List Char) :=
  (Text.pieces '\x7b' cs).drop 1 |>.map fun piece => piece.takeWhile (· ≠ '\x7d')

/-- **The names that a file may refer to**: reading it depends on no other variable of the
environment. -/
def mentioned (text : String) : List String :=
  let cs := text.toList
  let names := cs.splitOnP (!continuesName ·) ++ cs.splitOnP (!Unicode.isAlphanumeric ·) ++ braced cs
  (names.filter (!·.isEmpty)).map String.ofList

/-- **The environment with the variables of a file.** -/
def load (env : Keyed String) (text : String) : Keyed String :=
  readLines env (logicalLines .plain [] (Text.linesWithEnds (withoutMark text.toList)))

end EnvFile

end FormChain
