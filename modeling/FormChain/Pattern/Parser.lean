import FormChain.Decimal.Integer
import FormChain.Pattern.Basic
import FormChain.Text.Blank

/-!
# The notation of patterns

Reads the usual notation of regular expressions: sets in brackets with intersection,
difference and symmetric difference, classes by property, counted repetitions, groups
with or without a name, and settings that hold to the end of their group. There is
neither looking around nor referring back; whoever asks for that, or writes an escape
that has no meaning, gets no pattern.
-/

namespace FormChain.Pattern

/-! ### Settings -/

/-- **The settings that a pattern is read with.** -/
structure Settings where
  /-- Case does not count. -/
  ignoreCase : Bool := false
  /-- `^` and `$` stand for the ends of lines. -/
  multiLine : Bool := false
  /-- A point stands for line feeds too. -/
  dotAll : Bool := false
  /-- Lines may end in a carriage return and a line feed. -/
  anyLineEnd : Bool := false
  /-- Classes reach beyond ASCII. -/
  unicode : Bool := true
  /-- Blanks and comments in the pattern do not count. -/
  verbose : Bool := false
  deriving DecidableEq, Repr

/-- What reading keeps: the rest of the pattern and the names of groups so far. -/
structure Reader where
  /-- What is still to be read. -/
  rest : List Char
  /-- The names of groups. -/
  names : List String := []

/-- Reading that may fail. -/
abbrev Read := StateT Reader Option

/-- No pattern. -/
def refuse {α : Type} : Read α := fun _ => none

/-- The rest of the pattern. -/
def peek : Read (List Char) := return (← get).rest

/-- Go on with another rest. -/
def goOn (cs : List Char) : Read Unit := modify fun r => { r with rest := cs }

/-- A rest without blanks and comments at its start, where these do not count. -/
def withoutSpace (s : Settings) (fuel : Nat) (cs : List Char) : List Char :=
  match fuel with
  | 0 => cs
  | fuel + 1 =>
    if !s.verbose then cs
    else match cs with
      | [] => []
      | c :: rest =>
        if isBlank c then withoutSpace s fuel rest
        else if c = '#' then withoutSpace s fuel (rest.dropWhile (· ≠ '\n'))
        else cs

/-- Pass over blanks and comments, where these do not count. -/
def passSpace (s : Settings) : Read Unit := do
  let cs ← peek
  goOn (withoutSpace s (cs.length + 1) cs)

/-- Pass over a character that must come next. -/
def expect (c : Char) : Read Unit := do
  match ← peek with
  | d :: rest => if c = d then goOn rest else refuse
  | [] => refuse

/-! ### Settings in groups -/

/-- Change one setting. -/
def Settings.change (s : Settings) (on : Bool) (letter : Char) : Option Settings :=
  match letter with
  | 'i' => some { s with ignoreCase := on }
  | 'm' => some { s with multiLine := on }
  | 's' => some { s with dotAll := on }
  | 'R' => some { s with anyLineEnd := on }
  | 'u' => some { s with unicode := on }
  | 'x' => some { s with verbose := on }
  | 'U' => some s
  | _ => none

/-- Read letters of settings up to a colon or parenthesis. `on` tells whether a hyphen
has been passed, `seen` are the letters so far. -/
def changeSettings : (fuel : Nat) → Settings → (on : Bool) → (seen : List Char) → Read Settings
  | 0, _, _, _ => refuse
  | fuel + 1, s, on, seen => do
    match ← peek with
    | [] => refuse
    | c :: rest =>
      if c = ':' || c = ')' then
        if seen.head? = some '-' then refuse else return s
      else if c = '-' then
        if on then
          goOn rest
          changeSettings fuel s false ('-' :: seen)
        else refuse
      else if seen.contains c then refuse
      else match s.change on c with
        | none => refuse
        | some s =>
          goOn rest
          changeSettings fuel s on (c :: seen)

/-! ### Escapes -/

/-- What an escape stands for. -/
inductive Escaped where
  /-- A character. -/
  | char (c : Char)
  /-- A set. -/
  | set (s : CharSet)
  /-- A kind of place. -/
  | place (l : Look)

/-- Characters that have a meaning of their own in patterns. -/
def metaCharacters : List Char := "\\.+*?()|[]\x7b\x7d^$#&-~".toList

/-- Whether a character may be escaped to stand for itself. -/
def mayBeEscaped (c : Char) : Bool :=
  metaCharacters.contains c ||
    (c.toNat < 0x80 && !c.isAlphanum && c ≠ '<' && c ≠ '>')

/-- Characters with an escape of their own. -/
def charEscapes : List (Char × Char) :=
  [('a', Char.ofNat 7), ('f', Char.ofNat 0x0C), ('t', '\t'), ('n', '\n'), ('r', '\r'),
   ('v', Char.ofNat 0x0B)]

/-- The value of a hexadecimal digit. -/
def hexValue? (c : Char) : Option Nat :=
  Unicode.RangeTable.hexDigit? c

/-- The character of a code point. -/
def charOf? (n : Nat) : Option Char :=
  if n.isValidChar then some (Char.ofNat n) else none

/-- The number of hexadecimal digits. -/
def hexNumber? (ds : List Char) : Option Nat :=
  ds.foldlM (fun n c => (hexValue? c).map (n * 16 + ·)) 0

/-- Read the digits of a character's code: a fixed number of them, or any number in
braces. -/
def readHex (s : Settings) (digits : Nat) : Read Char := do
  passSpace s
  let cs ← peek
  match cs with
  | '{' :: rest =>
    let ds := rest.takeWhile (· ≠ '}')
    match rest.drop ds.length with
    | _ :: behind =>
      goOn behind
      let ds := if s.verbose then ds.filter fun c => !isBlank c else ds
      if ds.isEmpty || 8 < ds.length then refuse
      else match (hexNumber? ds).bind charOf? with
        | some c => return c
        | none => refuse
    | [] => refuse
  | _ =>
    let ds := cs.take digits
    if ds.length < digits then refuse
    else match (hexNumber? ds).bind charOf? with
      | some c =>
        goOn (cs.drop digits)
        return c
      | none => refuse

/-- Cut a name at the first of some separators that occurs. -/
def cutName (name : List Char) : Option (List Char × List Char × Bool) :=
  let rec notEqual : List Char → List Char → Option (List Char × List Char)
    | before, '!' :: '=' :: rest => some (before.reverse, rest)
    | before, c :: rest => notEqual (c :: before) rest
    | _, [] => none
  match notEqual [] name with
  | some (a, b) => some (a, b, true)
  | none =>
    let at_ (c : Char) : Option (List Char × List Char × Bool) :=
      if name.contains c then
        some (name.takeWhile (· ≠ c), (name.dropWhile (· ≠ c)).drop 1, false)
      else none
    (at_ ':').or (at_ '=')

/-- Read a class by property, behind `p` or `P`. -/
def readProperty (s : Settings) (negated : Bool) : Read CharSet := do
  if !s.unicode then refuse
  passSpace s
  match ← peek with
  | '{' :: rest =>
    let name := rest.takeWhile (· ≠ '}')
    match rest.drop name.length with
    | _ :: behind =>
      goOn behind
      let name := if s.verbose then name.filter fun c => !isBlank c else name
      match cutName name with
      | some (a, b, differs) =>
        match CharSet.ofNameAndValue? a b with
        | some set => return set.complIf (negated != differs)
        | none => refuse
      | none =>
        match CharSet.ofName? name with
        | some set => return set.complIf negated
        | none => refuse
    | [] => refuse
  | c :: rest =>
    goOn rest
    match CharSet.ofName? [c] with
    | some set => return set.complIf negated
    | none => refuse
  | [] => refuse

/-- The characters of words under the settings. -/
def Settings.word (s : Settings) : CharSet :=
  if s.unicode then .word else .asciiWord

/-- A named class under the settings; beyond ASCII is out of reach where classes stay in
it. -/
def Settings.shorthand (s : Settings) (negated : Bool) (wide narrow : CharSet) :
    Option CharSet :=
  if s.unicode then some (wide.complIf negated)
  else if negated then none else some narrow

/-- Names of edges of words. -/
def wordEdges (w : CharSet) : List (String × Look) :=
  [("start", .wordStart w), ("end", .wordStop w), ("start-half", .noWordBefore w),
   ("end-half", .noWordBehind w)]

/-- Read what may follow `\b`: the name of an edge in braces. -/
def readWordEdge (s : Settings) : Read Look := do
  match ← peek with
  | '{' :: rest =>
    let isName (c : Char) : Bool := c.isAlpha || c = '-'
    match withoutSpace s (rest.length + 1) rest with
    | [] => refuse
    | c :: more =>
      if isName c then
        let name := (c :: more).takeWhile isName
        match (c :: more).drop name.length with
        | '}' :: behind =>
          goOn behind
          match (wordEdges s.word).lookup (String.ofList name) with
          | some l => return l
          | none => refuse
        | _ => refuse
      else return .wordEdge s.word
  | _ => return .wordEdge s.word

/-- Lift a choice that may be impossible. -/
def orRefuse {α : Type} : Option α → Read α
  | some a => return a
  | none => refuse

/-- **Read an escape**, behind its backslash. -/
def readEscape (s : Settings) : Read Escaped := do
  match ← peek with
  | [] => refuse
  | c :: rest =>
    goOn rest
    match c with
    | 'x' => return .char (← readHex s 2)
    | 'u' => return .char (← readHex s 4)
    | 'U' => return .char (← readHex s 8)
    | 'p' => return .set (← readProperty s false)
    | 'P' => return .set (← readProperty s true)
    | 'd' => return .set (← orRefuse (s.shorthand false .digit .asciiDigit))
    | 'D' => return .set (← orRefuse (s.shorthand true .digit .asciiDigit))
    | 's' => return .set (← orRefuse (s.shorthand false .space .asciiSpace))
    | 'S' => return .set (← orRefuse (s.shorthand true .space .asciiSpace))
    | 'w' => return .set (← orRefuse (s.shorthand false .word .asciiWord))
    | 'W' => return .set (← orRefuse (s.shorthand true .word .asciiWord))
    | 'A' => return .place .start
    | 'z' => return .place .stop
    | 'b' => return .place (← readWordEdge s)
    | 'B' => return .place (.noWordEdge s.word)
    | '<' => return .place (.wordStart s.word)
    | '>' => return .place (.wordStop s.word)
    | c =>
      match charEscapes.lookup c with
      | some d => return .char d
      | none => if mayBeEscaped c then return .char c else refuse

/-! ### Sets in brackets -/

/-- What a member of a set is: a character, which may start a range, or a set. -/
inductive Member where
  /-- A character. -/
  | char (c : Char)
  /-- A set. -/
  | set (s : CharSet)

/-- How two sets are combined. -/
inductive Combination where
  /-- Members of both. -/
  | inter
  /-- Members of the first alone. -/
  | diff
  /-- Members of one alone. -/
  | symmDiff

/-- Combine two sets. -/
def Combination.apply : Combination → CharSet → CharSet → CharSet
  | inter, s, t => s.inter t
  | diff, s, t => s.diff t
  | symmDiff, s, t => s.symmDiff t

/-- A set with the characters that equal a member up to case, where case does not
count. -/
def Settings.fold (s : Settings) (set : CharSet) : CharSet :=
  if s.ignoreCase then .folded set else set

/-- A single character as a set, where that is within reach. -/
def Settings.charSet (s : Settings) (c : Char) : Option CharSet :=
  if s.unicode || c.toNat < 0x80 then some (.single c) else none

/-- Read one end of a range, or a set. -/
def readMember (s : Settings) : Read Member := do
  match ← peek with
  | [] => refuse
  | '\\' :: rest =>
    goOn rest
    match ← readEscape s with
    | .char c => return .char c
    | .set t => return .set t
    | .place _ => refuse
  | c :: rest =>
    goOn rest
    return .char c

/-- The rest of a pattern from its second character on, blanks aside. -/
def behindNext (s : Settings) (cs : List Char) : List Char :=
  withoutSpace s (cs.length + 1) (cs.drop 1)

/-- Read a character, a range or a set inside brackets. -/
def readRange (s : Settings) : Read CharSet := do
  let m ← readMember s
  passSpace s
  let cs ← peek
  let single : Read CharSet := match m with
    | .char c => orRefuse (s.charSet c)
    | .set t => return t
  match cs with
  | [] => refuse
  | c :: _ =>
    let next := (behindNext s cs).head?
    if c ≠ '-' || next = some ']' || next = some '-' then single
    else
      goOn (cs.drop 1)
      passSpace s
      let n ← readMember s
      match m, n with
      | .char a, .char b =>
        if a ≤ b && (s.unicode || b.toNat < 0x80) then return .range a b else refuse
      | _, _ => refuse

/-- The class of ASCII that stands at the start of a pattern, and what follows. -/
def namedClass? (cs : List Char) : Option (CharSet × List Char) :=
  match cs with
  | '[' :: ':' :: rest =>
    let (negated, rest) := match rest with
      | '^' :: more => (true, more)
      | _ => (false, rest)
    let name := rest.takeWhile (· ≠ ':')
    match rest.drop name.length with
    | ':' :: ']' :: behind =>
      (CharSet.namedAscii.lookup (String.ofList name)).map fun set =>
        (set.complIf negated, behind)
    | _ => none
  | _ => none

/-- Take hyphens at the start of a set. -/
def leadingHyphens : (fuel : Nat) → Settings → List CharSet → Read (List CharSet)
  | 0, _, items => return items
  | fuel + 1, s, items => do
    match ← peek with
    | '-' :: rest =>
      goOn rest
      passSpace s
      leadingHyphens fuel s (.single '-' :: items)
    | _ => return items

mutual

/-- **Read a set in brackets**, behind its opening bracket. -/
def readSet (fuel : Nat) (s : Settings) : Read CharSet :=
  match fuel with
  | 0 => refuse
  | fuel + 1 => do
    passSpace s
    let negated ← match ← peek with
      | '^' :: rest => do
        goOn rest
        passSpace s
        pure true
      | _ => pure false
    let items ← leadingHyphens fuel s []
    let items ← match items, ← peek with
      | [], ']' :: rest => do
        goOn rest
        pure [CharSet.single ']']
      | _, _ => pure items
    let set ← readItems fuel s none items
    if negated && !s.unicode then refuse
    return (s.fold set).complIf negated

/-- Read the members of a set up to its closing bracket. `pending` is what stands before
the last operator. -/
def readItems (fuel : Nat) (s : Settings) (pending : Option (CharSet × Combination))
    (items : List CharSet) : Read CharSet :=
  match fuel with
  | 0 => refuse
  | fuel + 1 => do
    let close : CharSet :=
      let last := CharSet.unionAll items.reverse
      match pending with
      | none => last
      | some (first, op) => op.apply (s.fold first) (s.fold last)
    passSpace s
    let cs ← peek
    match cs with
    | [] => refuse
    | ']' :: rest =>
      goOn rest
      return close
    | '&' :: '&' :: rest =>
      goOn rest
      readItems fuel s (some (close, .inter)) []
    | '-' :: '-' :: rest =>
      goOn rest
      readItems fuel s (some (close, .diff)) []
    | '~' :: '~' :: rest =>
      goOn rest
      readItems fuel s (some (close, .symmDiff)) []
    | '[' :: rest =>
      match namedClass? cs with
      | some (set, behind) =>
        goOn behind
        readItems fuel s pending (set :: items)
      | none =>
        goOn rest
        let set ← readSet fuel s
        readItems fuel s pending (set :: items)
    | _ =>
      let set ← readRange s
      readItems fuel s pending (set :: items)

end

/-! ### Repetitions -/

/-- A number in a counted repetition, blanks around it aside. -/
def readCount : Read (Option Nat) := do
  let cs := Text.trimStart (← peek)
  let ds := cs.takeWhile Decimal.isDigit
  goOn (Text.trimStart (cs.drop ds.length))
  if ds.isEmpty then return none
  else
    let n := Decimal.value ds
    if n ≤ Decimal.maxNat32 then return some n else refuse

/-- Pass over the sign of a reluctant repetition; it makes no difference to what is
found. -/
def passReluctant (s : Settings) : Read Unit := do
  passSpace s
  match ← peek with
  | '?' :: rest => goOn rest
  | _ => return ()

/-- Read the bounds of a counted repetition, behind its opening brace. -/
def readBounds : Read (Nat × Option Nat) := do
  let least ← readCount
  match ← peek with
  | '}' :: rest =>
    goOn rest
    match least with
    | some n => return (n, some n)
    | none => refuse
  | ',' :: rest =>
    goOn rest
    match Text.trimStart rest with
    | [] => refuse
    | '}' :: behind =>
      goOn behind
      match least with
      | some n => return (n, none)
      | none => refuse
    | _ =>
      let most ← readCount
      expect '}'
      match least, most with
      | some n, some m => if n ≤ m then return (n, some m) else refuse
      | _, _ => refuse
  | _ => refuse

/-! ### Patterns -/

/-- A member of a row: a pattern, or a change of settings, which cannot be repeated. -/
inductive Item where
  /-- A pattern. -/
  | pattern (p : Pattern)
  /-- A change of settings. -/
  | change

/-- The pattern of a row, given its members last first. -/
def rowOf (items : List Item) : Pattern :=
  seqAll (items.reverse.filterMap fun
    | .pattern p => some p
    | .change => none)

/-- Repeat the last member of a row. -/
def repeatLast (least : Nat) (most : Option Nat) : List Item → Read (List Item)
  | .pattern p :: rest => return .pattern (.repeated p least most) :: rest
  | _ => refuse

/-- The set of any character under a point. -/
def Settings.dot (s : Settings) : CharSet :=
  if s.dotAll then .any
  else if s.anyLineEnd then .compl ((CharSet.single '\r').union (.single '\n'))
  else .compl (.single '\n')

/-- A character of a pattern. -/
def Settings.char (s : Settings) (c : Char) : Pattern :=
  if s.unicode then .one (s.fold (.single c))
  else if s.ignoreCase && c.isAlpha then
    .one ((CharSet.single c.toLower).union (.single c.toUpper))
  else .one (.single c)

/-- The place that `^` stands for. -/
def Settings.caret (s : Settings) : Look :=
  if s.multiLine then (if s.anyLineEnd then .lineStartAny else .lineStart) else .start

/-- The place that `$` stands for. -/
def Settings.dollar (s : Settings) : Look :=
  if s.multiLine then (if s.anyLineEnd then .lineStopAny else .lineStop) else .stop

/-- Whether a character may stand in the name of a group. -/
def isGroupNameChar (first : Bool) (c : Char) : Bool :=
  c = '_' ||
    (if first then Unicode.isAlphabetic c
     else c = '.' || c = '[' || c = ']' || Unicode.isAlphanumeric c)

/-- Read the name of a group up to its closing angle. -/
def readGroupName : Read Unit := do
  let cs ← peek
  let name := cs.takeWhile (· ≠ '>')
  match name, cs.drop name.length with
  | c :: more, _ :: behind =>
    let text := String.ofList name
    let r ← get
    if isGroupNameChar true c && more.all (isGroupNameChar false) && !r.names.contains text then
      set { r with rest := behind, names := text :: r.names }
    else refuse
  | _, _ => refuse

/-- How deeply groups may lie inside one another. -/
def maxNesting : Nat := 250

mutual

/-- Read alternatives up to a closing parenthesis or the end, which is left there. -/
def readAlternatives (fuel nesting : Nat) (s : Settings) (before : List Pattern)
    (items : List Item) : Read Pattern :=
  match fuel with
  | 0 => refuse
  | fuel + 1 => do
    passSpace s
    let cs ← peek
    match cs with
    | [] => return altAll (rowOf items :: before).reverse
    | ')' :: _ => return altAll (rowOf items :: before).reverse
    | '|' :: rest =>
      goOn rest
      readAlternatives fuel nesting s (rowOf items :: before) []
    | '(' :: rest =>
      goOn rest
      let (item, s) ← readGroup fuel nesting s
      readAlternatives fuel nesting s before (item :: items)
    | '[' :: rest =>
      goOn rest
      let set ← readSet fuel s
      readAlternatives fuel nesting s before (.pattern (.one set) :: items)
    | '?' :: rest =>
      goOn rest
      passReluctant s
      let items ← repeatLast 0 (some 1) items
      readAlternatives fuel nesting s before items
    | '*' :: rest =>
      goOn rest
      passReluctant s
      let items ← repeatLast 0 none items
      readAlternatives fuel nesting s before items
    | '+' :: rest =>
      goOn rest
      passReluctant s
      let items ← repeatLast 1 none items
      readAlternatives fuel nesting s before items
    | '{' :: rest =>
      goOn rest
      let (least, most) ← readBounds
      passReluctant s
      let items ← repeatLast least most items
      readAlternatives fuel nesting s before items
    | c :: rest =>
      goOn rest
      let p ← readSingle s c
      readAlternatives fuel nesting s before (.pattern p :: items)

/-- Read a character, a point, a place or an escape whose first character has been
passed. -/
def readSingle (s : Settings) (c : Char) : Read Pattern :=
  match c with
  | '\\' => do
    match ← readEscape s with
    | .char c => return s.char c
    | .set t => return .one t
    | .place l => return .look l
  | '.' => if s.unicode then return .one s.dot else refuse
  | '^' => return .look s.caret
  | '$' => return .look s.dollar
  | c => return s.char c

/-- Read a group or a change of settings, behind the opening parenthesis. -/
def readGroup (fuel nesting : Nat) (s : Settings) : Read (Item × Settings) :=
  match fuel, nesting with
  | 0, _ => refuse
  | _, 0 => refuse
  | fuel + 1, nesting + 1 => do
    passSpace s
    let body (inner : Settings) : Read (Item × Settings) := do
      let p ← readAlternatives fuel nesting inner [] []
      expect ')'
      return (.pattern p, s)
    let named (rest : List Char) : Read (Item × Settings) := do
      goOn rest
      readGroupName
      body s
    match ← peek with
    | '?' :: '=' :: _ => refuse
    | '?' :: '!' :: _ => refuse
    | '?' :: '<' :: '=' :: _ => refuse
    | '?' :: '<' :: '!' :: _ => refuse
    | '?' :: 'P' :: '<' :: rest => named rest
    | '?' :: '<' :: rest => named rest
    | '?' :: rest =>
      goOn rest
      let inner ← changeSettings (rest.length + 1) s true []
      match rest, ← peek with
      | ')' :: _, _ => refuse
      | _, ':' :: behind =>
        goOn behind
        body inner
      | _, ')' :: behind =>
        goOn behind
        return (.change, inner)
      | _, _ => refuse
    | _ => body s

end

/-- The greatest size of a pattern. -/
def maxWeight : Nat := 400000

/-- **The pattern of a notation**, when it is one. -/
def parse? (s : Settings) (written : String) : Option Pattern :=
  let cs := written.toList
  match (readAlternatives (4 * cs.length + 4) maxNesting s [] []).run { rest := cs } with
  | some (p, r) => if r.rest.isEmpty && p.weight ≤ maxWeight then some p else none
  | none => none

end FormChain.Pattern
