import FormChain.Json.Document
import FormChain.Decimal.Real
import FormChain.Text.Utf8

/-!
# Reading JSON texts

`Document.read` turns a text into a document and says whether something stands behind
it. Reading goes on as far as one who skips could go, so a fault that only a reader
would notice does not hide what follows.

A list or object may lie inside at most 126 others to be read.
-/

namespace FormChain.Json

/-! ### Blanks -/

/-- Whether a character may stand between the parts of a JSON text. -/
def isSpace (c : Char) : Bool :=
  c = ' ' || c = '\n' || c = '\t' || c = '\r'

/-- A text without the blanks at its start. -/
def skipSpace (cs : List Char) : List Char :=
  cs.dropWhile isSpace

/-! ### Texts in quotes -/

/-- What lexing a text in quotes gives: the characters and what follows the closing
quote, with the first fault a reader would notice; or a stop. -/
inductive Quoted where
  /-- The closing quote was found. -/
  | closed (fault : Option SyntaxFault) (chars : List Char) (rest : List Char)
  /-- The text stopped before. -/
  | stopped (stop : Stop)

/-- The value of a hexadecimal digit. -/
def hexValue? (c : Char) : Option Nat :=
  if '0' ≤ c ∧ c ≤ '9' then some (c.toNat - '0'.toNat)
  else if 'a' ≤ c ∧ c ≤ 'f' then some (c.toNat - 'a'.toNat + 10)
  else if 'A' ≤ c ∧ c ≤ 'F' then some (c.toNat - 'A'.toNat + 10)
  else none

/-- The number of four hexadecimal digits at the start of a text, and what follows. -/
def fourHex? (cs : List Char) : Except SyntaxFault (Nat × List Char) :=
  match cs with
  | a :: b :: c :: d :: rest =>
    match hexValue? a, hexValue? b, hexValue? c, hexValue? d with
    | some a, some b, some c, some d => .ok (a * 0x1000 + b * 0x100 + c * 0x10 + d, rest)
    | _, _, _, _ => .error .badEscape
  -- four bytes that are fewer characters are no digits either
  | short => if Utf8.size short < 4 then .error .endInText else .error .badEscape

/-- The character of a short escape. -/
def shortEscape? (c : Char) : Option Char :=
  if c = '"' then some '"'
  else if c = '\\' then some '\\'
  else if c = '/' then some '/'
  else if c = 'b' then some (Char.ofNat 0x08)
  else if c = 'f' then some (Char.ofNat 0x0C)
  else if c = 'n' then some '\n'
  else if c = 'r' then some '\r'
  else if c = 't' then some '\t'
  else none

/-- What a reader makes of the sixteen bits `n` of an escape, given what follows it:
a character and what then follows, or a fault after which one who skips goes on. -/
def unitOrPair (n : Nat) (rest : List Char) : Except SyntaxFault (Char × List Char) :=
  if 0xDC00 ≤ n && n ≤ 0xDFFF then .error .loneSurrogate
  else if n < 0xD800 || 0xDBFF < n then .ok (Char.ofNat n, rest)
  else match rest with
    | '\\' :: 'u' :: more =>
      match fourHex? more with
      | .ok (low, behind) =>
        if 0xDC00 ≤ low && low ≤ 0xDFFF then
          .ok (Char.ofNat (0x10000 + (n - 0xD800) * 0x400 + (low - 0xDC00)), behind)
        else .error .loneSurrogate
      | .error fault => .error fault
    | [] => .error .endInText
    | ['\\'] => .error .endInText
    | _ => .error .surrogateCutShort

/-- Lex the inside of quotes. `soft` is the first fault that a reader would have
noticed by now, `before` the characters so far, last first. -/
def lexQuoted : (fuel : Nat) → (soft : Option SyntaxFault) → (before cs : List Char) → Quoted
  | 0, soft, _, _ => .stopped ⟨soft.getD .endInText, .endInText⟩
  | _ + 1, soft, _, [] => .stopped ⟨soft.getD .endInText, .endInText⟩
  | fuel + 1, soft, before, c :: rest =>
    if c = '"' then .closed soft before.reverse rest
    else if c = '\\' then
      match rest with
      | [] => .stopped ⟨soft.getD .endInText, .endInText⟩
      | e :: rest =>
        match shortEscape? e with
        | some x => lexQuoted fuel soft (x :: before) rest
        | none =>
          if e = 'u' then
            match fourHex? rest with
            | .error fault => .stopped ⟨soft.getD fault, fault⟩
            | .ok (n, rest) =>
              match unitOrPair n rest with
              | .ok (x, rest) => lexQuoted fuel soft (x :: before) rest
              -- one who skips takes no notice of surrogates
              | .error fault => lexQuoted fuel (soft.or (some fault)) before rest
          else .stopped ⟨soft.getD .badEscape, .badEscape⟩
    else if c.toNat < 0x20 then .stopped ⟨soft.getD .controlCharacter, .controlCharacter⟩
    else lexQuoted fuel soft (c :: before) rest

/-- Lex a text whose opening quote has been passed. -/
def quotedText (cs : List Char) : Quoted :=
  lexQuoted (cs.length + 1) none [] cs

/-! ### Numbers -/

/-- A digit is missing: a reader tells the end of the text from other things. -/
def digitMissing (rest : List Char) : Stop :=
  ⟨if rest.isEmpty then .endInValue else .badNumber, .badNumber⟩

/-- The digits behind a point, when there is a point. -/
def fractionPart (cs : List Char) : Except Stop (Option (List Char) × List Char) :=
  match cs with
  | '.' :: rest =>
    let (ds, behind) := Decimal.leadingDigits rest
    if ds.isEmpty then .error (digitMissing behind) else .ok (some ds, behind)
  | _ => .ok (none, cs)

/-- The exponent, when there is one. -/
def exponentPart (cs : List Char) : Except Stop (Option Int × List Char) :=
  match cs with
  | e :: rest =>
    if e = 'e' || e = 'E' then
      let (negative, rest) := match rest with
        | '-' :: more => (true, more)
        | '+' :: more => (false, more)
        | _ => (false, rest)
      let (ds, behind) := Decimal.leadingDigits rest
      if ds.isEmpty then .error (digitMissing behind)
      else
        let n := Int.ofNat (Decimal.value ds)
        .ok (some (if negative then -n else n), behind)
    else .ok (none, cs)
  | [] => .ok (none, cs)

/-- The digits before the point: at least one, and no zero before others. -/
def wholePart (cs : List Char) : Except Stop (List Char × List Char) :=
  let (ds, behind) := Decimal.leadingDigits cs
  match ds with
  | [] => .error (digitMissing behind)
  | '0' :: _ :: _ => .error (.plain .badNumber)
  | ds => .ok (ds, behind)

/-- **The number that a notation stands for.** Without point and exponent it is whole
if it fits its range, except that minus zero is a floating point number. -/
def numberOf (negative : Bool) (whole : List Char) (fraction : Option (List Char))
    (power : Option Int) : Document :=
  let n := Decimal.value whole
  let asReal := match Decimal.assembleDigits? whole (fraction.getD []) (power.getD 0) with
    | some x => .number (.real (if negative then -x else x))
    | none => .hugeNumber
  if fraction.isSome || power.isSome then asReal
  -- minus zero is none of the integers
  else if negative then
    if 0 < n && Decimal.minInt64 ≤ -(Int.ofNat n) then .number (.int (-(Int.ofNat n))) else asReal
  else if n ≤ Decimal.maxNat64 then .number (.int (Int.ofNat n)) else asReal

/-- Lex a number. -/
def lexNumber (cs : List Char) : Except Stop (Document × List Char) := do
  let (negative, cs) := match cs with
    | '-' :: rest => (true, rest)
    | _ => (false, cs)
  let (whole, cs) ← wholePart cs
  let (fraction, cs) ← fractionPart cs
  let (power, cs) ← exponentPart cs
  return (numberOf negative whole fraction power, cs)

/-! ### Values, lists and objects -/

/-- Lex the rest of a word. -/
def lexWord (value : Document) : (expected cs : List Char) → Document × Option (List Char)
  | [], cs => (value, some cs)
  | _ :: _, [] => (.broken (.plain .endInValue), none)
  | w :: ws, c :: cs =>
    if w = c then lexWord value ws cs else (.broken (.plain .wordExpected), none)

/-- What lexing the inside of a list or object gives: what was there, the stop if it
was not closed, and what follows if it was. -/
structure Inside (α : Type) where
  /-- The items or fields. -/
  parts : List α
  /-- Why it was not closed. -/
  stop : Option Stop := none
  /-- What follows the closing bracket or brace. -/
  rest : Option (List Char) := none

/-- One more part in front. -/
def Inside.push {α : Type} (a : α) (i : Inside α) : Inside α :=
  { i with parts := a :: i.parts }

mutual

/-- Lex a value. `depth` is how many levels a reader may still go down. -/
def lexValue (fuel depth : Nat) (cs : List Char) : Document × Option (List Char) :=
  match fuel with
  | 0 => (.broken (.plain .endInValue), none)
  | fuel + 1 =>
    match skipSpace cs with
    | [] => (.broken (.plain .endInValue), none)
    | 'n' :: rest => lexWord .null ['u', 'l', 'l'] rest
    | 't' :: rest => lexWord (.bool true) ['r', 'u', 'e'] rest
    | 'f' :: rest => lexWord (.bool false) ['a', 'l', 's', 'e'] rest
    | '"' :: rest =>
      match quotedText rest with
      | .closed none chars rest => (.text (String.ofList chars), some rest)
      | .closed (some fault) _ rest => (.badText fault, some rest)
      | .stopped stop => (.broken stop, none)
    | '[' :: rest =>
      let inside := lexItems fuel (depth - 1) true rest
      let d := Document.list inside.parts inside.stop
      (if depth = 0 then .deep d else d, inside.rest)
    | '{' :: rest =>
      let inside := lexFields fuel (depth - 1) true rest
      let d := Document.object inside.parts inside.stop
      (if depth = 0 then .deep d else d, inside.rest)
    | c :: rest =>
      if c = '-' || Decimal.isDigit c then
        match lexNumber (c :: rest) with
        | .ok (d, rest) => (d, some rest)
        | .error stop => (.broken stop, none)
      else (.broken (.plain .valueExpected), none)

/-- Lex the items of a list up to its closing bracket. -/
def lexItems (fuel depth : Nat) (first : Bool) (cs : List Char) : Inside Document :=
  match fuel with
  | 0 => { parts := [], stop := some (.plain .endInList) }
  | fuel + 1 =>
    match skipSpace cs with
    | [] => { parts := [], stop := some (.plain .endInList) }
    | ']' :: rest => { parts := [], rest := some rest }
    | c :: rest =>
      if first then lexItem fuel depth (c :: rest)
      else if c = ',' then
        match skipSpace rest with
        | [] => { parts := [], stop := some (.plain .endInValue) }
        | ']' :: _ => { parts := [], stop := some ⟨.strayComma, .valueExpected⟩ }
        | next => lexItem fuel depth next
      else { parts := [], stop := some (.plain .commaOrBracketExpected) }

/-- Lex one item and those behind it. -/
def lexItem (fuel depth : Nat) (cs : List Char) : Inside Document :=
  match fuel with
  | 0 => { parts := [], stop := some (.plain .endInList) }
  | fuel + 1 =>
    match lexValue fuel depth cs with
    | (d, some rest) => (lexItems fuel depth false rest).push d
    | (d, none) => { parts := [d] }

/-- Lex the fields of an object up to its closing brace. -/
def lexFields (fuel depth : Nat) (first : Bool) (cs : List Char) :
    Inside (Except SyntaxFault String × Document) :=
  match fuel with
  | 0 => { parts := [], stop := some (.plain .endInObject) }
  | fuel + 1 =>
    match skipSpace cs with
    | [] => { parts := [], stop := some (.plain .endInObject) }
    | '}' :: rest => { parts := [], rest := some rest }
    | c :: rest =>
      if first then
        if c = '"' then lexField fuel depth rest
        else { parts := [], stop := some (.plain .nameExpected) }
      else if c = ',' then
        match skipSpace rest with
        | [] => { parts := [], stop := some ⟨.endInValue, .endInObject⟩ }
        | '"' :: next => lexField fuel depth next
        | '}' :: _ => { parts := [], stop := some ⟨.strayComma, .nameExpected⟩ }
        | _ => { parts := [], stop := some (.plain .nameExpected) }
      else { parts := [], stop := some (.plain .commaOrBraceExpected) }

/-- Lex one field, whose opening quote has been passed, and those behind it. -/
def lexField (fuel depth : Nat) (cs : List Char) :
    Inside (Except SyntaxFault String × Document) :=
  match fuel with
  | 0 => { parts := [], stop := some (.plain .endInObject) }
  | fuel + 1 =>
    match quotedText cs with
    | .stopped stop => { parts := [], stop := some stop }
    | .closed fault chars rest =>
      let name := match fault with
        | none => .ok (String.ofList chars)
        | some fault => .error fault
      match skipSpace rest with
      | [] => { parts := [(name, .broken (.plain .endInObject))] }
      | ':' :: rest =>
        match lexValue fuel depth rest with
        | (d, some rest) => (lexFields fuel depth false rest).push (name, d)
        | (d, none) => { parts := [(name, d)] }
      | _ => { parts := [(name, .broken (.plain .colonExpected))] }

end

/-- How many levels of lists and objects can be read. -/
def readableDepth : Nat := 127

/-- A text as a document, and whether something but blanks stands behind it. -/
structure Reading where
  /-- The document at the start of the text. -/
  document : Document
  /-- Whether more follows. -/
  trailing : Bool

/-- **Read a text.** -/
def read (s : String) : Reading :=
  let cs := s.toList
  match lexValue (3 * cs.length + 3) readableDepth cs with
  | (d, some rest) => ⟨d, !(skipSpace rest).isEmpty⟩
  | (d, none) => ⟨d, false⟩

/-- **The value of a text**, when the whole text is a readable JSON text. -/
def parse? (s : String) : Except SyntaxFault Value := do
  let reading := read s
  let v ← reading.document.toValue
  if reading.trailing then .error .trailingText else .ok v

end FormChain.Json
