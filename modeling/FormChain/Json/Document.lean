import FormChain.Value.Basic

/-!
# JSON documents

A `Document` is what a JSON text says, before anyone has asked anything of it: fields
in the order of the text, repeated names kept, and faults left standing where they
are. A fault that stops the reading of the text can only be at the very end of what
is there; it is kept with two meanings, since a reader who skips over a part reports
some faults differently from one who reads it. A fault that only a reader can notice
(a number that is too large, half of a surrogate pair, a list nested too deeply)
leaves the text readable behind it.

A value is a document without faults (`Document.ofValue`).
-/

namespace FormChain.Json

/-- What can be wrong with a JSON text. -/
inductive SyntaxFault where
  /-- The text ends inside a list. -/
  | endInList
  /-- The text ends inside an object. -/
  | endInObject
  /-- The text ends inside quotes. -/
  | endInText
  /-- The text ends where a value should stand. -/
  | endInValue
  /-- No colon behind the name of a field. -/
  | colonExpected
  /-- Neither comma nor bracket behind an item. -/
  | commaOrBracketExpected
  /-- Neither comma nor brace behind a field. -/
  | commaOrBraceExpected
  /-- A misspelt `null`, `true` or `false`. -/
  | wordExpected
  /-- Something that starts no value. -/
  | valueExpected
  /-- An escape that is none. -/
  | badEscape
  /-- A number that is none. -/
  | badNumber
  /-- A number that is too large. -/
  | numberTooLarge
  /-- The second half of a surrogate pair without the first, or a wrong second half. -/
  | loneSurrogate
  /-- The first half of a surrogate pair without a second one. -/
  | surrogateCutShort
  /-- A control character inside quotes. -/
  | controlCharacter
  /-- A field whose name is not in quotes. -/
  | nameExpected
  /-- A comma before the closing bracket or brace. -/
  | strayComma
  /-- Something behind the end. -/
  | trailingText
  /-- Lists and objects nested too deeply. -/
  | nestedTooDeeply
  deriving DecidableEq, Repr

/-- The wording of a fault. -/
def SyntaxFault.message : SyntaxFault → String
  | endInList => "EOF while parsing a list"
  | endInObject => "EOF while parsing an object"
  | endInText => "EOF while parsing a string"
  | endInValue => "EOF while parsing a value"
  | colonExpected => "expected `:`"
  | commaOrBracketExpected => "expected `,` or `]`"
  | commaOrBraceExpected => "expected `,` or `\x7d`"
  | wordExpected => "expected ident"
  | valueExpected => "expected value"
  | badEscape => "invalid escape"
  | badNumber => "invalid number"
  | numberTooLarge => "number out of range"
  | loneSurrogate => "lone leading surrogate in hex escape"
  | surrogateCutShort => "unexpected end of hex escape"
  | controlCharacter => "control character (\\u0000-\\u001F) found while parsing a string"
  | nameExpected => "key must be a string"
  | strayComma => "trailing comma"
  | trailingText => "trailing characters"
  | nestedTooDeeply => "recursion limit exceeded"

/-- A fault at which the reading of a text stops, as it shows to one who reads the
part it is in and to one who skips it. -/
structure Stop where
  /-- The fault for a reader. -/
  whenRead : SyntaxFault
  /-- The fault for one who skips. -/
  whenSkipped : SyntaxFault
  deriving DecidableEq, Repr

/-- A fault that shows alike to all. -/
def Stop.plain (f : SyntaxFault) : Stop := ⟨f, f⟩

/-- **A JSON document.** -/
inductive Document where
  /-- The word `null`. -/
  | null
  /-- A truth value. -/
  | bool (b : Bool)
  /-- A number. -/
  | number (n : Number)
  /-- A number too large to be read. -/
  | hugeNumber
  /-- A text. -/
  | text (s : String)
  /-- A text that cannot be read. -/
  | badText (fault : SyntaxFault)
  /-- A list, complete or stopped behind its last item. -/
  | list (items : List Document) (stop : Option Stop)
  /-- An object, complete or stopped behind its last field. A name may be unreadable. -/
  | object (fields : List (Except SyntaxFault String × Document)) (stop : Option Stop)
  /-- A list or object at a level where no reader may go. -/
  | deep (inner : Document)
  /-- No value: the text stops here. -/
  | broken (stop : Stop)

instance : Inhabited Document := ⟨.null⟩

namespace Document

/-! ### Values as documents -/

mutual

/-- **The document of a value.** -/
def ofValue : Value → Document
  | .null => .null
  | .bool b => .bool b
  | .number n => .number n
  | .text s => .text s
  | .list items => .list (ofItems items) none
  | .object fields => .object (ofFields fields) none

/-- The documents of items. -/
def ofItems : List Value → List Document
  | [] => []
  | v :: rest => ofValue v :: ofItems rest

/-- The documents of fields. -/
def ofFields : List (String × Value) → List (Except SyntaxFault String × Document)
  | [] => []
  | (k, v) :: rest => (.ok k, ofValue v) :: ofFields rest

end

/-! ### Reading and skipping whole documents -/

mutual

/-- **The value a document stands for**, or the first fault a reader meets. Of fields
with one name the last counts. -/
def toValue : Document → Except SyntaxFault Value
  | .null => .ok .null
  | .bool b => .ok (.bool b)
  | .number n => .ok (.number n)
  | .hugeNumber => .error .numberTooLarge
  | .text s => .ok (.text s)
  | .badText fault => .error fault
  | .list items stop => do
    let items ← toItems items
    match stop with
    | some s => .error s.whenRead
    | none => .ok (.list items)
  | .object fields stop => do
    let fields ← toFields [] fields
    match stop with
    | some s => .error s.whenRead
    | none => .ok (.object fields)
  | .deep _ => .error .nestedTooDeeply
  | .broken s => .error s.whenRead

/-- The values of items, in order. -/
def toItems : List Document → Except SyntaxFault (List Value)
  | [] => .ok []
  | d :: rest => do
    let v ← toValue d
    let vs ← toItems rest
    return v :: vs

/-- The values of fields, put behind those read before. -/
def toFields (before : Bag) :
    List (Except SyntaxFault String × Document) → Except SyntaxFault Bag
  | [] => .ok before
  | (name, d) :: rest => do
    let name ← name
    let v ← toValue d
    toFields (Keyed.insert before name v) rest

end

mutual

/-- The fault that one who skips a document meets. -/
def skipFault? : Document → Option SyntaxFault
  | .list items stop => (itemsFault? items).orElse fun _ => stop.map Stop.whenSkipped
  | .object fields stop => (fieldsFault? fields).orElse fun _ => stop.map Stop.whenSkipped
  | .deep inner => skipFault? inner
  | .broken s => some s.whenSkipped
  | _ => none

/-- The fault that one who skips items meets. -/
def itemsFault? : List Document → Option SyntaxFault
  | [] => none
  | d :: rest => (skipFault? d).orElse fun _ => itemsFault? rest

/-- The fault that one who skips fields meets. -/
def fieldsFault? : List (Except SyntaxFault String × Document) → Option SyntaxFault
  | [] => none
  | (_, d) :: rest => (skipFault? d).orElse fun _ => fieldsFault? rest

end

mutual

/-- How many lists and objects lie inside one another. -/
def height : Document → Nat
  | .list items _ => itemsHeight items + 1
  | .object fields _ => fieldsHeight fields + 1
  | .deep inner => height inner + 1
  | _ => 0

/-- The greatest height of an item. -/
def itemsHeight : List Document → Nat
  | [] => 0
  | d :: rest => max (height d) (itemsHeight rest)

/-- The greatest height of a field. -/
def fieldsHeight : List (Except SyntaxFault String × Document) → Nat
  | [] => 0
  | (_, d) :: rest => max (height d) (fieldsHeight rest)

end

end Document

end FormChain.Json
