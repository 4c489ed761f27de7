import FormChain.Form.Complaint
import FormChain.Form.Spelling
import FormChain.Decimal.Integer

/-!
# Decoding documents

How texts, numbers, words, lists and records are read off a document. The complaint
that counts is always the one a reader meets first who goes through the document from
its start to its end, and who asks for missing fields, in the order of their
declaration, only after everything that is there.

A record is described by a `Reading`: its fields in the order of their declaration,
each with its decoder. A reading fails with a complaint and the place where it arises,
and of two complaints the one of the earlier place counts; so one description serves
fields in any order as well as lists of fields in their order.
-/

namespace FormChain

/-- **Where a document comes from.** A text may hold faults and repeated names and is
read as it comes; a value holds neither; a part of an action has been read as a whole
before it is looked into. -/
inductive Source where
  /-- A text, as it comes. -/
  | text
  /-- A value. -/
  | value
  /-- A part that has been read as a whole. -/
  | buffered
  deriving DecidableEq, Repr

/-- What reads a document. -/
abbrev Decoder (α : Type) := Source → Json.Document → Except Complaint α

open Json (Document SyntaxFault Stop)

namespace Decode

/-! ### Single parts -/

/-- What a document is found to be, or the fault that shows when it is looked at. -/
def found : Document → Except Complaint Found
  | .null => .ok .null
  | .bool b => .ok (.bool b)
  | .number (.int n) => .ok (.int n)
  | .number (.real x) => .ok (.real x)
  | .hugeNumber => .error (.badJson .numberTooLarge)
  | .text s => .ok (.text s)
  | .badText fault => .error (.badJson fault)
  | .list _ _ => .ok .list
  | .object _ _ => .ok .object
  | .deep (.list _ _) => .ok .list
  | .deep _ => .ok .object
  | .broken stop => .error (.badJson stop.whenRead)

/-- The complaint that a document is not of the expected kind. -/
def mismatch {α : Type} (expected : String) (d : Document) : Except Complaint α := do
  let f ← found d
  .error (.wrongType f expected)

/-- A text. -/
def text : Decoder String
  | _, .text s => .ok s
  | _, d => mismatch "a string" d

/-- A truth value. -/
def bool : Decoder Bool
  | _, .bool b => .ok b
  | _, d => mismatch "a boolean" d

/-- A whole number from zero to a bound. -/
def natural (bound : Nat) (expected : String) : Decoder Nat
  | _, .number (.int n) =>
    if 0 ≤ n ∧ n ≤ Int.ofNat bound then .ok n.toNat else .error (.wrongValue (.int n) expected)
  | _, d => mismatch expected d

/-- An unsigned number of 32 bits. -/
def nat32 : Decoder Nat := natural Decimal.maxNat32 "u32"

/-- An unsigned number of 64 bits. -/
def nat64 : Decoder Nat := natural Decimal.maxNat64 "u64"

/-- A size. -/
def size : Decoder Nat := natural Decimal.maxNat64 "usize"

/-- A signed number of 64 bits. -/
def int64 : Decoder Int
  | _, .number (.int n) =>
    if Decimal.minInt64 ≤ n ∧ n ≤ Decimal.maxInt64 then .ok n
    else .error (.wrongValue (.int n) "i64")
  | _, d => mismatch "i64" d

/-- Any value. -/
def anyValue : Decoder Value
  | _, d => d.toValue.mapError .badJson

/-- Nothing, or something that `dec` reads. -/
def option {α : Type} (dec : Decoder α) : Decoder (Option α)
  | _, .null => .ok none
  | src, d => (dec src d).map some

/-- The items of a list, one after another. -/
def items {α : Type} (dec : Decoder α) (src : Source) : List Document → Except Complaint (List α)
  | [] => .ok []
  | d :: rest => do
    let a ← dec src d
    let more ← items dec src rest
    return a :: more

/-- The complaint about a list or object that was not closed. -/
def closed : Option Stop → Except Complaint Unit
  | none => .ok ()
  | some s => .error (.badJson s.whenRead)

/-- A list. -/
def list {α : Type} (dec : Decoder α) : Decoder (List α)
  | src, .list ds stop => do
    let as ← items dec src ds
    closed stop
    return as
  | _, .deep (.list _ _) => .error (.badJson .nestedTooDeeply)
  | _, d => mismatch "a sequence" d

/-! ### Words -/

/-- The member that a word stands for. -/
def member {α : Type} [Spelled α] (word : String) : Except Complaint α :=
  match Spelled.ofWord? word with
  | some a => .ok a
  | none => .error (.unknownWord word (Spelled.words α))

/-- `null` behind a word that is written as the one field of an object. -/
def nothing (src : Source) : Document → Except Complaint Unit
  | .null => .ok ()
  | .object [] none =>
    if src = .buffered then .ok () else .error (.wrongType .object "unit")
  | d => mismatch "unit" d

/-- What stands behind the one field of such an object, read as it comes. -/
def onlyField (more : Bool) : Option Stop → Except Complaint Unit
  | none => if more then .error (.badJson .valueExpected) else .ok ()
  | some s =>
    if s.whenRead = .endInObject && !more then .error (.badJson .endInObject)
    else .error (.badJson .valueExpected)

/-- A word written as an object with one field, read as it comes. -/
def wordOfFields {α : Type} [Spelled α]
    (fields : List (Except SyntaxFault String × Document)) (stop : Option Stop) :
    Except Complaint α :=
  match fields with
  | [] =>
    match stop with
    | some s =>
      if s.whenRead = .endInObject then .error (.badJson .endInValue)
      else if s.whenRead = .nameExpected then .error (.badJson .valueExpected)
      else .error (.badJson s.whenRead)
    | none => .error (.badJson .valueExpected)
  | (name, d) :: rest => do
    let name ← name.mapError .badJson
    let a ← member name
    nothing .text d
    onlyField (!rest.isEmpty) stop
    return a

/-- The complaint about something that starts no word in a text. -/
def noWord {α : Type} : Document → Except Complaint α
  | .badText fault => .error (.badJson fault)
  | .broken stop =>
    match stop.whenRead with
    | .endInText | .badEscape | .controlCharacter | .loneSurrogate | .surrogateCutShort
    | .endInValue | .colonExpected | .endInObject => .error (.badJson stop.whenRead)
    | _ => .error (.badJson .valueExpected)
  | .deep (.object _ _) => .error (.badJson .nestedTooDeeply)
  | _ => .error (.badJson .valueExpected)

/-- **One word out of a few**, as a text or as the name of the one field of an object. -/
def word {α : Type} [Spelled α] : Decoder α
  | _, .text s => member s
  | .text, .object fields stop => wordOfFields fields stop
  | .text, d => noWord d
  | src, .object [(.ok name, d)] none => do
    let a ← member name
    nothing src d
    return a
  | _, .object _ _ => .error (.wrongValue .object "map with a single key")
  | _, d => mismatch "string or map" d

/-! ### Records -/

/-- The parts of a record: fields under their names, or the fields without names in the
order of their declaration. -/
inductive Parts where
  /-- Fields under names. -/
  | fields (fields : List (Except SyntaxFault String × Document)) (stop : Option Stop)
  /-- Fields in order. -/
  | items (items : List Document) (stop : Option Stop)

/-- A complaint and the place where it arises. -/
structure Fault where
  /-- The place, counted from the start of the record. -/
  place : Nat
  /-- The complaint. -/
  complaint : Complaint

/-- **How a record is read**: the names of its fields in the order of declaration, and
what is made of the parts when the first of these fields has a given number. -/
structure Reading (α : Type) where
  /-- The names of the fields. -/
  names : List String
  /-- What is made of the parts. -/
  run : Source → Parts → (first : Nat) → Except Fault α

namespace Reading

variable {α β : Type}

/-- A record without fields. -/
def pure (a : α) : Reading α := ⟨[], fun _ _ _ => .ok a⟩

/-- Of two complaints the one of the earlier place. -/
def earlier (e e' : Fault) : Fault :=
  if e'.place < e.place then e' else e

/-- The fields of one reading, then those of another. -/
def ap (f : Reading (α → β)) (x : Reading α) : Reading β where
  names := f.names ++ x.names
  run src parts first :=
    match f.run src parts first, x.run src parts (first + f.names.length) with
    | .ok f, .ok a => .ok (f a)
    | .error e, .ok _ => .error e
    | .ok _, .error e => .error e
    | .error e, .error e' => .error (earlier e e')

/-- Something made of a record. -/
def map (f : α → β) (x : Reading α) : Reading β where
  names := x.names
  run src parts first := (x.run src parts first).map f

instance : Functor Reading := ⟨map, fun a => map fun _ => a⟩
instance : Seq Reading := ⟨fun f x => ap f (x ())⟩
instance : Pure Reading := ⟨pure⟩

end Reading

/-- The fields of a name among the fields of a record, with their places. -/
def fieldsNamed (name : String) :
    (place : Nat) → List (Except SyntaxFault String × Document) → List (Nat × Document)
  | _, [] => []
  | place, (.ok k, d) :: rest =>
    if k = name then (place, d) :: fieldsNamed name (place + 1) rest
    else fieldsNamed name (place + 1) rest
  | place, (.error _, _) :: rest => fieldsNamed name (place + 1) rest

/-- Read a field that is there at a place. -/
def readAt {α : Type} (dec : Decoder α) (src : Source) (place : Nat) (d : Document) :
    Except Fault α :=
  (dec src d).mapError fun c => ⟨place, c⟩

/-- Read a field under a name; `absent` is what its absence amounts to. -/
def readNamed {α : Type} (name : String) (dec : Decoder α) (absent : Except Complaint α)
    (src : Source) (fields : List (Except SyntaxFault String × Document)) : Except Fault α :=
  match fieldsNamed name 0 fields with
  | [] => absent.mapError fun c => ⟨fields.length + 1, c⟩
  | [(place, d)] => readAt dec src place d
  | (place, d) :: (again, _) :: _ => do
    let _ ← readAt dec src place d
    .error ⟨again, .duplicateField name⟩

/-- Read the item of a place; `absent` is what its absence amounts to. -/
def readItem {α : Type} (dec : Decoder α) (absent : Except Complaint α) (src : Source)
    (ds : List Document) (stop : Option Stop) (place : Nat) : Except Fault α :=
  match ds[place]? with
  | some d => readAt dec src place d
  | none =>
    match stop with
    | some s => .error ⟨place, .badJson s.whenRead⟩
    | none => absent.mapError fun c => ⟨place, c⟩

/-- What a list of the fields of a record must be long. -/
def elements (n : Nat) : String :=
  if n = 1 then "1 element" else toString n ++ " elements"

/-- A field that must be there. `whole` names the record and `total` counts its fields,
for the complaint about a list that is too short. -/
def needed {α : Type} (whole : String) (total : Nat) (name : String) (dec : Decoder α) :
    Reading α where
  names := [name]
  run src parts place :=
    match parts with
    | .fields fields _ => readNamed name dec (.error (.missingField name)) src fields
    | .items ds stop =>
      readItem dec (.error (.wrongLength place (whole ++ " with " ++ elements total))) src ds
        stop place

/-- A field that is `default` when it is not there. -/
def given {α : Type} (name : String) (dec : Decoder α) (default : α) : Reading α where
  names := [name]
  run src parts place :=
    match parts with
    | .fields fields _ => readNamed name dec (.ok default) src fields
    | .items ds stop => readItem dec (.ok default) src ds stop place

/-- The first complaint about parts that no field asks for: a name that cannot be read,
a faulty part under an unknown name. -/
def strayFault (names : List String) :
    (place : Nat) → List (Except SyntaxFault String × Document) → Option Fault
  | _, [] => none
  | place, (.error fault, _) :: _ => some ⟨place, .badJson fault⟩
  | place, (.ok k, d) :: rest =>
    if names.contains k then strayFault names (place + 1) rest
    else match d.skipFault? with
      | some fault => some ⟨place, .badJson fault⟩
      | none => strayFault names (place + 1) rest

/-- Read a record from fields under names. -/
def readFields {α : Type} (r : Reading α) (src : Source)
    (fields : List (Except SyntaxFault String × Document)) (stop : Option Stop) :
    Except Complaint α :=
  let stray := (strayFault r.names 0 fields).or
    (stop.map fun s => ⟨fields.length, .badJson s.whenRead⟩)
  match r.run src (.fields fields stop) 0, stray with
  | .ok a, none => .ok a
  | .ok _, some e => .error e.complaint
  | .error e, none => .error e.complaint
  | .error e, some e' => .error (Reading.earlier e' e).complaint

/-- The complaint about what stands behind the last field of a record written as a
list. -/
def endOfItems (src : Source) (wanted : Nat) (ds : List Document) (stop : Option Stop) :
    Except Complaint Unit :=
  match src with
  | .text =>
    if wanted < ds.length then .error (.badJson .trailingText)
    else match stop with
      | none => .ok ()
      | some s =>
        if s.whenRead = .endInList || s.whenRead = .strayComma then .error (.badJson s.whenRead)
        else .error (.badJson .trailingText)
  | .value =>
    if wanted < ds.length then .error (.wrongLength ds.length "fewer elements in array")
    else .ok ()
  | .buffered =>
    if wanted < ds.length then
      .error (.wrongLength ds.length (elements wanted ++ " in sequence"))
    else .ok ()

/-- Read a record from a list of its fields. -/
def readItems {α : Type} (r : Reading α) (src : Source) (ds : List Document)
    (stop : Option Stop) : Except Complaint α := do
  let a ← (r.run src (.items ds stop) 0).mapError Fault.complaint
  endOfItems src r.names.length ds stop
  return a

/-- **A record**, written as an object or as a list. -/
def record {α : Type} (expected : String) (r : Reading α) : Decoder α
  | src, .object fields stop => readFields r src fields stop
  | src, .list ds stop => readItems r src ds stop
  | _, .deep _ => .error (.badJson .nestedTooDeeply)
  | _, d => mismatch expected d

/-! ### Tagged records -/

/-- The tag of a tagged record and its other parts, which have been read as a whole. -/
structure Tagged (τ : Type) where
  /-- The tag. -/
  tag : τ
  /-- The other parts. -/
  parts : Parts

/-- A part that is read as a whole before it is looked into. -/
def buffer (src : Source) (d : Document) : Except Complaint Unit :=
  if src = .text then (anyValue src d).map fun _ => () else .ok ()

/-- Split the fields of a tagged record. -/
def splitTag {τ : Type} (name : String) (dec : Decoder τ) (src : Source) :
    Option τ → List (Except SyntaxFault String × Document) →
    Except Complaint (Option τ × List (Except SyntaxFault String × Document))
  | tag, [] => .ok (tag, [])
  | _, (.error fault, _) :: _ => .error (.badJson fault)
  | tag, (.ok k, d) :: rest =>
    if k = name then
      match tag with
      | some _ => .error (.duplicateField name)
      | none => do
        let t ← dec src d
        splitTag name dec src (some t) rest
    else do
      buffer src d
      let (tag, others) ← splitTag name dec src tag rest
      return (tag, (.ok k, d) :: others)

/-- Read as wholes the parts behind the tag of a record written as a list. -/
def bufferAll (src : Source) : List Document → Except Complaint Unit
  | [] => .ok ()
  | d :: rest => do
    buffer src d
    bufferAll src rest

/-- **A tagged record**: an object with a field for the tag, or a list that starts with
the tag. -/
def tagged {τ : Type} (name expected : String) (dec : Decoder τ) : Decoder (Tagged τ)
  | src, .object fields stop => do
    let (tag, others) ← splitTag name dec src none fields
    closed stop
    match tag with
    | none => .error (.missingField name)
    | some t => .ok ⟨t, .fields others none⟩
  | src, .list ds stop =>
    match ds with
    | [] => do
      closed stop
      .error (.missingField name)
    | d :: rest => do
      let t ← dec src d
      bufferAll src rest
      closed stop
      return ⟨t, .items rest none⟩
  | _, .deep _ => .error (.badJson .nestedTooDeeply)
  | _, d => mismatch expected d

/-- A tag: a word, or in a part that has been read as a whole also its number. -/
def tag {τ : Type} [Spelled τ] : Decoder τ
  | _, .text s => member s
  | .buffered, .number (.int n) =>
    let all := (Spelled.table : List (String × τ)).map Prod.snd
    if 0 ≤ n then
      match all[n.toNat]? with
      | some t => .ok t
      | none =>
        .error (.wrongValue (.int n) ("variant index 0 <= i < " ++ toString all.length))
    else .error (.wrongType (.int n) "variant identifier")
  | _, d => mismatch "variant identifier" d

end Decode

end FormChain
