import FormChain.Template.Environment
import FormChain.Template.Random
import FormChain.Calendar.Format
import FormChain.Value.Coercion

/-!
# Templates

A template is a text with references between double braces. `Template.pieces` cuts it
into plain characters and references, once and for all: what a reference turns into is
never cut again, so a value cannot smuggle a reference in. A reference that means
nothing stands for itself.

Random texts are drawn from a seed, which goes through the expansion as a state and is
left alone by every other reference.
-/

namespace FormChain

namespace Template

/-! ### Pieces -/

/-- A piece of a template. -/
inductive Piece where
  /-- A character that stands for itself. -/
  | plain (c : Char)
  /-- A reference: all of its text, and what stands between the braces without blanks
  at its ends. -/
  | reference (source : List Char) (body : List Char)
  deriving DecidableEq, Repr

/-- Whether a character is a brace. -/
def isBrace (c : Char) : Bool :=
  c = '{' || c = '}'

/-- What stands between braces, without blanks at its ends. Of nothing but blanks the
last one is kept. -/
def bodyOf (inside : List Char) : List Char :=
  match Text.trim inside with
  | [] => inside.getLast?.toList
  | body => body

/-- The reference at the start of a text: two braces, at least one character that is no
brace, two braces. -/
def referenceAt? (cs : List Char) : Option (List Char) :=
  match cs with
  | '{' :: '{' :: rest =>
    let inside := rest.takeWhile fun c => !isBrace c
    match inside, rest.drop inside.length with
    | _ :: _, '}' :: '}' :: _ => some inside
    | _, _ => none
  | _ => none

/-- Cut a text into pieces, passing over the first `skip` characters. -/
def piecesAfter : (skip : Nat) → List Char → List Piece
  | _, [] => []
  | skip + 1, _ :: rest => piecesAfter skip rest
  | 0, c :: rest =>
    match referenceAt? (c :: rest) with
    | some inside =>
      .reference ('{' :: '{' :: inside ++ ['}', '}']) (bodyOf inside) ::
        piecesAfter (inside.length + 3) rest
    | none => .plain c :: piecesAfter 0 rest

/-- **The pieces of a template**, left to right. -/
def pieces (template : String) : List Piece :=
  piecesAfter 0 template.toList

/-- The text a piece was cut from. -/
def Piece.source : Piece → List Char
  | plain c => [c]
  | reference source _ => source

/-! ### References -/

/-- What a reference asks for. -/
inductive Reference where
  /-- An answer of the form. -/
  | formValue (key : String)
  /-- A variable that an action has written. -/
  | output (path : String)
  /-- The moment, in a format. -/
  | moment (format : String)
  /-- A random text of a length. -/
  | random (length : Nat)
  /-- A variable of a loop or of an action. -/
  | chainValue (path : String)
  /-- Nothing that there is. -/
  | nothing
  deriving DecidableEq, Repr

/-- The greatest length of a random text. -/
def maxRandomLength : Nat := 1024

/-- The format of a date without a format of its own. -/
def dateFormat : String := "YYYY-MM-DD"

/-- The format of a time without a format of its own. -/
def timeFormat : String := "HH:mm"

/-- A reference with a colon: a word and its argument. -/
def Reference.ofParts (word argument : String) : Reference :=
  if word = "date" ∨ word = "time" then .moment argument
  else if word = "random" then
    match Decimal.nat64? (trimmed argument) with
    | some n => if n ≤ maxRandomLength then .random n else .nothing
    | none => .nothing
  else .nothing

/-- **What the text between the braces asks for.** -/
def Reference.ofBody (body : List Char) : Reference :=
  match Text.after? ['@'] body with
  | some key => .formValue (String.ofList (Text.trim key))
  | none =>
    match Text.after? "output:".toList body with
    | some name => .output (String.ofList (Text.trim name))
    | none =>
      match Text.cutFirst? ':' body with
      | some (word, argument) =>
        .ofParts (String.ofList (Text.trim word)) (String.ofList argument)
      | none =>
        if body = "date".toList then .moment dateFormat
        else if body = "time".toList then .moment timeFormat
        else .chainValue (String.ofList body)

/-- The meaning of a reference, when it has one. -/
def Reference.resolve? (e : Environment) : Reference → StateM Nat (Option Value)
  | formValue key => return e.formValue? key
  | output path => return e.output? path
  | moment format => return some (.text (e.now.format format))
  | random length => do
    let (cs, seed) := Random.alphanumerics (← get) length
    set seed
    return some (.text (String.ofList cs))
  | chainValue path => return e.chainValue? path
  | nothing => return none

/-! ### Expansion -/

/-- The text that stands for a piece. -/
def Piece.expand (e : Environment) : Piece → StateM Nat (List Char)
  | plain c => return [c]
  | reference source body => do
    match ← (Reference.ofBody body).resolve? e with
    | some v => return v.render.toList
    | none => return source

/-- The texts that stand for pieces, one behind another. -/
def expandPieces (e : Environment) : List Piece → StateM Nat (List Char)
  | [] => return []
  | p :: rest => do
    let s ← p.expand e
    let t ← expandPieces e rest
    return s ++ t

/-- **The text of a template.** -/
def expand (e : Environment) (template : String) : StateM Nat String := do
  return String.ofList (← expandPieces e (pieces template))

/-- The body of a template that is one single reference, blanks around it aside. -/
def soleReference? (template : String) : Option (List Char) :=
  match piecesAfter 0 (Text.trim template.toList) with
  | [.reference _ body] => some body
  | _ => none

/-- **The value of a template**: of one single reference that means something its
meaning, whatever kind of value it is; else the text. -/
def expandValue (e : Environment) (template : String) : StateM Nat Value := do
  match soleReference? template with
  | none => return .text (← expand e template)
  | some body =>
    match ← (Reference.ofBody body).resolve? e with
    | some v => return v
    | none => return .text (← expand e template)

mutual

/-- **A value with all texts in it expanded.** -/
def expandAll (e : Environment) : Value → StateM Nat Value
  | .text s => expandValue e s
  | .list items => do return .list (← expandItems e items)
  | .object fields => do return .object (← expandFields e fields)
  | .null => return .null
  | .bool b => return .bool b
  | .number n => return .number n

/-- Items with all texts in them expanded. -/
def expandItems (e : Environment) : List Value → StateM Nat (List Value)
  | [] => return []
  | v :: rest => do
    let v ← expandAll e v
    let vs ← expandItems e rest
    return v :: vs

/-- Fields with all texts in them expanded. -/
def expandFields (e : Environment) : List (String × Value) → StateM Nat (List (String × Value))
  | [] => return []
  | (k, v) :: rest => do
    let v ← expandAll e v
    let vs ← expandFields e rest
    return (k, v) :: vs

end

end Template

end FormChain
