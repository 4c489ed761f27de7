import FormChain.Json.Document
import FormChain.Value.Json
import FormChain.Text.Pieces
import FormChain.Text.Quotation

/-!
# Complaints about the text of a form

Why a document is no form: the JSON text itself is faulty, a part is of the wrong
kind, a field is missing or there twice, or a word is none of the known ones.
-/

namespace FormChain

/-- What a complaint says was found. -/
inductive Found where
  /-- The word `null`. -/
  | null
  /-- A truth value. -/
  | bool (b : Bool)
  /-- A whole number. -/
  | int (n : Int)
  /-- A floating point number. -/
  | real (x : Float)
  /-- A text. -/
  | text (s : String)
  /-- A list. -/
  | list
  /-- An object. -/
  | object

/-- The words for what was found. -/
def Found.message : Found → String
  | null => "null"
  | bool b => "boolean `" ++ boolText b ++ "`"
  | int n => "integer `" ++ toString n ++ "`"
  | real x => "floating point `" ++ Decimal.floatText x ++ "`"
  | text s => "string " ++ Text.shownQuoted s
  | list => "sequence"
  | object => "map"

/-- **Why a document is no form.** -/
inductive Complaint where
  /-- The JSON text is faulty. -/
  | badJson (fault : Json.SyntaxFault)
  /-- A part is of the wrong kind. -/
  | wrongType (found : Found) (expected : String)
  /-- A part is of the right kind but not possible. -/
  | wrongValue (found : Found) (expected : String)
  /-- A list is too short or too long. -/
  | wrongLength (length : Nat) (expected : String)
  /-- A field is missing. -/
  | missingField (name : String)
  /-- A field is there twice. -/
  | duplicateField (name : String)
  /-- A word is none of the known ones. -/
  | unknownWord (word : String) (known : List String)

/-- A word in backward quotes. -/
def ticked (s : String) : String := "`" ++ s ++ "`"

/-- The choice among known words: two are told apart, more are listed. -/
def choiceText : List String → String
  | [] => "expected nothing"
  | [a] => "expected " ++ ticked a
  | [a, b] => "expected " ++ ticked a ++ " or " ++ ticked b
  | many => "expected one of " ++ Text.joined ", " (many.map ticked)

/-- The wording of a complaint. -/
def Complaint.message : Complaint → String
  | badJson fault => fault.message
  | wrongType found expected => "invalid type: " ++ found.message ++ ", expected " ++ expected
  | wrongValue found expected =>
    "invalid value: " ++ found.message ++ ", expected " ++ expected
  | wrongLength n expected => "invalid length " ++ toString n ++ ", expected " ++ expected
  | missingField name => "missing field " ++ ticked name
  | duplicateField name => "duplicate field " ++ ticked name
  | unknownWord word known => "unknown variant " ++ ticked word ++ ", " ++ choiceText known

end FormChain
