import FormChain.Value.Basic
import FormChain.Decimal.Shortest

/-!
# The JSON text of a value

The text has no blanks. Fields stand in the order of their names, and a text is quoted
with the escapes of `escape`.
-/

namespace FormChain

/-! ### Quoting -/

namespace Json

/-- A digit of a hexadecimal number. -/
def hexDigit (n : Nat) : Char :=
  "0123456789abcdef".toList.getD (n % 16) '0'

/-- **How a character is written inside quotes.** A quote and a backslash are
escaped, controls get their short escape or four hexadecimal digits, and everything
else stands for itself. -/
def escape (c : Char) : List Char :=
  if c = '"' then ['\\', '"']
  else if c = '\\' then ['\\', '\\']
  else if c.toNat = 0x08 then ['\\', 'b']
  else if c.toNat = 0x0C then ['\\', 'f']
  else if c = '\n' then ['\\', 'n']
  else if c = '\r' then ['\\', 'r']
  else if c = '\t' then ['\\', 't']
  else if c.toNat < 0x20 then
    ['\\', 'u', '0', '0', hexDigit (c.toNat / 16), hexDigit c.toNat]
  else [c]

/-- A text in quotes. -/
def quoted (s : String) : String :=
  String.ofList ('"' :: s.toList.flatMap escape ++ ['"'])

end Json

/-- The decimal text of a number. -/
def Number.toText : Number → String
  | .int n => toString n
  | .real x => Decimal.floatText x

/-- The text of a truth value. -/
def boolText (b : Bool) : String :=
  if b then "true" else "false"

namespace Value

/-! ### Compact -/

mutual

/-- **The compact JSON text of a value.** -/
def toJson : Value → String
  | .null => "null"
  | .bool b => boolText b
  | .number n => n.toText
  | .text s => Json.quoted s
  | .list items => "[" ++ itemsJson items ++ "]"
  | .object fields => "\x7b" ++ fieldsJson fields ++ "\x7d"

/-- The items of a list, parted by commas. -/
def itemsJson : List Value → String
  | [] => ""
  | [v] => v.toJson
  | v :: rest => v.toJson ++ "," ++ itemsJson rest

/-- The fields of an object, parted by commas. -/
def fieldsJson : List (String × Value) → String
  | [] => ""
  | [(k, v)] => Json.quoted k ++ ":" ++ v.toJson
  | (k, v) :: rest => Json.quoted k ++ ":" ++ v.toJson ++ "," ++ fieldsJson rest

end

end Value

end FormChain
