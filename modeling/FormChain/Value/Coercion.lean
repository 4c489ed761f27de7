import FormChain.Value.Json
import FormChain.Decimal.Real
import FormChain.Text.Blank
import FormChain.Text.Pieces
import FormChain.Calendar.Layout

/-!
# Views of a value

Conditions compare values of different kinds. Here is how a value is seen as a number,
an integer, a list, a text, a tick, or a moment, when it counts as present, and when
two values count as equal.

Equality is loose: numbers are equal when they differ by less than the distance from
one to its upper neighbour, a number equals a text that reads as it, and a truth
value equals a text that spells it.
-/

namespace FormChain.Value

/-! ### Numbers -/

/-- A floating point number is finite when it is neither infinite nor not a number. -/
def isFinite (x : Float) : Bool :=
  !x.isNaN && !x.isInf

/-- The number that a text stands for, blanks at its ends aside. -/
def realOfText? (s : String) : Option Float :=
  Decimal.real? (Text.trim s.toList)

/-- **A value as a floating point number**: a number, a text that reads as a finite
number, or a truth value as one or zero. -/
def toReal? : Value → Option Float
  | .number n => some n.toFloat
  | .text s => (realOfText? s).filter isFinite
  | .bool b => some (if b then 1.0 else 0.0)
  | _ => none

/-- A floating point number without its fraction, as an integer of 64 bits; too large
ones become the nearest bound. -/
def truncate (x : Float) : Int :=
  x.toInt64.toInt

/-- A number as an integer of 64 bits. -/
def integerOfNumber? : Number → Option Int
  | .int n => if n ≤ Decimal.maxInt64 then some n else some Decimal.maxInt64
  | .real x => if isFinite x then some (truncate x) else none

/-- The integer at the start of a text: blanks, a sign, and digits up to the first
character that is none. The digits alone must be an integer of 64 bits. -/
def leadingInteger? (cs : List Char) : Option Int :=
  let (sign, digits) : Int × List Char := match Text.trimStart cs with
    | '-' :: rest => (-1, rest)
    | '+' :: rest => (1, rest)
    | rest => (1, rest)
  (Decimal.natural? (digits.takeWhile Decimal.isDigit)).bind fun n =>
    if Int.ofNat n ≤ Decimal.maxInt64 then some (sign * Int.ofNat n) else none

/-- **A value as an integer**: a number without its fraction, or the integer at the
start of a text. -/
def toInteger? : Value → Option Int
  | .number n => integerOfNumber? n
  | .text s => leadingInteger? s.toList
  | _ => none

/-! ### Lists, texts and ticks -/

/-- **A value as a list**: a list is itself, `null` is empty, anything else is the one
item. -/
def toList : Value → List Value
  | .list items => items
  | .null => []
  | v => [v]

/-- **A value as a text**: a text is itself, `null` is empty, anything else is its JSON
text. -/
def toText : Value → String
  | .text s => s
  | .null => ""
  | v => v.toJson

/-- Whether a value is a list or an object. -/
def isContainer : Value → Bool
  | .list _ | .object _ => true
  | _ => false

/-- **The text that stands for a value inside other text**: a list of plain values is
its items parted by commas. -/
def render : Value → String
  | .list items =>
    if items.any isContainer then toText (.list items)
    else Text.joined ", " (items.map toText)
  | v => v.toText

/-- Texts that stand for a missing tick, in lower case. -/
def uncheckedTexts : List String := ["false", "0", "no", ""]

/-- **Whether a value counts as a tick.** -/
def isChecked : Value → Bool
  | .bool b => b
  | .text s => !uncheckedTexts.contains (String.ofList (s.toList.map Char.toLower))
  | .number n => n.toFloat != 0.0
  | .null => false
  | .list _ | .object _ => true

/-- **Whether a value counts as present**: not `null`, not the empty text, not the
empty list. -/
def isPresent : Value → Bool
  | .null => false
  | .text s => !s.isEmpty
  | .list items => !items.isEmpty
  | _ => true

/-- **The moment a value stands for**: a number of milliseconds, or a text. -/
def toMoment? (now : Moment) : Value → Option Moment
  | .number n => (integerOfNumber? n).map Moment.mk
  | .text s => Moment.read? now (trimmed s)
  | _ => none

/-! ### Loose equality -/

/-- The distance from one to the next floating point number, two to the power -52. -/
def epsilon : Float := Float.ofBits 0x3CB0000000000000

/-- Whether two floating point numbers are closer than `epsilon`. -/
def close (x y : Float) : Bool :=
  (x - y).abs < epsilon

/-- Whether a text reads as a number close to `x`. -/
def textCloseTo (s : String) (x : Float) : Bool :=
  match realOfText? s with
  | some y => close y x
  | none => false

/-- Whether a text spells a truth value, blanks and case aside. -/
def textSpells (s : String) (b : Bool) : Bool :=
  Text.sameIgnoringCase (trimmed s) (boolText b)

mutual

/-- **Loose equality.** -/
def looselyEqual : Value → Value → Bool
  | .null, .null => true
  | .bool a, .bool b => a == b
  | .number m, .number n => close m.toFloat n.toFloat
  | .text s, .text t => s == t
  | .list xs, .list ys => itemsEqual xs ys
  | .object fs, .object gs => fs.length == gs.length && fieldsEqual fs gs
  | .text s, .number n => textCloseTo s n.toFloat
  | .number n, .text s => textCloseTo s n.toFloat
  | .text s, .bool b => textSpells s b
  | .bool b, .text s => textSpells s b
  | _, _ => false

/-- Two lists have loosely equal items, one by one. -/
def itemsEqual : List Value → List Value → Bool
  | [], [] => true
  | x :: xs, y :: ys => looselyEqual x y && itemsEqual xs ys
  | _, _ => false

/-- Every field has a loosely equal one of its name among `gs`. -/
def fieldsEqual : List (String × Value) → Keyed Value → Bool
  | [], _ => true
  | (k, v) :: rest, gs =>
    (match gs.get? k with
      | some w => looselyEqual v w
      | none => false) && fieldsEqual rest gs

end

end FormChain.Value
