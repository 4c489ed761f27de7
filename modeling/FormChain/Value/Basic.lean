import FormChain.Keyed

/-!
# Values

What a form field holds, what an action stores and what a form file is made of:
nothing, a truth value, a number, a text, a list of values, or an object whose
fields stand in increasing order of their names.

A number is a whole number between -2^63 and 2^64 - 1, or else a finite floating
point number; a whole number and a floating point number are never the same value,
even where they are equal in size.
-/

namespace FormChain

/-- A number: whole, or floating point. -/
inductive Number where
  /-- A whole number from -2^63 to 2^64 - 1. -/
  | int (n : Int)
  /-- A finite floating point number. -/
  | real (x : Float)

/-- **A value.** -/
inductive Value where
  /-- The absence of a value. -/
  | null
  /-- A truth value. -/
  | bool (b : Bool)
  /-- A number. -/
  | number (n : Number)
  /-- A text. -/
  | text (s : String)
  /-- A list of values. -/
  | list (items : List Value)
  /-- An object: values under names. -/
  | object (fields : List (String × Value))

instance : Inhabited Value := ⟨.null⟩

/-- Values under names: the answers given in a form, or the variables of a chain. -/
abbrev Bag := Keyed Value

namespace Number

/-- **The floating point number nearest to a number.** -/
def toFloat : Number → Float
  | .int n => if n < 0 then -(UInt64.ofNat n.natAbs).toFloat else (UInt64.ofNat n.toNat).toFloat
  | .real x => x

end Number

namespace Value

/-- A whole number as a value. -/
def ofNat (n : Nat) : Value :=
  .number (.int (Int.ofNat n))

/-- A whole number as a value. -/
def ofInt (n : Int) : Value :=
  .number (.int n)

/-- The value of an absent thing is `null`. -/
def ofOption : Option Value → Value
  | none => .null
  | some v => v

/-- An object built from fields in any order. -/
def ofFields (fields : List (String × Value)) : Value :=
  .object (Keyed.ofList fields)

/-- Whether a value is `null`. -/
def isNull : Value → Bool
  | .null => true
  | _ => false

/-- Whether a value is a list. -/
def isList : Value → Bool
  | .list _ => true
  | _ => false

/-- The text of a text value. -/
def text? : Value → Option String
  | .text s => some s
  | _ => none

/-- The items of a list. -/
def items? : Value → Option (List Value)
  | .list items => some items
  | _ => none

/-- A field of an object. -/
def field? (v : Value) (name : String) : Option Value :=
  match v with
  | .object fields => Keyed.get? fields name
  | _ => none

/-! ### Objects in order -/

mutual

/-- In a value and everything inside it, the fields of every object stand in
increasing order of their names. -/
def WellFormed : Value → Prop
  | .list items => ItemsWellFormed items
  | .object fields => Keyed.Sorted fields ∧ FieldsWellFormed fields
  | _ => True

/-- Every item is well formed. -/
def ItemsWellFormed : List Value → Prop
  | [] => True
  | v :: rest => v.WellFormed ∧ ItemsWellFormed rest

/-- Every field is well formed. -/
def FieldsWellFormed : List (String × Value) → Prop
  | [] => True
  | (_, v) :: rest => v.WellFormed ∧ FieldsWellFormed rest

end

end Value

end FormChain
