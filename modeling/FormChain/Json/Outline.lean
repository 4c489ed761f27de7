import FormChain.Value.Json

/-!
# JSON in a chosen order

An outline is JSON whose fields stand in the order in which they were written down, for
texts that people read from top to bottom. As a value it loses that order.
-/

namespace FormChain

/-- **JSON in a chosen order.** -/
inductive Outline where
  /-- A value. -/
  | value (v : Value)
  /-- A list. -/
  | list (items : List Outline)
  /-- Fields in their order. -/
  | record (fields : List (String × Outline))

namespace Outline

instance : Inhabited Outline := ⟨.value .null⟩

/-- A text. -/
def text (s : String) : Outline :=
  .value (.text s)

mutual

/-- **The value of an outline.** -/
def toValue : Outline → Value
  | value v => v
  | list items => .list (itemValues items)
  | record fields => .ofFields (fieldValues fields)

/-- The values of items. -/
def itemValues : List Outline → List Value
  | [] => []
  | o :: rest => o.toValue :: itemValues rest

/-- The values of fields. -/
def fieldValues : List (String × Outline) → List (String × Value)
  | [] => []
  | (k, o) :: rest => (k, o.toValue) :: fieldValues rest

end

/-- A line break and the indentation of a level. -/
def lineAt (level : Nat) : String :=
  "\n" ++ String.ofList (List.replicate (2 * level) ' ')

mutual

/-- **The text of an outline**, every item and field on a line of its own; values stay on
one line. -/
def spread (level : Nat) : Outline → String
  | value v => v.toJson
  | list [] => "[]"
  | list (o :: rest) =>
    "[" ++ lineAt (level + 1) ++ spread (level + 1) o ++ itemsSpread (level + 1) rest ++
      lineAt level ++ "]"
  | record [] => "\x7b\x7d"
  | record ((k, o) :: rest) =>
    "\x7b" ++ lineAt (level + 1) ++ Json.quoted k ++ ": " ++ spread (level + 1) o ++
      fieldsSpread (level + 1) rest ++ lineAt level ++ "\x7d"

/-- The lines of further items. -/
def itemsSpread (level : Nat) : List Outline → String
  | [] => ""
  | o :: rest => "," ++ lineAt level ++ spread level o ++ itemsSpread level rest

/-- The lines of further fields. -/
def fieldsSpread (level : Nat) : List (String × Outline) → String
  | [] => ""
  | (k, o) :: rest =>
    "," ++ lineAt level ++ Json.quoted k ++ ": " ++ spread level o ++
      fieldsSpread level rest

end

end Outline

end FormChain
