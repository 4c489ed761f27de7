import FormChain.Form.Basic
import FormChain.Value.Coercion

/-!
# Collecting values

What a variable holds after one more value was collected into it.
-/

namespace FormChain

namespace Collect

/-- What parts collected texts where nothing else is said. -/
def defaultSeparator : String := "\n"

/-- A list with one item more. What was no list before is its first item. -/
def intoList (previous : Option Value) (v : Value) : Value :=
  .list ((previous.map Value.toList).getD [] ++ [v])

/-- A text with one more text behind it. An empty text has nothing to be parted from. -/
def intoText (separator : String) (previous : Option Value) (v : Value) : Value :=
  match (previous.map Value.render).filter (!·.isEmpty) with
  | some s => .text (s ++ separator ++ v.render)
  | none => .text v.render

/-- **What the variable holds** after a value was collected, given what it held before. -/
def collected (c : Collect) (held : Option Value) (v : Value) : Value :=
  let previous := match c.mode with
    | .append => held
    | .replace => none
  match c.kind with
  | .array => intoList previous v
  | .string => intoText (c.separator.getD defaultSeparator) previous v

end Collect

end FormChain
