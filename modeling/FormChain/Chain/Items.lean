import FormChain.Json.Reader
import FormChain.Text.Blank
import FormChain.Text.Pieces

/-!
# Lists to choose from and to walk through

A list can be given as one, as the JSON text of one, or as a text with an item on every
line. Anything else is a list of itself, and nothing is the empty list.
-/

namespace FormChain.Value

/-- The lines of a text that are not blank, without blanks at their ends. -/
def lineItems (text : List Char) : List Value :=
  (((Text.lines text).map Text.trim).filter (!·.isEmpty)).map fun l => .text (String.ofList l)

/-- The list whose JSON text a text is. -/
def listOfJson? (text : List Char) : Option (List Value) :=
  if text.head? = some '[' then
    match Json.parse? (String.ofList text) with
    | .ok (.list items) => some items
    | _ => none
  else none

/-- The items that a text stands for. -/
def itemsOfText (s : String) : List Value :=
  let text := Text.trim s.toList
  (listOfJson? text).getD (lineItems text)

/-- **The items that a value stands for.** -/
def toItems : Value → List Value
  | .list items => items
  | .null => []
  | .text s => itemsOfText s
  | v => [v]

end FormChain.Value
