import FormChain.Decimal.Integer
import FormChain.Form.Words
import FormChain.Json.Reader
import FormChain.Text.Pieces

/-!
# Arguments of the command line

A command and what belongs to it. Options have long names and take one value each, in
the next argument or behind an equals sign; behind two hyphens nothing is an option any
more. A command line that breaks the rules is refused as a whole.
-/

namespace FormChain.CommandLine

/-- **What the command line asks for.** -/
inductive Command where
  /-- Submit the form of a path in the vault kept in a folder. -/
  | submit (form vault : String) (values : Bag) (timeout : Option Nat)
  /-- List the variables of loops. -/
  | listVariables (kind : Option LoopKind)
  /-- Print the schema of forms. -/
  | schema

/-- Arguments sorted into options and others. -/
structure Sorted where
  /-- What is no option. -/
  others : List String := []
  /-- The options with their values. -/
  options : List (String × String) := []
  deriving DecidableEq, Repr

namespace Sorted

/-- One argument more in front that is no option. -/
def withOther (s : Sorted) (a : String) : Sorted :=
  { s with others := a :: s.others }

/-- One option more in front. -/
def withOption (s : Sorted) (name value : String) : Sorted :=
  { s with options := (name, value) :: s.options }

/-- The values of an option. -/
def values (s : Sorted) (name : String) : List String :=
  (s.options.filter (·.1 == name)).map (·.2)

/-- The value of an option that may be given once. -/
def single? (s : Sorted) (name : String) : Option (Option String) :=
  match s.values name with
  | [] => some none
  | [v] => some (some v)
  | _ => none

end Sorted

/-- Whether an argument looks like an option. A hyphen alone does not. -/
def looksLikeOption (a : String) : Bool :=
  a.toList.head? = some '-' && a ≠ "-"

/-- **Sort arguments**, where the options of some names are known. -/
def sort? (known : List String) : List String → Option Sorted
  | [] => some {}
  | a :: rest =>
    if a = "--" then some { others := rest }
    else if !looksLikeOption a then (sort? known rest).map (·.withOther a)
    else
      match Text.cutFirst? '=' a.toList with
      | some (name, value) =>
        if known.contains (String.ofList name) then
          (sort? known rest).map (·.withOption (String.ofList name) (String.ofList value))
        else none
      | none =>
        match rest with
        | value :: rest =>
          if known.contains a && !looksLikeOption value then
            (sort? known rest).map (·.withOption a value)
          else none
        | [] => none

/-! ### Values -/

/-- **The value of a field**, `id=value`: JSON, or else a text. -/
def fieldValue? (a : String) : Option (String × Value) :=
  match Text.cutFirst? '=' a.toList with
  | none => none
  | some (id, text) =>
    if id.isEmpty then none
    else
      let text := String.ofList text
      some (String.ofList id, match Json.parse? text with
        | .ok v => v
        | .error _ => .text text)

/-- The values of fields, all of which must be readable. -/
def fieldValues? : List String → Option (List (String × Value))
  | [] => some []
  | a :: rest => do
    let v ← fieldValue? a
    let vs ← fieldValues? rest
    return v :: vs

/-- A value that may be missing but must be readable. -/
def optional? {α : Type} (read : String → Option α) : Option String → Option (Option α)
  | none => some none
  | some s => (read s).map some

/-! ### Commands -/

/-- The variable of the environment that names the folder of the vault. -/
def vaultVariable : String := "FORMFLOW_VAULT"

/-- The folder of the vault: as the option says, else the environment, else the folder
that the program was started in. It has a name. -/
def vaultOf? (env : Keyed String) (option : Option String) : Option String :=
  (some ((option.or (env.get? vaultVariable)).getD ".")).filter (!·.isEmpty)

/-- Read the arguments of the first command. -/
def readSubmit? (env : Keyed String) (args : List String) : Option Command := do
  let s ← sort? ["--vault", "--value", "--timeout"] args
  let vault ← vaultOf? env (← s.single? "--vault")
  let values ← fieldValues? (s.values "--value")
  let timeout ← optional? Decimal.nat64? (← s.single? "--timeout")
  match s.others with
  | [form] => return .submit form vault (Keyed.ofList values) timeout
  | _ => none

/-- Read the arguments of the second command. -/
def readVariables? (args : List String) : Option Command := do
  let s ← sort? ["--loop-type"] args
  let kind ← optional? Spelled.ofWord? (← s.single? "--loop-type")
  if s.others.isEmpty then return .listVariables kind else none

/-- Read the arguments of the third command. -/
def readSchema? (args : List String) : Option Command := do
  let s ← sort? [] args
  if s.others.isEmpty then return .schema else none

/-- **Read a command line**, with the environment that it is given in. -/
def Command.read? (env : Keyed String) : List String → Option Command
  | "submit" :: args => readSubmit? env args
  | "variables" :: args => readVariables? args
  | "schema" :: args => readSchema? args
  | _ => none

end FormChain.CommandLine
