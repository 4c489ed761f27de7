import FormChain.Chain.Scope
import FormChain.Calendar.Date

/-!
# What names mean

The places in which a name is looked up: the scope of loops, the variables that actions
have written, and the answers of the form, which are found under the id of a field or
under its label.
-/

namespace FormChain

/-- **Where references are looked up.** -/
structure Environment where
  /-- The answers of the form, under the ids of its fields. -/
  values : Bag := []
  /-- The ids of fields under their labels. -/
  fieldIds : Keyed String := []
  /-- The variables that actions have written. -/
  outputs : Bag := []
  /-- The scope of loops. -/
  scope : Scope := .empty
  /-- What the clock shows. -/
  now : LocalMoment := default

namespace Environment

/-- The answer under the id of a field, else under its label. -/
def formValue? (e : Environment) (key : String) : Option Value :=
  (e.values.get? key).or ((e.fieldIds.get? key).bind e.values.get?)

/-- What a path means among the variables that actions have written. -/
def output? (e : Environment) (path : String) : Option Value :=
  resolvePath? e.outputs.get? path

/-- What a path means in the scope of loops, else among the variables. -/
def chainValue? (e : Environment) (path : String) : Option Value :=
  (e.scope.resolve? path).or (e.output? path)

/-- **What a filter looks up**: a variable, else an answer. -/
def lookup? (e : Environment) (property : String) : Option Value :=
  (e.chainValue? property).or (e.formValue? property)

end Environment

end FormChain
