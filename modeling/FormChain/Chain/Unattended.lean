import FormChain.Chain.Error

/-!
# When nobody is there

What is answered where no user and no language model can be asked: the first choice is
taken, fields get their default answers, forms are submitted as they are filled in, and
the language model is not there.
-/

namespace FormChain

namespace Unattended

/-- The language model is not there. -/
def ai : Except ActionError String :=
  .error (.ai "no AI provider configured")

/-- **The choice** among values: the first, or none where there are none. -/
def suggest (options : List Value) : Except ActionError (Option Value) :=
  .ok options.head?

/-- **The answers to fields**: the default ones, where there are some. -/
def collect (fields : List Field) : Except ActionError (Option Bag) :=
  .ok (some (Keyed.ofList (fields.filterMap fun f => f.default.map (f.id, ·))))

/-- **The answers to a form**: those that it was filled in with. -/
def openForm (filledIn : Bag) : Except ActionError (Option Bag) :=
  .ok (some filledIn)

end Unattended

end FormChain
