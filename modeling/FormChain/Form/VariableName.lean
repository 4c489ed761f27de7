import FormChain.Unicode.Alphabetic

/-!
# Names of variables

A variable is named by a letter or underscore and then letters, digits, underscores
and hyphens.
-/

namespace FormChain

/-- Whether a character may start the name of a variable. -/
def startsVariableName (c : Char) : Bool :=
  Unicode.isAlphabetic c || c = '_'

/-- Whether a character may stand in the name of a variable. -/
def continuesVariableName (c : Char) : Bool :=
  Unicode.isAlphanumeric c || c = '_' || c = '-'

/-- **Whether a text may name a variable.** -/
def isVariableName (s : String) : Bool :=
  match s.toList with
  | [] => false
  | c :: rest => startsVariableName c && rest.all continuesVariableName

end FormChain
