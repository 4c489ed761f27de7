import FormChain.Form.Reader
import FormChain.Vault.Error

/-!
# Why chains and submissions fail

An action fails for a reason of its own; the chain fails with the reason and the action;
the submission fails with the chain, or before the chain has started. A submission that
an action has launched hands its failure to that action, so the three kinds of failure
refer to each other.

A chain that is called off is not a failure of any action.
-/

namespace FormChain

/-! ### Actions that are set up wrongly -/

/-- **How an action can be set up wrongly.** -/
inductive Misuse where
  /-- The name of a new file is blank. -/
  | emptyFileName
  /-- All names near a path are taken. -/
  | noFreeName (path : String)
  /-- An insertion behind a heading names none. -/
  | headingNeeded
  /-- The heading is not in the file. -/
  | headingNotFound (heading path : String)
  /-- Data is collected outside of every loop. -/
  | outsideLoop
  /-- There is no group of this id. -/
  | unknownGroup (id : String)
  /-- A loop over a list has none. -/
  | sourceNeeded (kind : LoopKind)
  /-- A page has no room. -/
  | emptyPages
  /-- A count loop has no range. -/
  | rangeNeeded
  /-- A count loop does not move. -/
  | zeroStep
  /-- A condition loop has no condition. -/
  | conditionNeeded
  /-- There is nobody to launch a form. -/
  | noLauncher
  deriving DecidableEq, Repr

/-- The wording of wrong use. -/
def Misuse.message : Misuse → String
  | emptyFileName => "file name is empty"
  | noFreeName path => "no free file name near '" ++ path ++ "'"
  | headingNeeded => "afterHeading needs a heading"
  | headingNotFound heading path => "heading '" ++ heading ++ "' not found in " ++ path
  | outsideLoop => "collectData is only valid inside a loop"
  | unknownGroup id => "unknown action group '" ++ id ++ "'"
  | sourceNeeded kind => Spelled.word kind ++ " loop needs a listSource"
  | emptyPages => "pageSize must be positive"
  | rangeNeeded => "count loop needs a count range"
  | zeroStep => "count step must not be zero"
  | conditionNeeded => "condition loop needs a condition"
  | noLauncher => "no form launcher available"

/-! ### Forms that cannot be loaded -/

/-- **Why a form cannot be loaded.** -/
inductive LoadFault where
  /-- The vault refuses. -/
  | vault (e : VaultError)
  /-- There is no such file. -/
  | missing
  /-- The file holds no form. -/
  | noForm (c : Complaint)

/-- The wording of a failure to load. -/
def LoadFault.message : LoadFault → String
  | vault e => e.message
  | missing => "file not found"
  | noForm c => formComplaint c

/-! ### Failures -/

mutual

/-- **Why an action fails.** -/
inductive ActionError where
  /-- It is set up wrongly. -/
  | misuse (m : Misuse)
  /-- The vault refuses. -/
  | vault (e : VaultError)
  /-- The language model fails. -/
  | ai (reason : String)
  /-- The exchange with the user fails. -/
  | interaction (reason : String)
  /-- The user turned a prompt away. -/
  | dismissed
  /-- A launched form fails. -/
  | launched (e : SubmitError)

/-- **Why a chain ends early.** -/
inductive ChainError where
  /-- It was called off. -/
  | cancelled
  /-- An action of some id and type failed. -/
  | action (id typeName : String) (source : ActionError)
  /-- Groups refer to each other without an end. -/
  | tooDeep

/-- **Why a submission fails.** -/
inductive SubmitError where
  /-- A required field of this label has no answer. -/
  | missingAnswer (label : String)
  /-- The form breaks a rule. -/
  | invalid (reason : String)
  /-- The form of a path cannot be loaded. -/
  | load (path : String) (fault : LoadFault)
  /-- The user could not fill in the form. -/
  | interaction (e : ActionError)
  /-- The chain failed. -/
  | chain (e : ChainError)

end

mutual

/-- The wording of an action's failure. -/
def ActionError.message : ActionError → String
  | .misuse m => "validation error: " ++ m.message
  | .vault e => "document store error: " ++ e.message
  | .ai reason => "AI invocation failed: " ++ reason
  | .interaction reason => "interaction failed: " ++ reason
  | .dismissed => "dismissed by user"
  | .launched e => "nested form failed: " ++ e.message

/-- The wording of a chain's failure. -/
def ChainError.message : ChainError → String
  | .cancelled => "execution cancelled"
  | .action id typeName source =>
    "action '" ++ id ++ "' (" ++ typeName ++ ") failed: " ++ source.message
  | .tooDeep => "actions are nested too deeply"

/-- The wording of a submission's failure. -/
def SubmitError.message : SubmitError → String
  | .missingAnswer label => "required field '" ++ label ++ "' is empty"
  | .invalid reason => "invalid form: " ++ reason
  | .load path fault => "failed to load form '" ++ path ++ "': " ++ fault.message
  | .interaction e => "form interaction failed: " ++ e.message
  | .chain e => e.message

end

end FormChain
