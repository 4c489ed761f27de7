import FormChain.Form.LoopVariable
import FormChain.Form.Schema
import FormChain.Submission.Basic

/-!
# What the command line reports

The texts that commands print, and the numbers that they exit with: zero when all went
well, two when a chain was called off or the command line made no sense, and one when
something failed.
-/

namespace FormChain.CommandLine

/-- A text filled up with blanks. -/
def padded (width : Nat) (s : String) : String :=
  s ++ String.ofList (List.replicate (width - s.length) ' ')

/-- The line of a variable. -/
def variableLine (v : LoopVariable) : String :=
  padded 12 v.name ++ " " ++ v.description

/-- The lines of the variables of a kind of loop. -/
def variableLines (kind : Option LoopKind) : List String :=
  (LoopVariable.standard kind).map variableLine

/-- The text of the schema of forms. -/
def schemaText : String :=
  Schema.form.spread 0

/-- What is said of a vault that is no folder. -/
def notAFolderMessage (vault : String) : String :=
  "vault '" ++ vault ++ "' is not a directory"

/-- What is said of a command line without sense. -/
def usage : String :=
  Text.joined "\n" [
    "usage: formflow submit <form> [--vault <folder>] [--value <id=value>]... [--timeout <seconds>]",
    "       formflow variables [--loop-type <kind>]",
    "       formflow schema"]

/-- The options of a submission from the command line. -/
def submitOptions (timeout : Option Nat) : SubmitOptions where
  timeoutEnabled := timeout.map fun _ => true
  timeoutSeconds := timeout

/-- The number of success. -/
def successCode : Nat := 0

/-- The number of failure. -/
def failureCode : Nat := 1

/-- The number of a chain that was called off, and of a command line without sense. -/
def abortCode : Nat := 2

/-- The program has broken off. -/
def brokenOffCode : Nat := 101

/-- **The number that a submission exits with.** A chain behind the user's back counts as
carried out. -/
def exitCode : Except SubmitError SubmitStatus → Nat
  | .ok .completed => successCode
  | .ok .backgrounded => successCode
  | .ok .aborted => abortCode
  | .error _ => failureCode

end FormChain.CommandLine
