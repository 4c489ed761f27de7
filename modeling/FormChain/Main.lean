import FormChain.CommandLine.Host

/-!
# The program

Submits forms from the command line, lists the variables of loops, and prints the schema
of forms.
-/

namespace FormChain.CommandLine

/-- Complain about what went wrong, and fail. -/
def fail (message : String) : IO Nat := do
  IO.eprintln message
  return failureCode

/-- Submit the form of a path in the vault kept in a folder, and wait for its chain where
that was moved behind the user's back. -/
def submitIn (config : Config) (root form : String) (values : Bag) (timeout : Option Nat) :
    IO Nat := do
  let host : Host := { root, ledger := ← IO.mkRef {}, jobs := ← IO.mkRef [] }
  let result ← host.run (Submission.submitPath config form values (submitOptions timeout)).run
  match result with
  | .ok _ => host.runJobs config
  | .error e => IO.eprintln e.message
  return exitCode result

/-- **Carry out a command**, and tell the number to exit with. -/
def Command.run (env : Keyed String) : Command → IO Nat
  | .submit form vault values timeout => do
    if !(← isFolder vault) then fail (notAFolderMessage vault)
    else
      match Config.ofEnvironment env with
      | .error e => fail e.message
      | .ok config => submitIn config vault form values timeout
  | .listVariables kind => do
    (variableLines kind).forM IO.println
    return successCode
  | .schema => do
    IO.println schemaText
    return successCode

end FormChain.CommandLine

open FormChain CommandLine in
/-- The program. -/
def main (args : List String) : IO UInt32 := do
  let env ← environment
  match Command.read? env args with
  | some command =>
    try return (← command.run env).toUInt32
    catch e =>
      IO.eprintln e
      return brokenOffCode.toUInt32
  | none =>
    IO.eprintln usage
    return abortCode.toUInt32
