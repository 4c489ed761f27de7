import FormChain.CommandLine.Arguments
import FormChain.CommandLine.EnvFile
import FormChain.CommandLine.Report
import FormChain.Rehearsal.Service

/-!
# Rehearsing the command line

The whole program on a disk that is laid out, from its arguments to the number that it
exits with. The folder that it is started in is the top of the disk.
-/

namespace FormChain

namespace Rehearsal

/-- What comes of a run of the program. -/
structure ProgramEnd where
  /-- The number that it exits with. -/
  code : Nat
  /-- The lines that it prints. -/
  lines : List String
  /-- The disk. -/
  disk : Disk

/-- The folder that a text leads to, seen from another one. What lies outside of the disk
is not there. -/
def folderFrom? (disk : Disk) (place : List String) : List String → Option (List String)
  | [] => some place
  | name :: rest =>
    if name.isEmpty || name = "." then folderFrom? disk place rest
    else if name = ".." then
      if place.isEmpty then none else folderFrom? disk place.dropLast rest
    else
      match disk.look (place ++ [name]) with
      | .ok .folder => folderFrom? disk (place ++ [name]) rest
      | _ => none

/-- The folder that a text leads to. -/
def folder? (disk : Disk) (path : String) : Option (List String) :=
  if path.toList.head? = some '/' then none
  else folderFrom? disk [] (VaultPath.segmentsOf path)

/-- The messages among deeds, the earliest first. -/
def messages (deeds : List Deed) : List String :=
  deeds.reverse.filterMap fun
    | .notify m => some m
    | _ => none

/-- The wait for the end of all sessions. -/
def untilQuiet : Waiting Unit (Option SubmitResult) where
  wake := none
  isReady _ w := w.desk.first.count = 0
  resume _ w := (some (.done ()), w)

/-- Submit the form of a path. The program is the only host of its chains: where the chain
was moved behind the user's back, it stays until all sessions have ended. -/
def submitAndWait (config : Config) (form : String) (values : Bag) (timeout : Option Nat)
    (st : ServiceState) : Nat × ServiceState :=
  let options := CommandLine.submitOptions timeout
  match runMain config (Submission.submitPath config form values options).run st with
  | (some (.ok .backgrounded), st) =>
    (CommandLine.exitCode (.ok .backgrounded), (waitMain config untilQuiet st).2)
  | (some r, st) => (CommandLine.exitCode r, st)
  | (none, st) => (CommandLine.brokenOffCode, st)

/-- Submit a form in the vault kept in a folder of the disk. -/
def submitProgram (env : Keyed String) (now : LocalMoment) (disk : Disk) (form vault : String)
    (values : Bag) (timeout : Option Nat) : ProgramEnd :=
  match folder? disk vault, Config.ofEnvironment env with
  | some root, .ok config =>
    let world : World := { vault := .disk { disk, root }, now }
    let (code, st) := submitAndWait config form values timeout { world }
    let disk := match st.world.vault with
      | .disk v => v.disk
      | .memory _ => disk
    ⟨code, messages st.world.deeds, disk⟩
  | _, _ => ⟨CommandLine.failureCode, [], disk⟩

/-- The environment with the variables of the file in the folder of the start. -/
def environmentOn (disk : Disk) (env : Keyed String) : Keyed String :=
  match disk.look [CommandLine.envFileName] with
  | .ok (.file text) => EnvFile.load env text
  | _ => env

/-- **Rehearse the program.** -/
def program (env : Keyed String) (now : LocalMoment) (disk : Disk) (args : List String) :
    ProgramEnd :=
  let env := environmentOn disk env
  match CommandLine.Command.read? env args with
  | none => ⟨CommandLine.abortCode, [], disk⟩
  | some (.listVariables kind) => ⟨CommandLine.successCode, CommandLine.variableLines kind, disk⟩
  | some .schema => ⟨CommandLine.successCode, [CommandLine.schemaText], disk⟩
  | some (.submit form vault values timeout) =>
    submitProgram env now disk form vault values timeout

end Rehearsal

end FormChain
