import FormChain.Chain.Unattended
import FormChain.CommandLine.Arguments
import FormChain.CommandLine.EnvFile
import FormChain.CommandLine.Report
import FormChain.Vault.Path
import Std.Time.DateTime.Timestamp
import Std.Time.Zoned.Database

/-!
# The machine that the program runs on

The surroundings of scripts that are run from the command line: a vault in a folder of
the machine, its clocks, sessions in memory, and nobody to ask. What a chain does comes
from its script; here every call is only carried out.
-/

namespace FormChain.CommandLine

/-- **The surroundings of scripts.** -/
structure Host where
  /-- The folder of the vault. -/
  root : String
  /-- The sessions. -/
  ledger : IO.Ref Ledger
  /-- The chains that were moved behind the user's back. -/
  jobs : IO.Ref (List Job)

/-! ### The environment -/

/-- The variables of some names that the environment has. -/
def environmentOf (names : List String) : IO (Keyed String) := do
  let found ← names.filterMapM fun name => do
    return (← IO.getEnv name).map (name, ·)
  return Keyed.ofList found

/-- The text of a file, if it can be read. -/
def readable? (path : String) : IO (Option String) :=
  try return some (← IO.FS.readFile path)
  catch _ => return none

/-- The names of the variables that the program depends on. -/
def environmentNames : List String :=
  vaultVariable :: Config.environmentNames

/-- **The environment** with the variables of the file in the folder of the start. -/
def environment : IO (Keyed String) := do
  match ← readable? envFileName with
  | none => environmentOf environmentNames
  | some text =>
    return EnvFile.load (← environmentOf (environmentNames ++ EnvFile.mentioned text)) text

/-! ### The vault -/

/-- The refusal of a vault whose folder is in trouble. -/
def refusal (e : IO.Error) : VaultError :=
  .io (toString e)

/-- The number by which the machine says that a folder stands where a file is needed. -/
def folderErrorNumber : UInt32 := 21

/-- The path of the machine for a path in the vault, and the latter in plain form. -/
def Host.resolve (h : Host) (path : String) : Except VaultError (String × String) := do
  let plain ← VaultPath.normalize? path
  return (plain, h.root ++ "/" ++ plain)

/-- Whether there is a file under a path of the machine. -/
def isFile (full : String) : IO (Except VaultError Bool) := do
  try
    let handle ← IO.FS.Handle.mk full .read
    let _ ← handle.read 1
    return .ok true
  catch
    | .noFileOrDirectory .. => return .ok false
    | e@(.inappropriateType _ number _) =>
      return if number = folderErrorNumber then .ok false else .error (refusal e)
    | e => return .error (refusal e)

/-- Whether there is a folder under a path of the machine. -/
def isFolder (full : String) : IO Bool :=
  try
    let _ ← IO.FS.Handle.mk (full ++ "/.") .read
    return true
  catch _ => return false

namespace Host

/-- The file of a path. -/
def find (h : Host) (path : String) : IO (Except VaultError (Option String)) := do
  match h.resolve path with
  | .error e => return .error e
  | .ok (plain, full) => return (← isFile full).map fun b => if b then some plain else none

/-- The text of a file. -/
def read (h : Host) (file : String) : IO (Except VaultError String) := do
  match h.resolve file with
  | .error e => return .error e
  | .ok (_, full) =>
    try return .ok (← IO.FS.readFile full)
    catch
      | .noFileOrDirectory .. => return .error (.notFound file)
      | e => return .error (refusal e)

/-- Change the text of a file. An edit that breaks off breaks the program off with it. -/
def write (h : Host) (file : String) (edit : Edit) : IO (Except VaultError Unit) := do
  match ← h.read file, h.resolve file with
  | .error e, _ => return .error e
  | _, .error e => return .error e
  | .ok text, .ok (_, full) =>
    match edit.applied? text with
    | none => throw (.userError ("insertion inside a character: " ++ file))
    | some text =>
      try
        IO.FS.writeFile full text
        return .ok ()
      catch e => return .error (refusal e)

/-- Create a file, and the folders that it lies in. -/
def create (h : Host) (path text : String) : IO (Except VaultError String) := do
  match h.resolve path with
  | .error e => return .error e
  | .ok (plain, full) =>
    let folder := VaultPath.ofSegments (VaultPath.segmentsOf full).dropLast
    try
      IO.FS.createDirAll folder
      let handle ← IO.FS.Handle.mk full .writeNew
      handle.putStr text
      handle.flush
      return .ok plain
    catch
      | .alreadyExists .. => return .error (.alreadyExists plain)
      | e => return .error (refusal e)

/-- The metadata of the file of a path. -/
def metadata (h : Host) (path : String) : IO (Except VaultError (Option Metadata)) := do
  match ← h.find path with
  | .error e => return .error e
  | .ok none => return .ok none
  | .ok (some file) => return (← h.read file).map fun text => some ⟨Frontmatter.range? text⟩

/-- **The answer of the vault.** -/
def askVault (h : Host) : (r : VaultRequest) → IO r.Result
  | .find path => h.find path
  | .read file => h.read file
  | .write file edit => h.write file edit
  | .create path text => h.create path text
  | .metadata path => h.metadata path

/-! ### Time and sessions -/

/-- How far the clocks of the machine are ahead of universal time. A machine that does not tell
where it stands keeps universal time. -/
def offsetAt (t : Std.Time.Timestamp) : IO Int := do
  try
    let rules ← Std.Time.Database.defaultGetLocalZoneRules
    return (rules.timezoneAt t).offset.second.val
  catch _ => return 0

/-- What a calendar shows. -/
def now : IO LocalMoment := do
  let t ← Std.Time.Timestamp.now
  return ⟨⟨t.toMillisecondsSinceUnixEpoch.val⟩, ← offsetAt t⟩

/-- The tasks that wait for deadlines are woken. -/
def wakeTasks (h : Host) : IO Unit := do
  let clock ← IO.monoMsNow
  h.ledger.modify (·.wakeAll clock)

/-- The longest time that the machine sleeps at once. -/
def longestSleep : Nat := 1000000000

/-- Sleep. -/
def sleepFor (duration : Nat) : IO Unit := do
  for _ in [0:duration / longestSleep] do
    IO.sleep longestSleep.toUInt32
  IO.sleep (duration % longestSleep).toUInt32

/-- The deadline at which a token is cancelled, where it can still take effect. -/
def deadline? (l : Ledger) (token : Token) : Option Nat :=
  (l.waiting.find? fun task => task.token == token && !l.isDisarmed task.disarm).map (·.due)

/-- Sleep, but no longer than up to the deadline of a token. -/
def sleep (h : Host) (token : Token) (duration : Nat) : IO Unit := do
  let l ← h.ledger.get
  if !l.isCancelled token then
    let clock ← IO.monoMsNow
    match deadline? l token with
    | some t => sleepFor (min duration (t - clock))
    | none => sleepFor duration

/-! ### Calls -/

/-- **The answer to a call.** Launches of forms are answered within submissions, so none
comes here. -/
def answer (h : Host) (token : Token) : (c : Call) → IO c.Answer
  | .vault r => h.askVault r
  | .ai _ => return Unattended.ai
  | .suggest _ options => return Unattended.suggest options
  | .collect fields => return Unattended.collect fields
  | .openForm _ filledIn => return Unattended.openForm filledIn
  | .launch .. => return .ok ()
  | .decode file => return file.fileText?
  | .notify message => IO.println message
  | .sleep duration => h.sleep token duration
  | .session r => do
    let clock ← IO.monoMsNow
    h.ledger.modifyGet (·.answer (some clock) r)
  | .detach job => h.jobs.modify (· ++ [job])
  | .draw => IO.rand 0 Decimal.maxNat64
  | .look => return ()

/-- The reply to a call, once the deadlines that have come took effect. -/
def reply (h : Host) (token : Token) (c : Call) : IO (Reply c) := do
  let a ← h.answer token c
  h.wakeTasks
  return ⟨a, (← h.ledger.get).isCancelled token, ← now⟩

/-- Run a script. -/
def run {α : Type} (h : Host) (s : Script α) : IO α :=
  s.interpret h.reply

/-- Run the chains that were moved behind the user's back. One that breaks off leaves the others
as they are. -/
def runJobs (h : Host) (config : Config) : IO Unit := do
  for job in ← h.jobs.get do
    try h.run (Submission.runJob config job)
    catch e => IO.eprintln e

end Host

end FormChain.CommandLine
