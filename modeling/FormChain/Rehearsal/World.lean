import FormChain.Condition.FileText
import FormChain.Session.Desk
import FormChain.Chain.Script
import FormChain.Chain.Unattended
import FormChain.Value.Coercion
import FormChain.Vault.Basic

/-!
# The surroundings of a rehearsal

In a rehearsal everything that a script asks for is laid out beforehand: the vault, the
answers of the language model and of the user, which requests to the vault fail, and
when tokens are cancelled. Time is not the time of day; it stands still but for sleep.

Where the answers laid out have run out, nobody is there to ask. Numbers drawn at random
are always zero, and files are decoded as the program does it by itself.
-/

namespace FormChain

/-! ### Cues -/

/-- What a cue says. -/
inductive CueAnswer where
  /-- A value. -/
  | value (v : Value)
  /-- The user turns the prompt away. -/
  | dismiss
  /-- The exchange fails. -/
  | fail (reason : String)

/-- **An answer that is laid out.** -/
structure Cue where
  /-- What it says. -/
  answer : CueAnswer
  /-- Whether the chain is called off meanwhile. -/
  cancels : Bool := false

/-- What happens to forms that are launched. -/
structure LaunchCue where
  /-- The reason for which they are refused. -/
  refusal : Option String := none
  /-- Whether the chain is called off meanwhile. -/
  cancels : Bool := false

/-- **What was done**, as far as the surroundings show it. -/
inductive Deed where
  /-- The language model was asked. -/
  | ai (r : AiRequest)
  /-- The user was offered a choice. -/
  | suggest (placeholder : Option String) (options : List Value)
  /-- The user was asked to fill in fields. -/
  | collect (ids : List String)
  /-- The user was asked to fill in a form. -/
  | openForm (name : Option String) (defaults : Bag)
  /-- A form was launched. -/
  | launch (path : String) (mode : ButtonMode) (session : Option SessionId)
  /-- The user was told something. -/
  | notify (message : String)
  /-- A file was to be created. -/
  | create (path : String)
  /-- A file was to be changed. -/
  | write (file : String)

/-! ### The world -/

/-- **The surroundings of a rehearsal.** -/
structure World where
  /-- The vault. -/
  vault : Vault := .memory .empty
  /-- The sessions; scripts use the first ledger. -/
  desk : Desk := {}
  /-- Whether the token that belongs to no session is cancelled. -/
  cancelled : Bool := false
  /-- When the token that belongs to no session will be cancelled. -/
  alarm : Option Nat := none
  /-- The milliseconds that have passed. -/
  clock : Nat := 0
  /-- What a calendar shows. -/
  now : LocalMoment := default
  /-- The answers of the language model. -/
  ai : List Cue := []
  /-- The choices of the user. -/
  suggest : List Cue := []
  /-- What the user fills into fields. -/
  collect : List Cue := []
  /-- What the user fills into forms. -/
  openForm : List Cue := []
  /-- What happens to forms that are launched. -/
  launch : LaunchCue := {}
  /-- How many requests to the vault still fail, under the names of requests. -/
  failures : Keyed Nat := []
  /-- What was done, the latest first. -/
  deeds : List Deed := []
  /-- Chains that were moved behind the user's back and have not started yet. -/
  jobs : List Job := []

namespace World

/-! ### Tokens -/

/-- Whether a token is cancelled. -/
def isCancelled (w : World) (token : Token) : Bool :=
  if token = 0 then w.cancelled else w.desk.first.isCancelled token

/-- Cancel a token. -/
def cancel (w : World) (token : Token) : World :=
  if token = 0 then { w with cancelled := true }
  else { w with desk := { w.desk with first := w.desk.first.cancel token } }

/-- Cancel a token if a cue says so. -/
def cancelIf (w : World) (token : Token) (b : Bool) : World :=
  if b then w.cancel token else w

/-- Write down what was done. -/
def record (w : World) (d : Deed) : World :=
  { w with deeds := d :: w.deeds }

/-- The reply to a call that was answered. -/
def reply (w : World) (token : Token) (c : Call) (a : c.Answer) : Reply c :=
  ⟨a, w.isCancelled token, w.now⟩

/-! ### The vault -/

/-- The name under which failures are laid out for a request. -/
def requestName : VaultRequest → String
  | .find _ => "get"
  | .read _ => "read"
  | .write .. => "write"
  | .create .. => "create"
  | .metadata _ => "metadata"

/-- The deed of a request, where it is one. -/
def requestDeed? : VaultRequest → Option Deed
  | .write file _ => some (.write file)
  | .create path _ => some (.create path)
  | _ => none

/-- The text of a failure that was laid out. -/
def hiccup : String := "disk hiccup"

/-- One failure fewer of a request, if any was left. -/
def takeFailure? (w : World) (r : VaultRequest) : Option World :=
  match w.failures.get? (requestName r) with
  | some (n + 1) => some { w with failures := w.failures.insert (requestName r) n }
  | _ => none

/-- The world in which a request is written down. -/
def noting (w : World) (r : VaultRequest) : World :=
  match requestDeed? r with
  | some d => w.record d
  | none => w

/-- What the vault itself answers, unless the request breaks off. -/
def grant (w : World) (r : VaultRequest) : Option r.Result × World :=
  let (a, vault) := w.vault.answer r
  (a, { w with vault })

/-- The answer of the vault, unless the request breaks off. -/
def askVault (w : World) (r : VaultRequest) : Option r.Result × World :=
  let w := w.noting r
  match w.takeFailure? r with
  | some w => (some (.error (.io hiccup)), w)
  | none => w.grant r

/-- Whether the vault lets in one after another for a request: a vault in memory does, unless it
refuses the path without looking. -/
def lockedFor (w : World) (r : VaultRequest) : Bool :=
  match w.vault, r with
  | .disk _, _ => false
  | .memory _, .find path | .memory _, .create path _ | .memory _, .metadata path =>
    (VaultPath.normalize? path).isOk
  | .memory _, .read _ | .memory _, .write .. => true

/-! ### The language model and the user -/

/-- What a cue says of a prompt that the user may turn away. -/
def Cue.choice (c : Cue) : Except ActionError (Option Value) :=
  match c.answer with
  | .value v => .ok (some v)
  | .dismiss => .ok none
  | .fail reason => .error (.interaction reason)

/-- The fields of an object. -/
def bagOf : Value → Bag
  | .object fields => fields
  | _ => []

/-- The answer of the language model. -/
def askAi (w : World) (token : Token) (r : AiRequest) : Except ActionError String × World :=
  let w := w.record (.ai r)
  match w.ai with
  | [] => (Unattended.ai, w)
  | c :: rest =>
    let w := { w with ai := rest }.cancelIf token c.cancels
    match c.answer with
    | .value v => (.ok v.toText, w)
    | .dismiss => (.ok "", w)
    | .fail reason => (.error (.ai reason), w)

/-- The choice of the user. -/
def askSuggest (w : World) (token : Token) (placeholder : Option String) (options : List Value) :
    Except ActionError (Option Value) × World :=
  let w := w.record (.suggest placeholder options)
  match w.suggest with
  | [] => (Unattended.suggest options, w)
  | c :: rest => (Cue.choice c, { w with suggest := rest }.cancelIf token c.cancels)

/-- What the user fills into fields. -/
def askCollect (w : World) (token : Token) (fields : List Field) :
    Except ActionError (Option Bag) × World :=
  let w := w.record (.collect (fields.map (·.id)))
  match w.collect with
  | [] => (Unattended.collect fields, w)
  | c :: rest =>
    ((Cue.choice c).map (·.map bagOf), { w with collect := rest }.cancelIf token c.cancels)

/-- What the user fills into a form. -/
def askOpenForm (w : World) (token : Token) (form : Form) (defaults : Bag) :
    Except ActionError (Option Bag) × World :=
  let w := w.record (.openForm form.name defaults)
  match w.openForm with
  | [] => (Unattended.openForm defaults, w)
  | c :: rest =>
    ((Cue.choice c).map (·.map bagOf), { w with openForm := rest }.cancelIf token c.cancels)

/-- What happens to a form that is launched. -/
def askLaunch (w : World) (token : Token) (path : String) (mode : ButtonMode)
    (session : Option SessionId) : Except ActionError Unit × World :=
  let w := (w.record (.launch path mode session)).cancelIf token w.launch.cancels
  match w.launch.refusal with
  | some reason => (.error (.launched (.invalid reason)), w)
  | none => (.ok (), w)

/-! ### All calls -/

/-- **The answer to a call**, unless it breaks off, and the world behind it. Sleep takes no time
here: whoever runs the script lets it pass. -/
def answer (w : World) (token : Token) : (c : Call) → Option c.Answer × World
  | .vault r => w.askVault r
  | .ai r => (w.askAi token r).map some id
  | .suggest placeholder options => (w.askSuggest token placeholder options).map some id
  | .collect fields => (w.askCollect token fields).map some id
  | .openForm form defaults => (w.askOpenForm token form defaults).map some id
  | .launch path mode session => (w.askLaunch token path mode session).map some id
  | .decode file => (some file.fileText?, w)
  | .notify message => (some (), w.record (.notify message))
  | .sleep _ => (some (), w)
  | .session r =>
    let (a, l) := w.desk.first.answer (some w.clock) r
    (some a, { w with desk := { w.desk with first := l } })
  | .detach job => (some (), { w with jobs := w.jobs ++ [job] })
  | .draw => (some 0, w)
  | .look => (some (), w)

end World

end FormChain
