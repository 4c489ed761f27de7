import FormChain.Chain.Run
import FormChain.Form.Validation
import FormChain.Submission.Answers

/-!
# Submissions

To submit a form is to fill in default answers, to check the required ones, to take a
lease on a session, to carry out the chain of the form under the token of that session,
and to report. A chain may be moved behind the user's back: then the submission ends at
once, and the chain goes on with a lease of its own.

A form that an action launches is submitted within the session of the chain that it was
launched from, under the same token; what becomes of it is reported by the submission
around it.
-/

namespace FormChain

/-! ### Options and results -/

/-- What can be asked for in a single submission. -/
structure SubmitOptions where
  /-- Whether it is cut off after some time, whatever the form says. -/
  timeoutEnabled : Option Bool := none
  /-- After how many seconds, whatever the form says. -/
  timeoutSeconds : Option Nat := none
  /-- Whether it joins a session that is there. -/
  nested : Bool := false
  deriving DecidableEq, Repr

/-- **How a submission ends.** -/
inductive SubmitStatus where
  /-- The chain was carried out. -/
  | completed
  /-- The chain was called off. -/
  | aborted
  /-- The chain goes on behind the user's back. -/
  | backgrounded
  deriving DecidableEq, Repr

/-- The chain that a form was launched from. -/
structure ParentChain where
  /-- Its token. -/
  token : Token
  /-- Its session, if it has one. -/
  session : Option SessionId
  deriving DecidableEq, Repr

/-- Where a chain is carried out, which decides what is told the user. -/
inductive Stage where
  /-- In front of the user. -/
  | foreground
  /-- Behind the user's back. -/
  | background
  /-- Inside another chain. -/
  | nested
  deriving DecidableEq, Repr

/-- **A script that may fail with a submission.** -/
abbrev Submission := ExceptT SubmitError Script

/-- What answers the launches of forms. -/
abbrev Launcher :=
  Token → (path : String) → (mode : ButtonMode) → (session : Option SessionId) →
    Script (Reply (.launch path mode session))

namespace Submission

/-- Ask the surroundings. -/
def ask (token : Token) (c : Call) : Submission c.Answer := do
  let r ← (Script.call token c : Script (Reply c))
  return r.answer

/-- Tell the user. -/
def notify (token : Token) (message : String) : Script Unit := do
  let _ ← Script.call token (.notify message)

/-- Ask the ledger of sessions. -/
def askLedger (token : Token) (r : SessionRequest) : Script r.Answer := do
  let reply ← Script.call token (.session r)
  return reply.answer

/-- Have a file decoded. -/
def decode (token : Token) (file : Value) : Script (Option String) := do
  let reply ← Script.call token (.decode file)
  return reply.answer

/-! ### Loading -/

/-- Ask the vault for the file of a form. -/
def askForForm (path : String) (r : VaultRequest) : Submission r.Answer := do
  match ← ask 0 (.vault r) with
  | .ok a => return a
  | .error e => throw (.load path (.vault e))

/-- **Load the form of a path**, which must keep all rules. -/
def load (path : String) : Submission Form := do
  match ← askForForm path (.find path) with
  | none => throw (.load path .missing)
  | some file =>
    match Form.ofText (← askForForm path (.read file)) with
    | .error c => throw (.load path (.noForm c))
    | .ok form =>
      match form.errors with
      | [] => return form
      | e :: _ => throw (.invalid e.message)

/-! ### Reporting -/

/-- What the user is told of a chain that was carried out. -/
def successMessage (form : Form) : String :=
  form.name.getD "Form" ++ " submitted"

/-- What the user is told of a chain that was called off. -/
def abortMessage (expired : Bool) : String :=
  if expired then "Form submission timed out" else "Form submission aborted"

/-- What the user is told of an outcome, if anything. -/
def message? (config : Config) (form : Form) (stage : Stage) (expired : Bool) :
    Chain.Outcome → Option String
  | .completed =>
    if stage = .foreground && !form.quiet then some (successMessage form) else none
  | .aborted =>
    if stage ≠ .nested && config.notifyOnAbort then some (abortMessage expired) else none
  | .failed e => if stage ≠ .nested then some e.message else none

/-- The result of a submission with an outcome. -/
def resultOf : Chain.Outcome → Except SubmitError SubmitStatus
  | .completed => .ok .completed
  | .aborted => .ok .aborted
  | .failed e => .error (.chain e)

/-- **Report an outcome** to the user and to whoever asked for the submission. -/
def report (config : Config) (token : Token) (form : Form) (stage : Stage) (expired : Bool)
    (outcome : Chain.Outcome) : Script (Except SubmitError SubmitStatus) := do
  match message? config form stage expired outcome with
  | some m => notify token m
  | none => pure ()
  return resultOf outcome

/-! ### Submitting -/

/-- When a submission is cut off: as its options say, else the form, else the
configuration. -/
def timeoutOf (config : Config) (form : Form) (options : SubmitOptions) : Timeout where
  enabled := (options.timeoutEnabled.or (form.timeout.map (·.enabled))).getD config.timeoutEnabled
  seconds := (options.timeoutSeconds.or (form.timeout.map (·.seconds))).getD config.timeoutSeconds

/-- A lease on the session of the parent if that lives, else on a new session, or on the
active one where nothing is known of a parent. -/
def takeLease (config : Config) (token : Token) (form : Form) (options : SubmitOptions)
    (parent : Option ParentChain) : Script Lease := do
  let start : Script Lease :=
    askLedger token (.start (timeoutOf config form options) (options.nested && parent.isNone))
  match parent.bind (·.session) with
  | none => start
  | some id =>
    match ← askLedger token (.join id) with
    | some lease => return lease
    | none => start

/-- The state that a chain starts in. -/
def startState (form : Form) (values : Bag) (now : LocalMoment) (seed : Nat) : ChainState where
  values := values
  fieldIds := form.idsByLabel
  now := now
  seed := seed

/-- Carry out the chain of a form within a session. -/
def chain (config : Config) (launcher : Launcher) (token : Token) (session : SessionId)
    (form : Form) (values : Bag) (now : LocalMoment) : Script Chain.Outcome := do
  let setting : ChainSetting :=
    { form, config, token, session := some session, canLaunch := true }
  let draw ← Script.call token .draw
  let run := Chain.execute setting form.actions (startState form values now draw.answer)
  let (outcome, _) ← run.withLauncher launcher
  return outcome

/-- **A chain behind the user's back**, up to the end of its lease. -/
def background (config : Config) (launcher : Launcher) (job : Job) : Script Unit := do
  let look ← Script.call job.token .look
  let outcome ← chain config launcher job.token job.lease.session job.form job.values look.now
  let expired ← askLedger job.token (.timedOut job.lease.session)
  let _ ← report config job.token job.form .background expired outcome
  askLedger job.token (.releaseBackground job.lease)

/-- Carry out the chain of a form and report. -/
def foreground (config : Config) (launcher : Launcher) (token : Token) (lease : Lease)
    (form : Form) (values : Bag) (nested : Bool) (now : LocalMoment) :
    Script (Except SubmitError SubmitStatus) := do
  let outcome ← chain config launcher token lease.session form values now
  let expired ← askLedger token (.hasExpired lease.flag)
  askLedger token (.release lease.session)
  report config token form (if nested then .nested else .foreground) expired outcome

/-- Move the chain of a form behind the user's back. -/
def moveAway (lease : Lease) (form : Form) (values : Bag) : Script SubmitStatus := do
  let held ← askLedger lease.token (.hold lease)
  askLedger lease.token (.release lease.session)
  let _ ← Script.call lease.token (.detach ⟨form, values, lease.token, held⟩)
  return .backgrounded

/-- **Submit a form**, perhaps from within another chain. -/
def submitWithin (config : Config) (launcher : Launcher) (form : Form) (given : Bag)
    (options : SubmitOptions) (parent : Option ParentChain) : Submission SubmitStatus := do
  let token := (parent.map (·.token)).getD 0
  let values := form.withDefaults given
  let look ← (Script.call token .look : Script (Reply .look))
  match ← (form.missing? (decode token) values look.now : Script (Option Field)) with
  | some field =>
    let e := SubmitError.missingAnswer field.label
    notify token e.message
    throw e
  | none =>
    let lease ← (takeLease config token form options parent : Script Lease)
    if form.inBackground && !options.nested then
      (moveAway lease form values : Script SubmitStatus)
    else
      let token := (parent.map (·.token)).getD lease.token
      ExceptT.mk (foreground config launcher token lease form values options.nested look.now)

/-! ### Launching -/

/-- The answers that a launched form is submitted with, if the user does not turn it
away. -/
def launchValues (token : Token) (mode : ButtonMode) (form : Form) :
    Script (Except ActionError (Option Bag)) := do
  match mode with
  | .submit => return .ok (some [])
  | .openFirst =>
    let r ← Script.call token (.openForm form form.defaults)
    return r.answer

/-- **Launch the form of a path** from within a chain. A form that the user turns away is
no failure, and neither is one that was called off. -/
def launchForm (config : Config) (launcher : Launcher) (path : String) (mode : ButtonMode)
    (parent : ParentChain) : Script (Except ActionError Unit) := do
  match ← (load path).run with
  | .error e => return .error (.launched e)
  | .ok form =>
    match ← launchValues parent.token mode form with
    | .error e => return .error e
    | .ok none => return .ok ()
    | .ok (some values) =>
      let options : SubmitOptions := { nested := true }
      match ← (submitWithin config launcher form values options (some parent)).run with
      | .ok _ => return .ok ()
      | .error e => return .error (.launched e)

/-- What answers launches, with forms launched from launched forms up to a depth. -/
def launcherOfDepth (config : Config) : (depth : Nat) → Launcher
  | 0 => fun token _ _ _ => do
    let look ← Script.call token .look
    return ⟨.error (.launched (.chain .tooDeep)), look.cancelled, look.now⟩
  | depth + 1 => fun token path mode session => do
    let answer ← launchForm config (launcherOfDepth config depth) path mode ⟨token, session⟩
    let look ← Script.call token .look
    return ⟨answer, look.cancelled, look.now⟩

/-- **What answers launches.** -/
def launcher (config : Config) : Launcher :=
  launcherOfDepth config config.reach

/-! ### The service -/

/-- **Submit a form.** -/
def submit (config : Config) (form : Form) (values : Bag) (options : SubmitOptions) :
    Submission SubmitStatus :=
  submitWithin config (launcher config) form values options none

/-- Submit the form of a path. -/
def submitPath (config : Config) (path : String) (values : Bag) (options : SubmitOptions) :
    Submission SubmitStatus := do
  submit config (← load path) values options

/-- Let the user fill in the form of a path and submit it. -/
def openPath (config : Config) (path : String) : Submission SubmitStatus := do
  let form ← load path
  match ← ask 0 (.openForm form form.defaults) with
  | .error e => throw (.interaction e)
  | .ok none => return .aborted
  | .ok (some values) => submit config form values {}

/-- A chain behind the user's back. -/
def runJob (config : Config) (job : Job) : Script Unit :=
  background config (launcher config) job

end Submission

end FormChain
