import FormChain.Rehearsal.Schedule
import FormChain.Submission.Basic

/-!
# Rehearsing submissions

Steps that a host takes with submissions and sessions, one after another. A submission
can be started beside the others, as a task, and its result be waited for later.
-/

namespace FormChain

namespace Rehearsal

/-- The result of a submission. -/
abbrev SubmitResult := Except SubmitError SubmitStatus

/-- **A step of a host.** -/
inductive ServiceStep where
  /-- Submit a form. -/
  | submit (form : Form) (values : Bag) (options : SubmitOptions)
  /-- Submit a form as a task, and let it take its first turn. -/
  | spawn (name : String) (form : Form) (values : Bag) (options : SubmitOptions)
  /-- Wait for the result of a task. -/
  | await (name : String)
  /-- Submit the form of a path. -/
  | submitPath (path : String) (values : Bag) (options : SubmitOptions)
  /-- Let the user fill in the form of a path and submit it. -/
  | openPath (path : String)
  /-- Load the form of a path. -/
  | load (path : String)
  /-- Let time pass. -/
  | sleep (duration : Nat)
  /-- Do a step at the desk. -/
  | desk (book : Book) (step : DeskStep)

/-- What comes of a step. -/
inductive ServiceAnswer where
  /-- Nothing. -/
  | nothing
  /-- The result of a submission. -/
  | submitted (r : SubmitResult)
  /-- A form, or why there is none. -/
  | loaded (r : Except SubmitError Form)
  /-- What is seen at the desk. -/
  | desk (a : DeskAnswer)

/-- **The state of a rehearsal.** -/
structure ServiceState where
  /-- The surroundings. -/
  world : World
  /-- The tasks. -/
  troupe : Troupe (Option SubmitResult) := {}
  /-- Whether there is a clock, without which no deadline is set. -/
  isTimed : Bool := true

/-- A chain behind the user's back, as a task whose result nobody asks for. -/
def jobScript (config : Config) : JobScript (Option SubmitResult) := fun job => do
  Submission.runJob config job
  return none

/-- Run a script as the main one. -/
def runMain {α : Type} (config : Config) (s : Script α) (st : ServiceState) :
    Option α × ServiceState :=
  let (a, troupe, world) := play (jobScript config) maxTurns maxRequests s st.troupe st.world
  (a, { st with world, troupe })

/-- Wait. -/
def waitMain {α : Type} (config : Config) (x : Waiting α (Option SubmitResult))
    (st : ServiceState) : Option α × ServiceState :=
  let (a, troupe, world) := wait (jobScript config) maxTurns x st.troupe st.world
  (a, { st with world, troupe })

/-- Submit, and tell the result. -/
def runSubmission (config : Config) (s : Submission SubmitStatus) (st : ServiceState) :
    ServiceAnswer × ServiceState :=
  match runMain config s.run st with
  | (some r, st) => (.submitted r, st)
  | (none, st) => (.nothing, st)

/-- **Take a step.** -/
def ServiceStep.take (config : Config) (st : ServiceState) :
    ServiceStep → ServiceAnswer × ServiceState
  | .submit form values options =>
    runSubmission config (Submission.submit config form values options) st
  | .submitPath path values options =>
    runSubmission config (Submission.submitPath config path values options) st
  | .openPath path => runSubmission config (Submission.openPath config path) st
  | .spawn name form values options =>
    let script : Script (Option SubmitResult) := do
      return some (← (Submission.submit config form values options).run)
    let st := { st with troupe := st.troupe.add (.ofScript (some name) script) }
    (.nothing, (waitMain config (.forTurns ()) st).2)
  | .await name =>
    match waitMain config (.forPlayer name) st with
    | (some (some (some r)), st) => (.submitted r, st)
    | (_, st) => (.nothing, st)
  | .load path =>
    match runMain config (Submission.load path).run st with
    | (some r, st) => (.loaded r, st)
    | (none, st) => (.nothing, st)
  | .sleep duration =>
    if duration = 0 then (.nothing, st)
    else (.nothing, (waitMain config (.forTime (st.world.clock + duration) ()) st).2)
  | .desk book step =>
    let clock := if st.isTimed then some st.world.clock else none
    let (a, d) := st.world.desk.perform clock book step
    let (troupe, world) := settle (jobScript config) st.troupe { st.world with desk := d }
    (.desk a, { st with world, troupe })

end Rehearsal

end FormChain
