import FormChain.Chain.Effect
import FormChain.Chain.Loop

/-!
# Running chains

The actions of a list are carried out one after another. Before each of them the token
is looked at; an action whose condition does not hold is passed over. A condition may ask
for the text of a file, and then that is decoded first, which may take its time; the token
is not looked at again behind it. An action that
fails is treated as its own way of recovery says, else as the one inherited from what it
stands in, else the chain ends. After every attempt the token is looked at again, before
anything is made of the outcome, so being called off comes before every failure. A look
at the token is a question to the surroundings like any other: the token may have been
cancelled since the last one, though nothing was asked for.

Groups and loops hand the way of recovery down to what they hold. A loop leaves the
scope as deep as it found it, however its body ends.

Lists inside lists are carried out by a runner for lists that is given; `runDepth` ties
the knot, to a depth that a chain reaches only where groups refer to each other in a
circle.
-/

namespace FormChain

/-- How control goes on behind an action. -/
inductive Flow where
  /-- To the next action. -/
  | next
  /-- Out of the innermost loop. -/
  | leave
  deriving DecidableEq, Repr

/-- Why an attempt fails: by itself, or because a chain inside it has ended. -/
inductive Failure where
  /-- The action itself fails. -/
  | action (e : ActionError)
  /-- A chain inside it has ended. -/
  | chain (e : ChainError)

/-- A runner for lists: it carries out actions that inherit a way of recovery. -/
abbrev ListRunner := Option Recovery → List Action → Step ChainError Flow

namespace Chain

/-! ### Tokens and time -/

/-- Go on only if the token was not seen cancelled. -/
def stopIfCancelled : Step ChainError Unit := do
  if (← Step.state).cancelled then throw .cancelled

/-- **Look at the token**, and go on only if it is not cancelled. -/
def checkToken (s : ChainSetting) : Step ChainError Unit := do
  Step.ask s .look
  stopIfCancelled

/-- **Let time pass**, unless the token is cancelled. -/
def sleep (s : ChainSetting) (duration : Nat) : Step ChainError Unit := do
  Step.ask s (.sleep duration)
  stopIfCancelled

/-! ### Loops -/

/-- **One iteration of a loop**: the body runs with a frame on the scope, which is cut
back to its depth afterwards. -/
def iterate (runList : ListRunner) (strategy : Recovery) (plan : LoopPlan) (index : Nat)
    (body : List Action) (frame : Frame) : Step Failure Flow := do
  let depth := (← Step.state).scope.depth
  Step.change (·.enter frame)
  Step.remark (.iteration plan index)
  let r ← Step.outcome (runList (some strategy) body)
  Step.change (·.cutBack depth)
  Step.ofExcept (r.mapError .chain)

/-- Iterations for frames, from some number on. -/
def overFrames (s : ChainSetting) (runList : ListRunner) (strategy : Recovery) (plan : LoopPlan)
    (body : List Action) : (index : Nat) → List Frame → Step Failure Unit
  | _, [] => return
  | i, f :: rest => do
    Step.mapError .chain (checkToken s)
    match ← iterate runList strategy plan i body f with
    | .leave => return
    | .next => overFrames s runList strategy plan body (i + 1) rest

/-- At most `left` iterations while a test holds, from some number on. The test sees the
frame of the iteration to come, which is on the scope already and comes off again where
the test does not hold. -/
def whileHolds (s : ChainSetting) (runList : ListRunner) (strategy : Recovery) (plan : LoopPlan)
    (body : List Action) (test : Filter) : (left index : Nat) → Step Failure Unit
  | 0, _ => return
  | left + 1, i => do
    Step.mapError .chain (checkToken s)
    let depth := (← Step.state).scope.depth
    Step.change (·.enter (plan.frame i none []))
    if ← Step.ofTest ((← Step.state).satisfies (Step.decode s) test) then
      Step.remark (.iteration plan i)
      let r ← Step.outcome (runList (some strategy) body)
      Step.change (·.cutBack depth)
      match ← Step.ofExcept (r.mapError .chain) with
      | .leave => return
      | .next => whileHolds s runList strategy plan body test left (i + 1)
    else Step.change (·.cutBack depth)

/-- The value of the source of a loop. -/
def sourceOf (plan : LoopPlan) : Effect (Option Value) :=
  match plan.listed with
  | none => return none
  | some v => do return some (← Step.expandAll v)

/-- **A loop.** -/
def loop (s : ChainSetting) (runList : ListRunner) (strategy : Recovery) (plan : LoopPlan)
    (body : List Action) : Step Failure Flow := do
  let source ← Step.mapError .action (sourceOf plan)
  match plan.course s.config source with
  | .error m => throw (.action (.misuse m))
  | .ok (.frames fs) =>
    overFrames s runList strategy plan body 0 (fs.take (plan.cap s.config))
  | .ok (.whileHolds test) =>
    whileHolds s runList strategy plan body test (plan.cap s.config) 0
  return .next

/-! ### Groups -/

/-- The members of a group, and the way of recovery of the group of the form that it
refers to. -/
def membersOf (form : Form) (groupId : Option String) (members : List Action) :
    Except Misuse (List Action × Option Recovery) :=
  match groupId with
  | none => .ok (members, none)
  | some id =>
    match form.group? id with
    | some g => .ok (g.actions, g.recovery)
    | none => .error (.unknownGroup id)

/-- **A group.** Its members inherit its own way of recovery, else that of the group of
the form, else what the group itself inherits. -/
def group (s : ChainSetting) (runList : ListRunner) (strategy : Recovery) (head : Head)
    (groupId : Option String) (members : List Action) : Step Failure Flow :=
  match membersOf s.form groupId members with
  | .error m => throw (.action (.misuse m))
  | .ok (members, named) =>
    let inherited := ((head.recovery).or named).getD strategy
    Step.mapError .chain (runList (some inherited) members)

/-! ### Actions -/

/-- An effect as what an action does. -/
def plainly (e : Effect Unit) : Step Failure Flow := do
  Step.mapError .action e
  return .next

/-- **What an action does**, given the way of recovery that holds for it. -/
def effect (s : ChainSetting) (runList : ListRunner) (strategy : Recovery) :
    Action → Step Failure Flow
  | .createFile _ a => plainly (Effect.createFile s a)
  | .insertText _ a => plainly (Effect.insertText s a)
  | .textTransform _ a => plainly (Effect.textTransform a)
  | .ai _ a => plainly (Effect.ai s a)
  | .collectData _ a => plainly (Effect.collectData a)
  | .suggest _ a => plainly (Effect.suggest s a)
  | .generateForm _ fields => plainly (Effect.generateForm s fields)
  | .button _ path mode => plainly (Effect.button s path mode)
  | .proceed _ => return .next
  | .leave _ => return .leave
  | .wait _ duration => do
    Step.mapError .chain (sleep s duration)
    return .next
  | .loop _ plan body => loop s runList strategy plan body
  | .group head id members => group s runList strategy head id members

/-! ### Recovery -/

/-- The way of recovery that holds for an action. -/
def strategyOf (inherited : Option Recovery) (a : Action) : Recovery :=
  (a.head.recovery.or inherited).getD .abort

/-- How often an action is tried again. -/
def retriesOf : Recovery → Nat
  | .retry n _ => n
  | _ => 0

/-- The milliseconds before an action is tried again. -/
def delayOf (config : Config) : Recovery → Nat
  | .retry _ (some delay) => delay
  | _ => config.defaultRetryDelay

/-- The failure of a chain by an action. -/
def failed (a : Action) (e : ActionError) : ChainError :=
  .action a.id a.typeName e

/-- **What is made of an attempt**, with what it is to try again if there is a retry left. -/
def settle (strategy : Recovery) (a : Action) (again : Option (Step ChainError Flow)) :
    Except Failure Flow → Step ChainError Flow
  | .ok flow => return flow
  -- the chain inside has had its own way of recovery
  | .error (.chain e) => throw e
  | .error (.action .dismissed) => throw .cancelled
  | .error (.action e) =>
    match strategy, again with
    | .skip, _ => return .next
    | .retry .., some again => again
    | _, _ => throw (failed a e)

/-- **Attempts of an action**, with `left` more of them after this one if it fails. -/
def attempts (s : ChainSetting) (strategy : Recovery) (a : Action) (act : Step Failure Flow)
    (left before : Nat) : Step ChainError Flow := do
  Step.remark (.attempt a before)
  let r ← Step.outcome act
  -- whatever the attempt came to, a chain that is called off ends here
  checkToken s
  let again := match left with
    | 0 => none
    | left + 1 => some do
      sleep s (delayOf s.config strategy)
      attempts s strategy a act left (before + 1)
  settle strategy a again r

/-- **Carry out an action** that inherits a way of recovery. -/
def perform (s : ChainSetting) (runList : ListRunner) (inherited : Option Recovery) (a : Action) :
    Step ChainError Flow :=
  let strategy := strategyOf inherited a
  attempts s strategy a (effect s runList strategy a) (retriesOf strategy) 0

/-! ### Lists -/

/-- Test the condition of an action, if it has one. -/
def isWanted {m : Type → Type} [Monad m] (decode : Value → m (Option String)) (st : ChainState)
    (a : Action) : m Bool :=
  match a.head.condition with
  | none => return true
  | some f => st.satisfies decode f

/-- **Carry out actions** one after another. -/
def performAll (s : ChainSetting) (runList : ListRunner) (inherited : Option Recovery) :
    List Action → Step ChainError Flow
  | [] => return .next
  | a :: rest => do
    checkToken s
    Step.remark (.reached a)
    if ← Step.ofTest (isWanted (Step.decode s) (← Step.state) a) then
      match ← perform s runList inherited a with
      | .leave => return .leave
      | .next => performAll s runList inherited rest
    else performAll s runList inherited rest

/-- **Run actions**, whose lists are nested at most `depth` deep. -/
def runDepth (s : ChainSetting) : (depth : Nat) → ListRunner
  | 0 => fun _ _ => throw .tooDeep
  | depth + 1 => performAll s (runDepth s depth)

end Chain

/-! ### Depth -/

mutual

/-- How deep the lists in an action are nested. -/
def Action.height : Action → Nat
  | .loop _ _ body => Action.listHeight body + 1
  | .group _ _ members => Action.listHeight members + 1
  | _ => 0

/-- How deep the lists in a list of actions are nested. -/
def Action.listHeight : List Action → Nat
  | [] => 0
  | a :: rest => max a.height (Action.listHeight rest)

end

namespace Chain

/-- The greatest height of the lists of a form. -/
def heightOf (f : Form) : Nat :=
  f.groups.foldl (fun h g => max h (Action.listHeight g.actions)) (Action.listHeight f.actions)

/-- **A depth that suffices** for a form whose groups do not refer to each other in a
circle: on the way down, every group is entered at most once. Where they do, they may so a
number of times. -/
def depthOf (f : Form) (circles : Nat) : Nat :=
  (f.groups.length + 1) * (heightOf f + 1) + circles

/-- **How a chain ends.** -/
inductive Outcome where
  /-- All of it was carried out. -/
  | completed
  /-- It failed. -/
  | failed (e : ChainError)
  /-- It was called off. -/
  | aborted

/-- The outcome of a run. Leaving a loop outside of every loop ends a chain well. -/
def outcomeOf : Except ChainError Flow → Outcome
  | .ok _ => .completed
  | .error .cancelled => .aborted
  | .error e => .failed e

/-- **Carry out a chain**: nothing of its scope is left behind. -/
def execute (s : ChainSetting) (actions : List Action) (st : ChainState) :
    Script (Outcome × ChainState) :=
  .remark (.entered s.form s.token s.session)
    ((runDepth s (depthOf s.form s.config.reach) none actions st).bind fun (r, st) =>
      .done (outcomeOf r, { st with scope := .empty }))

end Chain

end FormChain
