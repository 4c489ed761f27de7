import FormChain.Chain.Script
import FormChain.Config

/-!
# Steps of a chain

A chain runs with a setting, which stays the same, and a state, which its steps change.
A step is a script on states that may fail; what it has changed by then stays changed.
-/

namespace FormChain

/-- **What a chain runs with.** -/
structure ChainSetting where
  /-- The form whose chain it is. -/
  form : Form
  /-- The configuration. -/
  config : Config := {}
  /-- The token that calls it off. -/
  token : Token := 0
  /-- The session that it belongs to. -/
  session : Option SessionId := none
  /-- Whether forms can be launched. -/
  canLaunch : Bool := false

/-- Take note of a reply. -/
def ChainState.afterReply (st : ChainState) {c : Call} (r : Reply c) : ChainState :=
  { st with cancelled := st.cancelled || r.cancelled, now := r.now }

/-! ### Steps -/

/-- **A step of a chain**: it may fail with an error of type `ε`. -/
abbrev Step (ε α : Type) := ChainState → Script (Except ε α × ChainState)

namespace Step

variable {ε δ α β : Type}

/-- Nothing but a result. -/
def done (a : α) : Step ε α := fun st => .done (.ok a, st)

/-- A failure. -/
def fail (e : ε) : Step ε α := fun st => .done (.error e, st)

/-- One step behind another. -/
def andThen (x : Step ε α) (f : α → Step ε β) : Step ε β := fun st =>
  (x st).bind fun
    | (.ok a, st) => f a st
    | (.error e, st) => .done (.error e, st)

instance : Monad (Step ε) where
  pure := done
  bind := andThen

instance : MonadExceptOf ε (Step ε) where
  throw := fail
  tryCatch x handle := fun st =>
    (x st).bind fun
      | (.ok a, st) => .done (.ok a, st)
      | (.error e, st) => handle e st

/-- The state. -/
def state : Step ε ChainState := fun st => .done (.ok st, st)

/-- Change the state. -/
def change (f : ChainState → ChainState) : Step ε Unit := fun st => .done (.ok (), f st)

/-- **Ask the surroundings.** -/
def ask (s : ChainSetting) (c : Call) : Step ε c.Answer := fun st =>
  .ask s.token c fun r => .done (.ok r.answer, st.afterReply r)

/-! ### Tests -/

/-- **A test in a chain**: it does not fail, and all that it can do is to have files
decoded. -/
abbrev Test (α : Type) := StateT ChainState Script α

/-- Have a file decoded. -/
def decode (s : ChainSetting) (file : Value) : Test (Option String) := fun st =>
  .ask s.token (.decode file) fun r => .done (r.answer, st.afterReply r)

/-- A test as a step. -/
def ofTest (x : Test α) : Step ε α := fun st =>
  (x st).bind fun (a, st) => .done (.ok a, st)

/-! ### Outcomes -/

/-- Make a remark that depends on the state. -/
def remark (r : ChainState → Remark) : Step ε Unit := fun st =>
  .remark (r st) (.done (.ok (), st))

/-- **The outcome of a step**, as the result of one that does not fail. -/
def outcome (x : Step ε α) : Step δ (Except ε α) := fun st =>
  (x st).bind fun (r, st) => .done (.ok r, st)

/-- The same step with its error in other words. -/
def mapError (f : ε → δ) (x : Step ε α) : Step δ α := fun st =>
  (x st).bind fun (r, st) => .done (r.mapError f, st)

/-- A result that may be an error. -/
def ofExcept (r : Except ε α) : Step ε α := fun st => .done (r, st)

/-! ### Templates -/

/-- Draw on the seed of the state. -/
def drawing (f : Environment → StateM Nat α) : Step ε α := fun st =>
  let (a, seed) := (f st.environment).run st.seed
  .done (.ok a, { st with seed })

/-- The text of a template. -/
def expand (template : String) : Step ε String :=
  drawing (Template.expand · template)

/-- The text of a template that may be missing. -/
def expandOption : Option String → Step ε (Option String)
  | none => done none
  | some t => andThen (expand t) fun s => done (some s)

/-- The value of a template. -/
def expandValue (template : String) : Step ε Value :=
  drawing (Template.expandValue · template)

/-- A value with all texts in it expanded. -/
def expandAll (v : Value) : Step ε Value :=
  drawing (Template.expandAll · v)

/-- Write a variable. -/
def write (name : String) (v : Value) : Step ε Unit :=
  change fun st => { st with outputs := st.outputs.insert name v }

/-- Write a variable, if one is named. -/
def writeOption : (name : Option String) → Value → Step ε Unit
  | none, _ => done ()
  | some name, v => write name v

end Step

end FormChain
