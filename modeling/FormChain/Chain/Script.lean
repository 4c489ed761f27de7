import FormChain.Calendar.Date
import FormChain.Chain.Error
import FormChain.Chain.State
import FormChain.Session.Ledger
import FormChain.Vault.Request

/-!
# Scripts

A chain does nothing by itself: whatever reaches beyond it, it asks for. A script is a
program that asks; every answer comes with what the token of the asker says by then and
what the clock shows, and the script goes on from there. So a script says what happens
under every behaviour of the surroundings, and what the surroundings do is said
elsewhere, by whoever runs the script.

Between two questions nothing else happens: a token can only be cancelled while the
surroundings are busy with an answer. A token that was seen cancelled stays so.

Remarks tell of the progress of a script; nobody answers them.
-/

namespace FormChain

/-! ### Questions -/

/-- What is asked of a language model. -/
structure AiRequest where
  /-- The request. -/
  prompt : String
  /-- The instruction in front of it. -/
  systemPrompt : Option String
  /-- The model. -/
  model : Option String
  deriving DecidableEq, Repr

/-- A chain that is to go on behind the user's back. -/
structure Job where
  /-- The form. -/
  form : Form
  /-- The answers. -/
  values : Bag
  /-- The token that it is carried out under. -/
  token : Token
  /-- The lease that keeps its session alive. -/
  lease : BackgroundLease

/-- **What a script asks its surroundings.** -/
inductive Call where
  /-- A request to the vault. -/
  | vault (r : VaultRequest)
  /-- A request to the language model. -/
  | ai (r : AiRequest)
  /-- Let the user choose. -/
  | suggest (placeholder : Option String) (options : List Value)
  /-- Let the user fill in fields. -/
  | collect (fields : List Field)
  /-- Let the user fill in a form. -/
  | openForm (form : Form) (defaults : Bag)
  /-- Launch the form of a path, on behalf of a session if there is one. -/
  | launch (path : String) (mode : ButtonMode) (session : Option SessionId)
  /-- Decode the text of a file that a field holds. -/
  | decode (file : Value)
  /-- Tell the user something. -/
  | notify (message : String)
  /-- Let milliseconds pass, or fewer if the token is cancelled. -/
  | sleep (duration : Nat)
  /-- A request to the ledger of sessions. -/
  | session (r : SessionRequest)
  /-- Start a chain behind the user's back. -/
  | detach (job : Job)
  /-- Draw a number at random. -/
  | draw
  /-- Nothing but a look at the token and the clock. -/
  | look

/-- The type of the answer to a call. -/
abbrev Call.Answer : Call → Type
  | vault r => r.Result
  | ai _ => Except ActionError String
  | suggest _ _ => Except ActionError (Option Value)
  | collect _ => Except ActionError (Option Bag)
  | openForm _ _ => Except ActionError (Option Bag)
  | launch _ _ _ => Except ActionError Unit
  | decode _ => Option String
  | notify _ => Unit
  | sleep _ => Unit
  | session r => r.Answer
  | detach _ => Unit
  | draw => Nat
  | look => Unit

/-- **The reply to a call.** -/
structure Reply (c : Call) where
  /-- The answer. -/
  answer : c.Answer
  /-- Whether the token of the asker is cancelled by now. -/
  cancelled : Bool
  /-- What the clock shows. -/
  now : LocalMoment

/-! ### Remarks -/

/-- **A remark on the progress of a chain.** -/
inductive Remark where
  /-- The chain of a form starts, under a token and in a session. -/
  | entered (form : Form) (token : Token) (session : Option SessionId)
  /-- The chain has come to an action, in a state. -/
  | reached (action : Action) (state : ChainState)
  /-- An attempt of an action starts in a state, with some attempts before it. -/
  | attempt (action : Action) (before : Nat) (state : ChainState)
  /-- An iteration of a loop starts, in a state that has its frame. -/
  | iteration (plan : LoopPlan) (index : Nat) (state : ChainState)

/-! ### Scripts -/

/-- **A script** that ends with a result. -/
inductive Script (α : Type) where
  /-- The end. -/
  | done (a : α)
  /-- A remark, and what follows. -/
  | remark (r : Remark) (next : Script α)
  /-- A call, and what follows upon each reply. -/
  | ask (token : Token) (call : Call) (next : Reply call → Script α)

namespace Script

variable {α β : Type}

/-- One script behind another, started with the result of the first. -/
def bind : Script α → (α → Script β) → Script β
  | done a, f => f a
  | remark r next, f => .remark r (next.bind f)
  | ask token call next, f => .ask token call fun reply => (next reply).bind f

instance : Monad Script where
  pure := done
  bind := bind

/-- A single call. -/
def call (token : Token) (c : Call) : Script (Reply c) :=
  .ask token c .done

/-- **A script in which something else answers the launches of forms.** -/
def withLauncher
    (launcher : Token → (path : String) → (mode : ButtonMode) → (session : Option SessionId) →
      Script (Reply (.launch path mode session))) : Script α → Script α
  | done a => .done a
  | remark r next => .remark r (next.withLauncher launcher)
  | ask token (.launch path mode session) next =>
    (launcher token path mode session).bind fun reply => (next reply).withLauncher launcher
  | ask token call next => .ask token call fun reply => (next reply).withLauncher launcher

/-- **Run a script** where calls are answered in a monad. -/
def interpret {m : Type → Type} [Monad m] (answer : Token → (c : Call) → m (Reply c)) :
    Script α → m α
  | done a => pure a
  | remark _ next => next.interpret answer
  | ask token call next => do
    let reply ← answer token call
    (next reply).interpret answer

/-! ### Laws -/

@[simp] theorem pure_eq (a : α) : (pure a : Script α) = .done a := rfl

@[simp] theorem bind_eq (s : Script α) (f : α → Script β) : s >>= f = s.bind f := rfl

@[simp] theorem done_bind (a : α) (f : α → Script β) : (done a).bind f = f a := rfl

/-- Ending with the result changes nothing. -/
@[simp] theorem bind_done (s : Script α) : s.bind .done = s := by
  induction s with
  | done a => rfl
  | remark r next ih => simp [bind, ih]
  | ask token call next ih => simp [bind, ih]

/-- Of three scripts it does not matter which two are put together first. -/
theorem bind_assoc {γ : Type} (s : Script α) (f : α → Script β) (g : β → Script γ) :
    (s.bind f).bind g = s.bind fun a => (f a).bind g := by
  induction s with
  | done a => rfl
  | remark r next ih => simp [bind, ih]
  | ask token call next ih => simp [bind, ih]

instance : LawfulMonad Script :=
  LawfulMonad.mk' _ (fun s => bind_done s) (fun _ _ => rfl) (fun s f g => bind_assoc s f g)

end Script

end FormChain
