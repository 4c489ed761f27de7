import FormChain.Chain.Step

/-!
# Runs of scripts

A script is a tree; a *run* of it is one way down. What happens on the way is a list of
events: remarks, and questions with the replies they got.

Which way is taken is up to the surroundings. A *behaviour* of theirs says how every
question is replied to, whatever has happened before it, and so leaves one run over
(`FormChain.Script.under`): a script always comes to an end, and "for every behaviour"
ranges over all answers and over every moment at which a token may be cancelled. Proofs
speak of runs as a relation instead (`FormChain.Script.Run`), since the runs of two
scripts put together are those of the first followed by those of the second
(`FormChain.Script.run_bind`).
-/

namespace FormChain

/-- **What happens in a run.** -/
inductive Event where
  /-- A remark is made. -/
  | remark (r : Remark)
  /-- A question is asked under a token, and replied to. -/
  | exchange (token : Token) (call : Call) (reply : Reply call)

namespace Event

/-- The remark, if the event is one. -/
def remark? : Event → Option Remark
  | remark r => some r
  | exchange .. => none

/-- Whether an attempt of an action starts. -/
def startsAttempt : Event → Bool
  | remark (.attempt ..) => true
  | _ => false

/-- Whether a reply tells that the token is cancelled. -/
def tellsCancelled : Event → Bool
  | remark _ => false
  | exchange _ _ reply => reply.cancelled

end Event

/-- The remarks among events. -/
def remarksOf (es : List Event) : List Remark :=
  es.filterMap (·.remark?)

@[simp] theorem remarksOf_nil : remarksOf [] = [] := rfl

@[simp] theorem remarksOf_remark (r : Remark) (es : List Event) :
    remarksOf (.remark r :: es) = r :: remarksOf es := rfl

@[simp] theorem remarksOf_exchange (token : Token) (c : Call) (reply : Reply c)
    (es : List Event) : remarksOf (.exchange token c reply :: es) = remarksOf es := rfl

@[simp] theorem remarksOf_append (es es' : List Event) :
    remarksOf (es ++ es') = remarksOf es ++ remarksOf es' := by
  simp [remarksOf]

/-- **A behaviour of the surroundings**: the reply to a question asked under a token,
given everything that has happened before. -/
abbrev Behaviour := List Event → Token → (c : Call) → Reply c

namespace Script

variable {α β : Type}

/-- **What happens under a behaviour**, and the result, where some events have happened
before. -/
def under (b : Behaviour) : Script α → (before : List Event) → List Event × α
  | done a, _ => ([], a)
  | remark r next, before =>
    let (es, a) := next.under b (before ++ [.remark r])
    (.remark r :: es, a)
  | ask token call next, before =>
    let reply := b before token call
    let (es, a) := (next reply).under b (before ++ [.exchange token call reply])
    (.exchange token call reply :: es, a)

/-- What happens in two scripts put together. -/
theorem under_bind (b : Behaviour) (x : Script α) (f : α → Script β) (before : List Event) :
    (x.bind f).under b before =
      ((x.under b before).1 ++
          ((f (x.under b before).2).under b (before ++ (x.under b before).1)).1,
        ((f (x.under b before).2).under b (before ++ (x.under b before).1)).2) := by
  induction x generalizing before with
  | done a => simp [bind, under]
  | remark r next ih => simp [bind, under, ih]
  | ask token c next ih => simp [bind, under, ih]

/-- **A run of a script**: some events, and the result behind them. -/
inductive Run : Script α → List Event → α → Prop where
  /-- Nothing happens any more. -/
  | done (a : α) : Run (.done a) [] a
  /-- The remark is made. -/
  | remark {r : Remark} {next : Script α} {es : List Event} {a : α} :
    Run next es a → Run (.remark r next) (.remark r :: es) a
  /-- The question is asked and gets some reply. -/
  | ask {token : Token} {call : Call} {next : Reply call → Script α} {es : List Event} {a : α}
    (reply : Reply call) :
    Run (next reply) es a → Run (.ask token call next) (.exchange token call reply :: es) a

/-- What happens under a behaviour is a run. -/
theorem run_under (b : Behaviour) (s : Script α) (before : List Event) :
    s.Run (s.under b before).1 (s.under b before).2 := by
  induction s generalizing before with
  | done a => exact .done a
  | remark r next ih => exact .remark (ih _)
  | ask token call next ih => exact .ask _ (ih _ _)

/-- A reply under a behaviour is the one that this gives. -/
theorem reply_of_under {b : Behaviour} {s : Script α} {before : List Event} {token : Token}
    {c : Call} {reply : Reply c} (h : .exchange token c reply ∈ (s.under b before).1) :
    ∃ before', reply = b before' token c := by
  induction s generalizing before with
  | done a => cases h
  | remark r next ih => exact ih ((List.mem_cons.mp h).resolve_left nofun)
  | ask token' call next ih =>
    rcases List.mem_cons.mp h with heq | hmem
    · cases heq
      exact ⟨before, rfl⟩
    · exact ih _ hmem

/-- To every question there is a reply. -/
instance {c : Call} : Nonempty (Reply c) := by
  have hanswer : Nonempty c.Answer := by
    cases c with
    | vault => exact ⟨.error (.io "")⟩
    | session r =>
      cases r with
      | start => exact ⟨⟨0, 0, 0, false⟩⟩
      | hold => exact ⟨⟨0, 0, false⟩⟩
      | _ => exact ⟨default⟩
    | _ => exact ⟨default⟩
  exact hanswer.elim fun a => ⟨⟨a, false, default⟩⟩

/-- Every script has a run. -/
theorem exists_run (s : Script α) : ∃ es a, s.Run es a := by
  induction s with
  | done a => exact ⟨_, a, .done a⟩
  | remark r next ih =>
    obtain ⟨es, a, h⟩ := ih
    exact ⟨_, a, .remark h⟩
  | ask token c next ih =>
    obtain ⟨reply⟩ : Nonempty (Reply c) := inferInstance
    obtain ⟨es, a, h⟩ := ih reply
    exact ⟨_, a, .ask reply h⟩

/-- **Surroundings with a vault** that answers as told, by what has happened before, and refuses
what it is not told of. Whatever else they are asked, they reply something. -/
noncomputable def withVault (answer : List Event → (r : VaultRequest) → Option r.Result) :
    Behaviour :=
  fun before _ c => match c with
  | .vault r => ⟨(answer before r).getD (.error (.io "")), false, default⟩
  | _ => Classical.ofNonempty

/-- Where the vault gives an answer, they reply with it. -/
theorem answer_withVault {answer : List Event → (r : VaultRequest) → Option r.Result}
    {before : List Event} {token : Token} {r : VaultRequest} {a : r.Result}
    (h : answer before r = some a) : (withVault answer before token (.vault r)).answer = a := by
  rw [withVault, h]
  rfl

/-! ### What is left of a script -/

/-- **A script reaches** what is left of it behind some events. -/
inductive Reaches : Script α → List Event → Script α → Prop
  /-- Nothing has happened. -/
  | here (s : Script α) : Reaches s [] s
  /-- A remark is made. -/
  | remark {r : Remark} {next s : Script α} {es : List Event} (h : Reaches next es s) :
    Reaches (.remark r next) (.remark r :: es) s
  /-- A question is asked, and replied to. -/
  | ask {token : Token} {call : Call} {next : Reply call → Script α} {s : Script α}
    {es : List Event} (reply : Reply call) (h : Reaches (next reply) es s) :
    Reaches (.ask token call next) (.exchange token call reply :: es) s

/-- A run of what is left makes a run of the whole script. -/
theorem Reaches.run {s s' : Script α} {es es' : List Event} {a : α} (h : s.Reaches es s')
    (hrun : s'.Run es' a) : s.Run (es ++ es') a := by
  induction h with
  | here => exact hrun
  | remark _ ih => exact .remark (ih hrun)
  | ask reply _ ih => exact .ask reply (ih hrun)

/-! ### Taking runs apart -/

@[simp] theorem run_done {a b : α} {es : List Event} :
    (done a).Run es b ↔ es = [] ∧ b = a := by
  constructor
  · rintro ⟨⟩
    exact ⟨rfl, rfl⟩
  · rintro ⟨rfl, rfl⟩
    exact .done _

@[simp] theorem run_remark {r : Remark} {next : Script α} {es : List Event} {a : α} :
    (remark r next).Run es a ↔ ∃ es', es = .remark r :: es' ∧ next.Run es' a := by
  constructor
  · rintro (_ | h)
    exact ⟨_, rfl, h⟩
  · rintro ⟨es', rfl, h⟩
    exact .remark h

@[simp] theorem run_ask {token : Token} {call : Call} {next : Reply call → Script α}
    {es : List Event} {a : α} :
    (ask token call next).Run es a ↔
      ∃ reply es', es = .exchange token call reply :: es' ∧ (next reply).Run es' a := by
  constructor
  · rintro (_ | _ | ⟨reply, h⟩)
    exact ⟨reply, _, rfl, h⟩
  · rintro ⟨reply, es', rfl, h⟩
    exact .ask reply h

/-- **The runs of two scripts put together** are those of the first, each followed by one
of what the second makes of its result. -/
theorem run_bind {s : Script α} {f : α → Script β} {es : List Event} {b : β} :
    (s.bind f).Run es b ↔
      ∃ es₁ a es₂, es = es₁ ++ es₂ ∧ s.Run es₁ a ∧ (f a).Run es₂ b := by
  induction s generalizing es with
  | done a =>
    simp only [done_bind, run_done]
    constructor
    · exact fun h => ⟨[], a, es, rfl, ⟨rfl, rfl⟩, h⟩
    · rintro ⟨_, _, _, rfl, ⟨rfl, rfl⟩, h⟩
      exact h
  | remark r next ih =>
    simp only [bind, run_remark, ih]
    constructor
    · rintro ⟨_, rfl, es₁, a, es₂, rfl, h₁, h₂⟩
      exact ⟨_, a, es₂, rfl, ⟨es₁, rfl, h₁⟩, h₂⟩
    · rintro ⟨_, a, es₂, rfl, ⟨es₁, rfl, h₁⟩, h₂⟩
      exact ⟨_, rfl, es₁, a, es₂, rfl, h₁, h₂⟩
  | ask token call next ih =>
    simp only [bind, run_ask, ih]
    constructor
    · rintro ⟨reply, _, rfl, es₁, a, es₂, rfl, h₁, h₂⟩
      exact ⟨_, a, es₂, rfl, ⟨reply, es₁, rfl, h₁⟩, h₂⟩
    · rintro ⟨_, a, es₂, rfl, ⟨reply, es₁, rfl, h₁⟩, h₂⟩
      exact ⟨reply, _, rfl, es₁, a, es₂, rfl, h₁, h₂⟩

/-- **What happens tells where a script has ended**, and with which result: no run goes on
where another one ends. -/
theorem Run.unique_of_prefix {s : Script α} {es es' rest rest' : List Event} {a a' : α}
    (h : s.Run es a) (h' : s.Run es' a') (heq : es ++ rest = es' ++ rest') :
    es = es' ∧ a = a' ∧ rest = rest' := by
  induction h generalizing es' with
  | done a =>
    obtain ⟨rfl, rfl⟩ := run_done.mp h'
    exact ⟨rfl, rfl, heq⟩
  | remark _ ih =>
    obtain ⟨_, rfl, hnext⟩ := run_remark.mp h'
    obtain ⟨rfl, rfl, rfl⟩ := ih hnext (List.cons.inj heq).2
    exact ⟨rfl, rfl, rfl⟩
  | ask reply _ ih =>
    obtain ⟨_, _, rfl, hnext⟩ := run_ask.mp h'
    obtain ⟨hevent, htail⟩ := List.cons.inj heq
    cases hevent
    obtain ⟨rfl, rfl, rfl⟩ := ih hnext htail
    exact ⟨rfl, rfl, rfl⟩

end Script

/-! ### Runs of steps -/

@[simp] theorem mapError_ok {ε δ α : Type} (f : ε → δ) (a : α) :
    (Except.ok a).mapError f = .ok a := rfl

@[simp] theorem mapError_error {ε δ α : Type} (f : ε → δ) (e : ε) :
    (Except.error e : Except ε α).mapError f = .error (f e) := rfl

namespace Step

variable {ε δ α β : Type} {st st' : ChainState} {es : List Event}

/-- **A run of a step** from a state, with its result and the state behind it. -/
abbrev Run (x : Step ε α) (st : ChainState) (es : List Event) (r : Except ε α)
    (st' : ChainState) : Prop :=
  (x st).Run es (r, st')

@[simp] theorem run_done {a : α} {r : Except ε α} :
    (done a : Step ε α).Run st es r st' ↔ es = [] ∧ r = .ok a ∧ st' = st := by
  simp [Run, done]

@[simp] theorem run_pure {a : α} {r : Except ε α} :
    (pure a : Step ε α).Run st es r st' ↔ es = [] ∧ r = .ok a ∧ st' = st :=
  run_done

@[simp] theorem run_throw {e : ε} {r : Except ε α} :
    (throw e : Step ε α).Run st es r st' ↔ es = [] ∧ r = .error e ∧ st' = st := by
  change (fail e : Step ε α).Run st es r st' ↔ _
  simp [Run, fail]

@[simp] theorem run_state {r : Except ε ChainState} :
    (state : Step ε ChainState).Run st es r st' ↔ es = [] ∧ r = .ok st ∧ st' = st := by
  simp [Run, state]

@[simp] theorem run_change {f : ChainState → ChainState} {r : Except ε Unit} :
    (change f : Step ε Unit).Run st es r st' ↔ es = [] ∧ r = .ok () ∧ st' = f st := by
  simp [Run, change]

@[simp] theorem run_ofExcept {x r : Except ε α} :
    (ofExcept x).Run st es r st' ↔ es = [] ∧ r = x ∧ st' = st := by
  simp [Run, ofExcept]

@[simp] theorem run_remark {f : ChainState → Remark} {r : Except ε Unit} :
    (remark f : Step ε Unit).Run st es r st' ↔
      es = [.remark (f st)] ∧ r = .ok () ∧ st' = st := by
  simp only [Run, remark, Script.run_remark, Script.run_done, Prod.mk.injEq]
  exact ⟨by rintro ⟨_, rfl, rfl, h⟩; exact ⟨rfl, h⟩, by rintro ⟨rfl, h⟩; exact ⟨_, rfl, rfl, h⟩⟩

@[simp] theorem run_ask {s : ChainSetting} {c : Call} {r : Except ε c.Answer} :
    (ask s c : Step ε c.Answer).Run st es r st' ↔
      ∃ reply, es = [.exchange s.token c reply] ∧ r = .ok reply.answer ∧
        st' = st.afterReply reply := by
  simp only [Run, ask, Script.run_ask, Script.run_done, Prod.mk.injEq]
  constructor
  · rintro ⟨reply, _, rfl, rfl, h⟩
    exact ⟨reply, rfl, h⟩
  · rintro ⟨reply, rfl, h⟩
    exact ⟨reply, _, rfl, rfl, h⟩

/-- **The runs of one step behind another**: the first fails and nothing follows, or the
second goes on from where the first has come to. -/
theorem run_bind {x : Step ε α} {f : α → Step ε β} {r : Except ε β} :
    (x >>= f).Run st es r st' ↔
      (∃ e, x.Run st es (.error e) st' ∧ r = .error e) ∨
        ∃ es₁ a st₁ es₂, es = es₁ ++ es₂ ∧ x.Run st es₁ (.ok a) st₁ ∧
          (f a).Run st₁ es₂ r st' := by
  change (andThen x f).Run st es r st' ↔ _
  rw [Run, andThen, Script.run_bind]
  constructor
  · rintro ⟨es₁, ⟨e | a, st₁⟩, es₂, rfl, h₁, h₂⟩
    · obtain ⟨rfl, h⟩ := Script.run_done.mp h₂
      obtain ⟨rfl, rfl⟩ := Prod.mk.inj h
      exact Or.inl ⟨e, by simpa using h₁, rfl⟩
    · exact Or.inr ⟨es₁, a, st₁, es₂, rfl, h₁, h₂⟩
  · rintro (⟨e, h₁, rfl⟩ | ⟨es₁, a, st₁, es₂, rfl, h₁, h₂⟩)
    · exact ⟨es, _, [], by simp, h₁, by simp⟩
    · exact ⟨es₁, _, es₂, rfl, h₁, h₂⟩

@[simp] theorem run_outcome {x : Step ε α} {r : Except δ (Except ε α)} :
    (outcome x : Step δ _).Run st es r st' ↔ ∃ r', r = .ok r' ∧ x.Run st es r' st' := by
  rw [Run, outcome, Script.run_bind]
  constructor
  · rintro ⟨es₁, ⟨r', st₁⟩, es₂, rfl, h₁, h₂⟩
    obtain ⟨rfl, h⟩ := Script.run_done.mp h₂
    obtain ⟨rfl, rfl⟩ := Prod.mk.inj h
    exact ⟨r', rfl, by simpa using h₁⟩
  · rintro ⟨r', rfl, h⟩
    exact ⟨es, _, [], by simp, h, by simp⟩

@[simp] theorem run_mapError {f : ε → δ} {x : Step ε α} {r : Except δ α} :
    (mapError f x).Run st es r st' ↔ ∃ r', r = r'.mapError f ∧ x.Run st es r' st' := by
  rw [Run, mapError, Script.run_bind]
  constructor
  · rintro ⟨es₁, ⟨r', st₁⟩, es₂, rfl, h₁, h₂⟩
    obtain ⟨rfl, h⟩ := Script.run_done.mp h₂
    obtain ⟨rfl, rfl⟩ := Prod.mk.inj h
    exact ⟨r', rfl, by simpa using h₁⟩
  · rintro ⟨r', rfl, h⟩
    exact ⟨es, _, [], by simp, h, by simp⟩

/-- Of three steps it does not matter which two are put together first. -/
theorem bind_assoc' {γ : Type} (x : Step ε α) (f : α → Step ε β) (g : β → Step ε γ) :
    x >>= f >>= g = x >>= fun a => f a >>= g := by
  funext st
  change ((x st).bind _).bind _ = (x st).bind _
  rw [Script.bind_assoc]
  refine congrArg _ (funext fun ⟨r, st₁⟩ => ?_)
  rcases r with e | a <;> rfl

instance : LawfulMonad (Step ε) := by
  refine LawfulMonad.mk' _ (fun x => ?_) (fun _ _ => rfl) bind_assoc'
  funext st
  refine Eq.trans (congrArg (x st).bind (funext fun ⟨r, st₁⟩ => ?_)) (Script.bind_done (x st))
  rcases r with e | a <;> rfl

/-! ### What stands in front of a step

None of these can fail, so what follows them always comes about. -/

section Front

variable {s : ChainSetting} {r : Except ε β}

@[simp] theorem run_remark_bind {f : ChainState → Remark} {k : Unit → Step ε β} :
    (remark f >>= k).Run st es r st' ↔
      ∃ es', es = .remark (f st) :: es' ∧ (k ()).Run st es' r st' := by
  simp only [run_bind, run_remark]
  constructor
  · rintro (⟨e, ⟨-, h, -⟩, -⟩ | ⟨_, _, _, es₂, rfl, ⟨rfl, -, rfl⟩, h⟩)
    · exact absurd h (by simp)
    · exact ⟨es₂, rfl, h⟩
  · rintro ⟨es', rfl, h⟩
    exact Or.inr ⟨_, (), _, es', rfl, ⟨rfl, trivial, rfl⟩, h⟩

@[simp] theorem run_state_bind {k : ChainState → Step ε β} :
    (state >>= k).Run st es r st' ↔ (k st).Run st es r st' := by
  simp only [run_bind, run_state]
  constructor
  · rintro (⟨e, ⟨-, h, -⟩, -⟩ | ⟨_, _, _, es₂, rfl, ⟨rfl, h₁, rfl⟩, h⟩)
    · exact absurd h (by simp)
    · obtain rfl := Except.ok.inj h₁
      exact h
  · exact fun h => Or.inr ⟨[], st, st, es, rfl, ⟨rfl, rfl, rfl⟩, h⟩

@[simp] theorem run_change_bind {f : ChainState → ChainState} {k : Unit → Step ε β} :
    (change f >>= k).Run st es r st' ↔ (k ()).Run (f st) es r st' := by
  simp only [run_bind, run_change]
  constructor
  · rintro (⟨e, ⟨-, h, -⟩, -⟩ | ⟨_, _, _, es₂, rfl, ⟨rfl, -, rfl⟩, h⟩)
    · exact absurd h (by simp)
    · exact h
  · exact fun h => Or.inr ⟨[], (), f st, es, rfl, ⟨rfl, trivial, rfl⟩, h⟩

@[simp] theorem run_ask_bind {c : Call} {k : c.Answer → Step ε β} :
    (ask s c >>= k).Run st es r st' ↔
      ∃ reply es', es = .exchange s.token c reply :: es' ∧
        (k reply.answer).Run (st.afterReply reply) es' r st' := by
  simp only [run_bind, run_ask]
  constructor
  · rintro (⟨e, ⟨reply, -, h, -⟩, -⟩ | ⟨_, _, _, es₂, rfl, ⟨reply, rfl, h₁, rfl⟩, h⟩)
    · exact absurd h (by simp)
    · obtain rfl := Except.ok.inj h₁
      exact ⟨reply, es₂, rfl, h⟩
  · rintro ⟨reply, es', rfl, h⟩
    exact Or.inr ⟨_, _, _, es', rfl, ⟨reply, rfl, rfl, rfl⟩, h⟩

@[simp] theorem run_outcome_bind {x : Step δ α} {k : Except δ α → Step ε β} :
    (outcome x >>= k).Run st es r st' ↔
      ∃ es₁ r₁ st₁ es₂, es = es₁ ++ es₂ ∧ x.Run st es₁ r₁ st₁ ∧ (k r₁).Run st₁ es₂ r st' := by
  simp only [run_bind, run_outcome]
  constructor
  · rintro (⟨e, ⟨r', h, -⟩, -⟩ | ⟨es₁, _, st₁, es₂, rfl, ⟨r', h₁, hx⟩, h⟩)
    · exact absurd h (by simp)
    · obtain rfl := Except.ok.inj h₁
      exact ⟨es₁, _, st₁, es₂, rfl, hx, h⟩
  · rintro ⟨es₁, r₁, st₁, es₂, rfl, hx, h⟩
    exact Or.inr ⟨es₁, r₁, st₁, es₂, rfl, ⟨r₁, rfl, hx⟩, h⟩

@[simp] theorem run_ofExcept_bind {x : Except ε α} {k : α → Step ε β} :
    (ofExcept x >>= k).Run st es r st' ↔
      (∃ e, x = .error e ∧ es = [] ∧ r = .error e ∧ st' = st) ∨
        ∃ a, x = .ok a ∧ (k a).Run st es r st' := by
  simp only [run_bind, run_ofExcept]
  constructor
  · rintro (⟨e, ⟨rfl, rfl, rfl⟩, rfl⟩ | ⟨_, a, _, es₂, rfl, ⟨rfl, rfl, rfl⟩, h⟩)
    · exact Or.inl ⟨e, rfl, rfl, rfl, rfl⟩
    · exact Or.inr ⟨a, rfl, h⟩
  · rintro (⟨e, rfl, rfl, rfl, rfl⟩ | ⟨a, rfl, h⟩)
    · exact Or.inl ⟨e, ⟨rfl, rfl, rfl⟩, rfl⟩
    · exact Or.inr ⟨[], a, st, es, rfl, ⟨rfl, rfl, rfl⟩, h⟩

@[simp] theorem run_throw_bind {e : ε} {k : α → Step ε β} :
    (throw e >>= k).Run st es r st' ↔ es = [] ∧ r = .error e ∧ st' = st := by
  simp only [run_bind, run_throw]
  constructor
  · rintro (⟨e', ⟨rfl, h, rfl⟩, rfl⟩ | ⟨_, _, _, _, -, ⟨-, h, -⟩, -⟩)
    · exact ⟨rfl, congrArg _ (Except.error.inj h), rfl⟩
    · exact absurd h (by simp)
  · rintro ⟨rfl, rfl, rfl⟩
    exact Or.inl ⟨e, ⟨rfl, rfl, rfl⟩, rfl⟩

/-- A fixed result in place of that of a step. -/
theorem run_bind_pure {x : Step ε α} {b : β} :
    (x >>= fun _ => pure b).Run st es r st' ↔
      ∃ r', r = r'.map (fun _ => b) ∧ x.Run st es r' st' := by
  simp only [run_bind, run_pure]
  constructor
  · rintro (⟨e, h, rfl⟩ | ⟨es₁, a, st₁, _, rfl, h, rfl, rfl, rfl⟩)
    · exact ⟨.error e, rfl, h⟩
    · exact ⟨.ok a, rfl, by rwa [List.append_nil]⟩
  · rintro ⟨e | a, rfl, h⟩
    · exact Or.inl ⟨e, h, rfl⟩
    · exact Or.inr ⟨es, a, st', [], by simp, h, rfl, rfl, rfl⟩

end Front

/-- What is drawn on the seed changes nothing but the seed. -/
@[simp] theorem run_drawing {f : Environment → StateM Nat α} {r : Except ε α} :
    (drawing f).Run st es r st' ↔
      es = [] ∧ r = .ok ((f st.environment).run st.seed).1 ∧
        st' = { st with seed := ((f st.environment).run st.seed).2 } := by
  change (Script.done (.ok ((f st.environment).run st.seed).1,
    { st with seed := ((f st.environment).run st.seed).2 })).Run es (r, st') ↔ _
  simp

/-- What follows goes on with what was drawn. -/
theorem run_drawing_bind {f : Environment → StateM Nat α} {k : α → Step ε β}
    {r : Except ε β} : (drawing f >>= k).Run st es r st' ↔
      (k ((f st.environment).run st.seed).1).Run
        { st with seed := ((f st.environment).run st.seed).2 } es r st' :=
  Iff.rfl

/-! ### Runs of tests -/

/-- **A run of a test** from a state, with what it comes to and the state behind it. -/
abbrev Test.Run (x : Test α) (st : ChainState) (es : List Event) (a : α) (st' : ChainState) :
    Prop :=
  Script.Run (x st) es (a, st')

@[simp] theorem Test.run_pure {a b : α} :
    (pure a : Test α).Run st es b st' ↔ es = [] ∧ b = a ∧ st' = st := by
  change (Script.done (a, st)).Run es (b, st') ↔ _
  simp

/-- **The runs of one test behind another.** -/
theorem Test.run_bind {x : Test α} {f : α → Test β} {b : β} :
    (x >>= f).Run st es b st' ↔
      ∃ es₁ a st₁ es₂, es = es₁ ++ es₂ ∧ x.Run st es₁ a st₁ ∧ (f a).Run st₁ es₂ b st' := by
  change ((x st).bind fun y => f y.1 y.2).Run es (b, st') ↔ _
  rw [Script.run_bind]
  constructor
  · rintro ⟨es₁, ⟨a, st₁⟩, es₂, rfl, h₁, h₂⟩
    exact ⟨es₁, a, st₁, es₂, rfl, h₁, h₂⟩
  · rintro ⟨es₁, a, st₁, es₂, rfl, h₁, h₂⟩
    exact ⟨es₁, (a, st₁), es₂, rfl, h₁, h₂⟩

@[simp] theorem run_decode {s : ChainSetting} {file : Value} {content : Option String} :
    Test.Run (decode s file) st es content st' ↔
      ∃ reply : Reply (.decode file), es = [.exchange s.token (.decode file) reply] ∧
        content = reply.answer ∧ st' = st.afterReply reply := by
  simp only [Test.Run, decode, Script.run_ask, Script.run_done, Prod.mk.injEq]
  constructor
  · rintro ⟨reply, _, rfl, rfl, h⟩
    exact ⟨reply, rfl, h⟩
  · rintro ⟨reply, rfl, h⟩
    exact ⟨reply, _, rfl, rfl, h⟩

@[simp] theorem run_ofTest {x : Test α} {r : Except ε α} :
    (ofTest x).Run st es r st' ↔ ∃ a, r = .ok a ∧ x.Run st es a st' := by
  rw [Run, ofTest, Script.run_bind]
  constructor
  · rintro ⟨es₁, ⟨a, st₁⟩, es₂, rfl, h₁, h₂⟩
    obtain ⟨rfl, h⟩ := Script.run_done.mp h₂
    obtain ⟨rfl, rfl⟩ := Prod.mk.inj h
    exact ⟨a, rfl, by simpa using h₁⟩
  · rintro ⟨a, rfl, h⟩
    exact ⟨es, _, [], by simp, h, by simp⟩

/-- A test does not fail, so what follows it always comes about. -/
@[simp] theorem run_ofTest_bind {x : Test α} {k : α → Step ε β} {r : Except ε β} :
    (ofTest x >>= k).Run st es r st' ↔
      ∃ es₁ a st₁ es₂, es = es₁ ++ es₂ ∧ x.Run st es₁ a st₁ ∧ (k a).Run st₁ es₂ r st' := by
  simp only [run_bind, run_ofTest]
  constructor
  · rintro (⟨e, ⟨a, h, -⟩, -⟩ | ⟨es₁, _, st₁, es₂, rfl, ⟨a, h₁, hx⟩, h⟩)
    · exact absurd h (by simp)
    · obtain rfl := Except.ok.inj h₁
      exact ⟨es₁, _, st₁, es₂, rfl, hx, h⟩
  · rintro ⟨es₁, a, st₁, es₂, rfl, hx, h⟩
    exact Or.inr ⟨es₁, a, st₁, es₂, rfl, ⟨a, rfl, hx⟩, h⟩

end Step

end FormChain
