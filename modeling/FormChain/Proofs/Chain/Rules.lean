import FormChain.Proofs.Chain.Conduct
import FormChain.Proofs.Chain.Decoding

/-!
# The rules of running chains

What `FormChain.Chain.runDepth` does is told here once more, as rules: a relation
`FormChain.Chain.Happens` between a task – a list of actions, the attempts of one of them,
its effect, or the iterations of a loop – the state before it, what happens, how it ends
and the state behind it. There is one rule for each way in which a task can go, and each
says in full when it applies.

That chains keep to the rules is `FormChain.Chain.happens_of_run`, in the module behind
this one. So a property of all chains is an induction over the rules, with a case for each
way in which something can go, and neither the nesting of lists nor the recovery of
failures is ever unrolled again.

Loops of both sorts share their rules. What differs between them is only where the frame
of the next iteration comes from, which is what a `FormChain.Chain.Supply` says.
-/

namespace FormChain

namespace Chain

/-! ### Supplies of frames -/

/-- **Where the iterations of a loop get their frames from.** -/
inductive Supply where
  /-- From a list. -/
  | frames (fs : List Frame)
  /-- From a test, at most `left` times. -/
  | whileHolds (test : Filter) (left : Nat)

/-- Whether a supply has run out, which shows before the token is looked at. -/
def Supply.isSpent : Supply → Bool
  | frames fs => fs.isEmpty
  | whileHolds _ left => left == 0

/-- **What a supply gives** in a state: what happens in its test, the next frame with what is left
of the supply, if there is one, and the state behind the test. -/
inductive Supply.Gives (s : ChainSetting) (plan : LoopPlan) (index : Nat) :
    Supply → ChainState → List Event → Option (Frame × Supply) → ChainState → Prop where
  /-- The next frame of a list. -/
  | frame {f : Frame} {rest : List Frame} {st : ChainState} :
    Gives s plan index (.frames (f :: rest)) st [] (some (f, .frames rest)) st
  /-- The test holds, with the frame of the iteration to come on the scope. -/
  | held {test : Filter} {left : Nat} {st st' : ChainState} {es : List Event} :
    Tests s test (st.enter (plan.frame index none [])) es true
      (st'.enter (plan.frame index none [])) →
    Gives s plan index (.whileHolds test (left + 1)) st es
      (some (plan.frame index none [], .whileHolds test left)) st'
  /-- The test does not hold. -/
  | failed {test : Filter} {left : Nat} {st st' : ChainState} {es : List Event} :
    Tests s test (st.enter (plan.frame index none [])) es false
      (st'.enter (plan.frame index none [])) →
    Gives s plan index (.whileHolds test (left + 1)) st es none st'

/-- A supply has files decoded, if it does anything. -/
theorem Supply.Gives.decodes {s : ChainSetting} {plan : LoopPlan} {index : Nat} {supply : Supply}
    {st st' : ChainState} {es : List Event} {x : Option (Frame × Supply)}
    (h : supply.Gives s plan index st es x st') : Decodes s st es st' := by
  cases h with
  | frame => exact .ended _
  | held h =>
    obtain ⟨st₁, heq, hdecodes⟩ := h.decodes.of_enter
    exact ChainState.enter_inj heq ▸ hdecodes
  | failed h =>
    obtain ⟨st₁, heq, hdecodes⟩ := h.decodes.of_enter
    exact ChainState.enter_inj heq ▸ hdecodes

/-- The supply of a loop that has at most `cap` iterations. -/
def supplyOf (cap : Nat) : LoopCourse → Supply
  | .frames fs => .frames (fs.take cap)
  | .whileHolds test => .whileHolds test cap

/-! ### Recovery -/

/-- **What is made of an attempt** where the token is not cancelled: the end of all
attempts, or nothing, which is to say one more. -/
def verdict (strategy : Recovery) (left : Nat) (a : Action) :
    Except Failure Flow → Option (Except Failure Flow)
  | .ok flow => some (.ok flow)
  | .error (.chain e) => some (.error (.chain e))
  | .error (.action .dismissed) => some (.error (.chain .cancelled))
  | .error (.action e) =>
    match strategy, left with
    | .skip, _ => some (.ok .next)
    | .abort, _ => some (.error (.chain (failed a e)))
    | .retry .., 0 => some (.error (.chain (failed a e)))
    | .retry .., _ + 1 => none

/-- The effect of an action that holds no others and does more than steer. -/
def plainEffect? (s : ChainSetting) : Action → Option (Effect Unit)
  | .createFile _ a => some (Effect.createFile s a)
  | .insertText _ a => some (Effect.insertText s a)
  | .textTransform _ a => some (Effect.textTransform a)
  | .ai _ a => some (Effect.ai s a)
  | .collectData _ a => some (Effect.collectData a)
  | .suggest _ a => some (Effect.suggest s a)
  | .generateForm _ fields => some (Effect.generateForm s fields)
  | .button _ path mode => some (Effect.button s path mode)
  | _ => none

/-- **What effects are made of pervades the plain effects.** They write the outputs of their
actions, and no other variables. -/
theorem pervades_plainEffect {s : ChainSetting} {allowed : String → Prop}
    {P : {α : Type} → Effect α → Prop} (h : Pervades s allowed P) {a : Action} {x : Effect Unit}
    (hx : plainEffect? s a = some x) (ha : ∀ n, a.output? = some n → allowed n) : P x := by
  cases a with
  | createFile => exact Option.some.inj hx ▸ h.createFile ha
  | insertText => exact Option.some.inj hx ▸ h.insertText _
  | textTransform => exact Option.some.inj hx ▸ h.textTransform (ha _ rfl)
  | ai => exact Option.some.inj hx ▸ h.ai ha
  | collectData => exact Option.some.inj hx ▸ h.collectData (ha _ rfl)
  | suggest => exact Option.some.inj hx ▸ h.suggest (ha _ rfl)
  | generateForm => exact Option.some.inj hx ▸ h.generateForm _
  | button => exact Option.some.inj hx ▸ h.button _ _
  | _ => cases hx

/-- **The plain effects do what effects may do.** -/
theorem conducts_plainEffect {s : ChainSetting} {a : Action} {x : Effect Unit}
    (h : plainEffect? s a = some x) : Conducts s x :=
  pervades_plainEffect (pervades_conducts s) h fun _ _ => trivial

/-! ### The rules -/

/-- **What there is to do** in a chain. -/
inductive Task where
  /-- A list of actions that inherits a way of recovery; lists in it are nested less than
  `depth` deep. -/
  | list (depth : Nat) (inherited : Option Recovery) (actions : List Action)
  /-- The attempts of an action under its way of recovery, with `left` of them after the
  next one and some before it. -/
  | attempts (depth : Nat) (strategy : Recovery) (a : Action) (left before : Nat)
  /-- The effect of an action under its way of recovery. -/
  | effect (depth : Nat) (strategy : Recovery) (a : Action)
  /-- The iterations of a loop, from some number on. -/
  | iterations (depth : Nat) (strategy : Recovery) (plan : LoopPlan) (body : List Action)
    (index : Nat) (supply : Supply)

section Rules

variable (s : ChainSetting)

/-- A look at the token, as an event. -/
abbrev looked (look : Reply .look) : Event := .exchange s.token .look look

/-- A delay, as an event. -/
abbrev slept {duration : Nat} (reply : Reply (.sleep duration)) : Event :=
  .exchange s.token (.sleep duration) reply

/-- **How a task can go**: from a state, with what happens, the result and the state behind
it. -/
inductive Happens :
    Task → ChainState → List Event → Except Failure Flow → ChainState → Prop where
  /-- Lists are nested too deep. -/
  | tooDeep {inherited : Option Recovery} {actions : List Action} {st : ChainState} :
    Happens (.list 0 inherited actions) st [] (.error (.chain .tooDeep)) st
  /-- There is no action left. -/
  | listEnded {d : Nat} {inherited : Option Recovery} {st : ChainState} :
    Happens (.list (d + 1) inherited []) st [] (.ok .next) st
  /-- The chain is called off in front of an action. -/
  | listCalledOff {d : Nat} {inherited : Option Recovery} {a : Action} {rest : List Action}
    {st : ChainState} (look : Reply .look) :
    (st.afterReply look).cancelled = true →
    Happens (.list (d + 1) inherited (a :: rest)) st [looked s look]
      (.error (.chain .cancelled)) (st.afterReply look)
  /-- An action is passed over. -/
  | passedOver {d : Nat} {inherited : Option Recovery} {a : Action} {rest : List Action}
    {st st₀ st' : ChainState} {es₀ es : List Event} {r : Except Failure Flow}
    (look : Reply .look) :
    (st.afterReply look).cancelled = false → Wants s a (st.afterReply look) es₀ false st₀ →
    Happens (.list (d + 1) inherited rest) st₀ es r st' →
    Happens (.list (d + 1) inherited (a :: rest)) st
      (looked s look :: .remark (.reached a (st.afterReply look)) :: (es₀ ++ es)) r st'
  /-- An action ends the list. -/
  | listLeft {d : Nat} {inherited : Option Recovery} {a : Action} {rest : List Action}
    {st st₀ st' : ChainState} {es₀ es : List Event} {r : Except Failure Flow}
    (look : Reply .look) :
    (st.afterReply look).cancelled = false → Wants s a (st.afterReply look) es₀ true st₀ →
    Happens (.attempts d (strategyOf inherited a) a (retriesOf (strategyOf inherited a)) 0) st₀
      es r st' →
    r ≠ .ok .next →
    Happens (.list (d + 1) inherited (a :: rest)) st
      (looked s look :: .remark (.reached a (st.afterReply look)) :: (es₀ ++ es)) r st'
  /-- The list goes on behind an action. -/
  | listWentOn {d : Nat} {inherited : Option Recovery} {a : Action} {rest : List Action}
    {st st₀ st₁ st' : ChainState} {es₀ es₁ es₂ : List Event} {r : Except Failure Flow}
    (look : Reply .look) :
    (st.afterReply look).cancelled = false → Wants s a (st.afterReply look) es₀ true st₀ →
    Happens (.attempts d (strategyOf inherited a) a (retriesOf (strategyOf inherited a)) 0) st₀
      es₁ (.ok .next) st₁ →
    Happens (.list (d + 1) inherited rest) st₁ es₂ r st' →
    Happens (.list (d + 1) inherited (a :: rest)) st
      (looked s look :: .remark (.reached a (st.afterReply look)) :: (es₀ ++ (es₁ ++ es₂))) r st'
  /-- The chain is called off behind an attempt. -/
  | attemptCalledOff {d left before : Nat} {strategy : Recovery} {a : Action}
    {st st₁ : ChainState} {es : List Event} {r : Except Failure Flow} (look : Reply .look) :
    Happens (.effect d strategy a) st es r st₁ → (st₁.afterReply look).cancelled = true →
    Happens (.attempts d strategy a left before) st
      (.remark (.attempt a before st) :: (es ++ [looked s look]))
      (.error (.chain .cancelled)) (st₁.afterReply look)
  /-- An attempt is the last one. -/
  | attemptSettled {d left before : Nat} {strategy : Recovery} {a : Action}
    {st st₁ : ChainState} {es : List Event} {r r' : Except Failure Flow} (look : Reply .look) :
    Happens (.effect d strategy a) st es r st₁ → (st₁.afterReply look).cancelled = false →
    verdict strategy left a r = some r' →
    Happens (.attempts d strategy a left before) st
      (.remark (.attempt a before st) :: (es ++ [looked s look])) r'
      (st₁.afterReply look)
  /-- The chain is called off in the delay before another attempt. -/
  | delayCalledOff {d left before : Nat} {strategy : Recovery} {a : Action}
    {st st₁ : ChainState} {es : List Event} {r : Except Failure Flow} (look : Reply .look)
    (sleep : Reply (.sleep (delayOf s.config strategy))) :
    Happens (.effect d strategy a) st es r st₁ → (st₁.afterReply look).cancelled = false →
    verdict strategy left a r = none →
    ((st₁.afterReply look).afterReply sleep).cancelled = true →
    Happens (.attempts d strategy a left before) st
      (.remark (.attempt a before st) :: (es ++ [looked s look, slept s sleep]))
      (.error (.chain .cancelled)) ((st₁.afterReply look).afterReply sleep)
  /-- There is another attempt after a delay. -/
  | triedAgain {d left before : Nat} {strategy : Recovery} {a : Action}
    {st st₁ st' : ChainState} {es₁ es₂ : List Event} {r r' : Except Failure Flow}
    (look : Reply .look) (sleep : Reply (.sleep (delayOf s.config strategy))) :
    Happens (.effect d strategy a) st es₁ r st₁ → (st₁.afterReply look).cancelled = false →
    verdict strategy (left + 1) a r = none →
    ((st₁.afterReply look).afterReply sleep).cancelled = false →
    Happens (.attempts d strategy a left (before + 1)) ((st₁.afterReply look).afterReply sleep)
      es₂ r' st' →
    Happens (.attempts d strategy a (left + 1) before) st
      (.remark (.attempt a before st) :: (es₁ ++ looked s look :: slept s sleep :: es₂))
      r' st'
  /-- A plain effect comes about. -/
  | plainDone {d : Nat} {strategy : Recovery} {a : Action} {x : Effect Unit}
    {st st' : ChainState} {es : List Event} :
    plainEffect? s a = some x → x.Run st es (.ok ()) st' →
    Happens (.effect d strategy a) st es (.ok .next) st'
  /-- A plain effect fails. -/
  | plainFailed {d : Nat} {strategy : Recovery} {a : Action} {x : Effect Unit}
    {st st' : ChainState} {es : List Event} {e : ActionError} :
    plainEffect? s a = some x → x.Run st es (.error e) st' →
    Happens (.effect d strategy a) st es (.error (.action e)) st'
  /-- An action says to go on. -/
  | proceeded {d : Nat} {strategy : Recovery} {head : Head} {st : ChainState} :
    Happens (.effect d strategy (.proceed head)) st [] (.ok .next) st
  /-- An action says to leave the loop. -/
  | broke {d : Nat} {strategy : Recovery} {head : Head} {st : ChainState} :
    Happens (.effect d strategy (.leave head)) st [] (.ok .leave) st
  /-- A wait is over, or cut short as the chain is called off. -/
  | waited {d : Nat} {strategy : Recovery} {head : Head} {duration : Nat} {st : ChainState}
    (reply : Reply (.sleep duration)) :
    Happens (.effect d strategy (.wait head duration)) st [slept s reply]
      (if (st.afterReply reply).cancelled then .error (.chain .cancelled) else .ok .next)
      (st.afterReply reply)
  /-- A group refers to one that there is not. -/
  | groupUnknown {d : Nat} {strategy : Recovery} {head : Head} {id : Option String}
    {members : List Action} {m : Misuse} {st : ChainState} :
    membersOf s.form id members = .error m →
    Happens (.effect d strategy (.group head id members)) st [] (.error (.action (.misuse m))) st
  /-- The members of a group are carried out. -/
  | grouped {d : Nat} {strategy : Recovery} {head : Head} {id : Option String}
    {members actual : List Action} {named : Option Recovery} {st st' : ChainState}
    {es : List Event} {r : Except Failure Flow} :
    membersOf s.form id members = .ok (actual, named) →
    Happens (.list d (some ((head.recovery.or named).getD strategy)) actual) st es r st' →
    Happens (.effect d strategy (.group head id members)) st es r st'
  /-- A loop is set up wrongly. -/
  | loopMisused {d : Nat} {strategy : Recovery} {head : Head} {plan : LoopPlan}
    {body : List Action} {source : Option Value} {m : Misuse} {st st' : ChainState} :
    (sourceOf plan).Run st [] (.ok source) st' → plan.course s.config source = .error m →
    Happens (.effect d strategy (.loop head plan body)) st [] (.error (.action (.misuse m))) st'
  /-- A loop has its iterations. -/
  | looped {d : Nat} {strategy : Recovery} {head : Head} {plan : LoopPlan}
    {body : List Action} {source : Option Value} {course : LoopCourse}
    {st st₁ st' : ChainState} {es : List Event} {r : Except Failure Flow} :
    (sourceOf plan).Run st [] (.ok source) st₁ → plan.course s.config source = .ok course →
    Happens (.iterations d strategy plan body 0 (supplyOf (plan.cap s.config) course)) st₁ es r
      st' →
    Happens (.effect d strategy (.loop head plan body)) st es r st'
  /-- There is no iteration left. -/
  | loopSpent {d index : Nat} {strategy : Recovery} {plan : LoopPlan} {body : List Action}
    {supply : Supply} {st : ChainState} :
    supply.isSpent = true →
    Happens (.iterations d strategy plan body index supply) st [] (.ok .next) st
  /-- The chain is called off in front of an iteration. -/
  | loopCalledOff {d index : Nat} {strategy : Recovery} {plan : LoopPlan} {body : List Action}
    {supply : Supply} {st : ChainState} (look : Reply .look) :
    supply.isSpent = false → (st.afterReply look).cancelled = true →
    Happens (.iterations d strategy plan body index supply) st [looked s look]
      (.error (.chain .cancelled)) (st.afterReply look)
  /-- The test of a loop does not hold. -/
  | loopTestFailed {d index : Nat} {strategy : Recovery} {plan : LoopPlan} {body : List Action}
    {supply : Supply} {st st₀ : ChainState} {es₀ : List Event} (look : Reply .look) :
    supply.isSpent = false → (st.afterReply look).cancelled = false →
    supply.Gives s plan index (st.afterReply look) es₀ none st₀ →
    Happens (.iterations d strategy plan body index supply) st (looked s look :: es₀) (.ok .next)
      st₀
  /-- The body of a loop fails. -/
  | bodyFailed {d index : Nat} {strategy : Recovery} {plan : LoopPlan} {body : List Action}
    {supply rest : Supply} {f : Frame} {st st₀ st₁ : ChainState} {es₀ es : List Event} {e : Failure}
    (look : Reply .look) :
    supply.isSpent = false → (st.afterReply look).cancelled = false →
    supply.Gives s plan index (st.afterReply look) es₀ (some (f, rest)) st₀ →
    Happens (.list d (some strategy) body) (st₀.enter f) es (.error e) st₁ →
    Happens (.iterations d strategy plan body index supply) st
      (looked s look :: (es₀ ++ .remark (.iteration plan index (st₀.enter f)) :: es))
      (.error e) (st₁.cutBack (st.afterReply look).scope.depth)
  /-- The body of a loop leaves it. -/
  | bodyLeft {d index : Nat} {strategy : Recovery} {plan : LoopPlan} {body : List Action}
    {supply rest : Supply} {f : Frame} {st st₀ st₁ : ChainState} {es₀ es : List Event}
    (look : Reply .look) :
    supply.isSpent = false → (st.afterReply look).cancelled = false →
    supply.Gives s plan index (st.afterReply look) es₀ (some (f, rest)) st₀ →
    Happens (.list d (some strategy) body) (st₀.enter f) es (.ok .leave) st₁ →
    Happens (.iterations d strategy plan body index supply) st
      (looked s look :: (es₀ ++ .remark (.iteration plan index (st₀.enter f)) :: es))
      (.ok .next) (st₁.cutBack (st.afterReply look).scope.depth)
  /-- The loop goes on behind an iteration. -/
  | bodyWentOn {d index : Nat} {strategy : Recovery} {plan : LoopPlan} {body : List Action}
    {supply rest : Supply} {f : Frame} {st st₀ st₁ st' : ChainState} {es₀ es₁ es₂ : List Event}
    {r : Except Failure Flow} (look : Reply .look) :
    supply.isSpent = false → (st.afterReply look).cancelled = false →
    supply.Gives s plan index (st.afterReply look) es₀ (some (f, rest)) st₀ →
    Happens (.list d (some strategy) body) (st₀.enter f) es₁ (.ok .next) st₁ →
    Happens (.iterations d strategy plan body (index + 1) rest)
      (st₁.cutBack (st.afterReply look).scope.depth) es₂ r st' →
    Happens (.iterations d strategy plan body index supply) st
      (looked s look :: (es₀ ++ .remark (.iteration plan index (st₀.enter f)) ::
        (es₁ ++ es₂))) r st'

end Rules

end Chain

end FormChain
