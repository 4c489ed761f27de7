import FormChain.Proofs.Chain.Cancellation

/-!
# How a chain goes on

An action stands in loops and groups, and what becomes of a chain behind an attempt of it is up
to them. So they are kept here, from the innermost outward, each with the actions behind it in
its own list and, for a loop, with the iterations that are left of it
(`FormChain.Chain.Container`). They are to a chain what a stack of frames is to a machine:

| what has come to a result | the chain goes on |
|---|---|
| the attempts of an action | with the actions behind it, or as where its list has come to this |
| a list in a container | with what is left of the container, and a look behind that |
| the list of the chain itself | not at all |

The first is `FormChain.Chain.Settles`, the others are `FormChain.Chain.Finishes`.
A group comes to what its list comes to. A loop that is left is over, and so its own list goes
on behind it (`FormChain.Chain.Closes`).

The containers also tell the nearest way of recovery, which is what the interpreter hands down
from list to list (`FormChain.Chain.nearest`), and how deep lists may still be nested
(`FormChain.Chain.roomIn`). In which containers a chain is by some events, at which point and in
which state, is what the relation `FormChain.Chain.ComesTo` says: it follows a run from its start
into lists, attempts and iterations, over the parts that are complete.

Main statement: every attempt of a chain starts a row of attempts, which stand in the events
one behind another, and all that happens behind them, to the end of the chain, is how the
containers go on with what they come to (`FormChain.Chain.continued_of_run`).
-/

namespace FormChain

namespace Chain

/-! ### Containers -/

/-- **A loop or group that an action stands in**, with the actions behind it in its own list. -/
inductive Container where
  /-- A group. For one that carries out the members of a group of the form, `named` is the way
  of recovery that is set there. -/
  | group (head : Head) (id : Option String) (members : List Action) (named : Option Recovery)
    (rest : List Action)
  /-- A loop in one of its iterations. The iteration behind it has the number `next` and is had
  from what is `left` of the supply; the scope is cut back to its `level` in front of it. -/
  | loop (head : Head) (plan : LoopPlan) (body rest : List Action) (next : Nat) (left : Supply)
    (level : Nat)

namespace Container

/-- The loop or group itself. -/
def action : Container → Action
  | group head id members _ _ => .group head id members
  | loop head plan body _ _ _ _ => .loop head plan body

/-- The actions behind it. -/
def rest : Container → List Action
  | group _ _ _ _ rest => rest
  | loop _ _ _ rest _ _ _ => rest

/-- The ways of recovery that are set at it, from its own outward. -/
def ways : Container → List Recovery
  | group head _ _ named _ => head.recovery.toList ++ named.toList
  | loop head _ _ _ _ _ _ => head.recovery.toList

end Container

/-- The ways of recovery that are set in containers, from the innermost outward. -/
def waysIn (outward : List Container) : List Recovery :=
  outward.flatMap (·.ways)

/-- **The nearest way of recovery** for an action in some containers. -/
def nearest (a : Action) (outward : List Container) : Recovery :=
  (a.head.recovery.toList ++ waysIn outward).headD .abort

/-- What a list in some containers inherits. Nothing is handed down to that of the chain. -/
def inheritedIn : List Container → Option Recovery
  | [] => none
  | c :: outward => some ((waysIn (c :: outward)).headD .abort)

/-- **How deep lists may be nested** in some containers. -/
def roomIn (s : ChainSetting) (outward : List Container) : Nat :=
  depthOf s.form s.config.reach - outward.length

section Inherited

variable {a : Action} {outward : List Container}

/-- What is handed down to a list finds the nearest way of recovery for its actions. -/
theorem strategyOf_eq_nearest : strategyOf (inheritedIn outward) a = nearest a outward := by
  rw [strategyOf, nearest]
  cases a.head.recovery with
  | none => cases outward <;> rfl
  | some r => rfl

/-- What a group hands down is the nearest way of recovery inside it. -/
theorem inheritedIn_group {head : Head} {id : Option String} {members rest : List Action}
    {named : Option Recovery} :
    inheritedIn (.group head id members named rest :: outward) =
      some ((head.recovery.or named).getD (nearest (.group head id members) outward)) := by
  simp only [inheritedIn, waysIn, List.flatMap_cons, nearest, Action.head, Container.ways]
  cases head.recovery <;> cases named <;> rfl

/-- What a loop hands down is the nearest way of recovery for itself. -/
theorem inheritedIn_loop {head : Head} {plan : LoopPlan} {body rest : List Action}
    {next level : Nat} {left : Supply} :
    inheritedIn (.loop head plan body rest next left level :: outward) =
      some (nearest (.loop head plan body) outward) :=
  rfl

/-- There is room for one list less in a container. -/
theorem roomIn_cons {s : ChainSetting} {c : Container} {d : Nat} (h : roomIn s outward = d + 1) :
    roomIn s (c :: outward) = d :=
  congrArg Nat.pred h

end Inherited

/-! ### Where a chain has come to -/

/-- **A point that a chain comes to.** -/
inductive Point where
  /-- Some actions of the innermost list are left. -/
  | list (actions : List Action)
  /-- An attempt of an action is to start, with some attempts before it; other actions stand
  behind it in its list. -/
  | attempt (a : Action) (rest : List Action) (before : Nat)
  /-- Some iterations of a loop are left; other actions stand behind it in its list. -/
  | iterations (head : Head) (plan : LoopPlan) (body rest : List Action) (index : Nat)
    (supply : Supply)

/-- **Where the chain of some actions has come to** by some events: in which containers, from
the innermost outward, at which point, and in which state. -/
inductive ComesTo (s : ChainSetting) (actions : List Action) (start : ChainState) :
    List Event → List Container → Point → ChainState → Prop where
  /-- The chain starts. -/
  | started : ComesTo s actions start [.remark (.entered s.form s.token s.session)] []
      (.list actions) start
  /-- An action is passed over. -/
  | passedOver {es tests : List Event} {outward : List Container} {a : Action}
    {rest : List Action} {st st₀ : ChainState} (look : Reply .look) :
    ComesTo s actions start es outward (.list (a :: rest)) st →
    (st.afterReply look).cancelled = false → Wants s a (st.afterReply look) tests false st₀ →
    ComesTo s actions start
      (es ++ looked s look :: .remark (.reached a (st.afterReply look)) :: tests) outward
      (.list rest) st₀
  /-- An action is about to be attempted. -/
  | reached {es tests : List Event} {outward : List Container} {a : Action}
    {rest : List Action} {st st₀ : ChainState} (look : Reply .look) :
    ComesTo s actions start es outward (.list (a :: rest)) st →
    (st.afterReply look).cancelled = false → Wants s a (st.afterReply look) tests true st₀ →
    ComesTo s actions start
      (es ++ looked s look :: .remark (.reached a (st.afterReply look)) :: tests) outward
      (.attempt a rest 0) st₀
  /-- The attempts of an action are over, and the list goes on. -/
  | wentOn {es es' : List Event} {outward : List Container} {a : Action} {rest : List Action}
    {d before : Nat} {st st' : ChainState} :
    ComesTo s actions start es outward (.attempt a rest before) st → roomIn s outward = d + 1 →
    Happens s (.attempts d (nearest a outward) a (retriesOf (nearest a outward) - before) before)
      st es' (.ok .next) st' →
    ComesTo s actions start (es ++ es') outward (.list rest) st'
  /-- An attempt has failed, and another one is about to start. -/
  | triedAgain {es es' : List Event} {outward : List Container} {a : Action}
    {rest : List Action} {d before : Nat} {st st₁ : ChainState} {e : ActionError}
    (look : Reply .look) (sleep : Reply (.sleep (delayOf s.config (nearest a outward)))) :
    ComesTo s actions start es outward (.attempt a rest before) st → roomIn s outward = d + 1 →
    Happens s (.effect d (nearest a outward) a) st es' (.error (.action e)) st₁ →
    e ≠ .dismissed → before < retriesOf (nearest a outward) →
    (st₁.afterReply look).cancelled = false →
    ((st₁.afterReply look).afterReply sleep).cancelled = false →
    ComesTo s actions start
      (es ++ .remark (.attempt a before st) :: (es' ++ [looked s look, slept s sleep])) outward
      (.attempt a rest (before + 1)) ((st₁.afterReply look).afterReply sleep)
  /-- The members of a group are about to be carried out. -/
  | grouped {es : List Event} {outward : List Container} {head : Head} {id : Option String}
    {members actual rest : List Action} {named : Option Recovery} {before : Nat}
    {st : ChainState} :
    ComesTo s actions start es outward (.attempt (.group head id members) rest before) st →
    membersOf s.form id members = .ok (actual, named) →
    ComesTo s actions start (es ++ [.remark (.attempt (.group head id members) before st)])
      (.group head id members named rest :: outward) (.list actual) st
  /-- A loop is about to have its iterations. -/
  | looped {es : List Event} {outward : List Container} {head : Head} {plan : LoopPlan}
    {body rest : List Action} {source : Option Value} {course : LoopCourse} {before : Nat}
    {st st₁ : ChainState} :
    ComesTo s actions start es outward (.attempt (.loop head plan body) rest before) st →
    (sourceOf plan).Run st [] (.ok source) st₁ → plan.course s.config source = .ok course →
    ComesTo s actions start (es ++ [.remark (.attempt (.loop head plan body) before st)]) outward
      (.iterations head plan body rest 0 (supplyOf (plan.cap s.config) course)) st₁
  /-- The body of a loop is about to be carried out. -/
  | iterated {es tests : List Event} {outward : List Container} {head : Head} {plan : LoopPlan}
    {body rest : List Action} {index : Nat} {supply left : Supply} {f : Frame}
    {st st₀ : ChainState} (look : Reply .look) :
    ComesTo s actions start es outward (.iterations head plan body rest index supply) st →
    supply.isSpent = false → (st.afterReply look).cancelled = false →
    supply.Gives s plan index (st.afterReply look) tests (some (f, left)) st₀ →
    ComesTo s actions start
      (es ++ looked s look :: (tests ++ [.remark (.iteration plan index (st₀.enter f))]))
      (.loop head plan body rest (index + 1) left (st.afterReply look).scope.depth :: outward)
      (.list body) (st₀.enter f)
  /-- An iteration is over, and the loop goes on. -/
  | loopedOn {es es' tests : List Event} {outward : List Container} {head : Head}
    {plan : LoopPlan} {body rest : List Action} {index d : Nat} {supply left : Supply}
    {f : Frame} {st st₀ st₁ : ChainState} (look : Reply .look) :
    ComesTo s actions start es outward (.iterations head plan body rest index supply) st →
    supply.isSpent = false → (st.afterReply look).cancelled = false →
    supply.Gives s plan index (st.afterReply look) tests (some (f, left)) st₀ →
    roomIn s outward = d + 1 →
    Happens s (.list d (some (nearest (.loop head plan body) outward)) body) (st₀.enter f) es'
      (.ok .next) st₁ →
    ComesTo s actions start
      (es ++ looked s look ::
        (tests ++ .remark (.iteration plan index (st₀.enter f)) :: es')) outward
      (.iterations head plan body rest (index + 1) left)
      (st₁.cutBack (st.afterReply look).scope.depth)

/-! ### How containers go on -/

/-- **What a container does when the list in it has come to a result**, in other containers: what
happens, what the effect of the loop or group comes to, and the state behind it. -/
inductive Closes (s : ChainSetting) (outward : List Container) : Container →
    Except Failure Flow → ChainState → List Event → Except Failure Flow → ChainState → Prop where
  /-- A group comes to the same. -/
  | group {head : Head} {id : Option String} {members rest : List Action}
    {named : Option Recovery} {r : Except Failure Flow} {st : ChainState} :
    Closes s outward (.group head id members named rest) r st [] r st
  /-- A loop fails with its body. -/
  | failed {head : Head} {plan : LoopPlan} {body rest : List Action} {next level : Nat}
    {left : Supply} {e : Failure} {st : ChainState} :
    Closes s outward (.loop head plan body rest next left level) (.error e) st [] (.error e)
      (st.cutBack level)
  /-- **A loop whose body is left** is over. -/
  | finished {head : Head} {plan : LoopPlan} {body rest : List Action} {next level : Nat}
    {left : Supply} {st : ChainState} :
    Closes s outward (.loop head plan body rest next left level) (.ok .leave) st []
      (.ok .next) (st.cutBack level)
  /-- A loop goes on with the iterations that are left. -/
  | wentOn {head : Head} {plan : LoopPlan} {body rest : List Action} {d next level : Nat}
    {left : Supply} {es : List Event} {r : Except Failure Flow} {st st' : ChainState} :
    roomIn s outward = d + 1 →
    Happens s (.iterations d (nearest (.loop head plan body) outward) plan body next left)
      (st.cutBack level) es r st' →
    Closes s outward (.loop head plan body rest next left level) (.ok .next) st es r st'

/-- What a result comes to behind a look at the token, in the state there. -/
def atLook (st : ChainState) (r : Except Failure Flow) : Except Failure Flow :=
  if st.cancelled then .error (.chain .cancelled) else r

section Ends

variable (s : ChainSetting) (outcome : Outcome)

mutual

/-- **How a chain ends with an outcome where a list has come to a result**: by the containers
around the list, from the innermost outward, by the result, the state there and what follows. -/
inductive Finishes :
    List Container → Except Failure Flow → ChainState → List Event → Prop where
  /-- It was the list of the chain. -/
  | chain {r : Except ChainError Flow} {st : ChainState} :
    outcome = outcomeOf r → Finishes [] (r.mapError .chain) st []
  /-- The container of the list goes on until it comes to a result, and there is a look behind
  it. -/
  | closed {c : Container} {outward : List Container} {r r₁ : Except Failure Flow}
    {st st₁ : ChainState} {es more : List Event} (look : Reply .look) :
    Closes s outward c r st es r₁ st₁ →
    Settles outward c.rest (atLook (st₁.afterReply look) r₁) (st₁.afterReply look) more →
    Finishes (c :: outward) r st (es ++ looked s look :: more)

/-- **How a chain ends with an outcome where the attempts of an action have come to a result**,
by the actions behind it as well. -/
inductive Settles :
    List Container → List Action → Except Failure Flow → ChainState → List Event → Prop where
  /-- The list of the action has come to the same. -/
  | ended {outward : List Container} {rest : List Action} {r : Except Failure Flow}
    {st : ChainState} {more : List Event} :
    r ≠ .ok .next → Finishes outward r st more → Settles outward rest r st more
  /-- **The list goes on** with the actions behind it. -/
  | wentOn {outward : List Container} {rest : List Action} {r : Except Failure Flow}
    {st st' : ChainState} {es more : List Event} :
    Happens s (.list (roomIn s outward) (inheritedIn outward) rest) st es r st' →
    Finishes outward r st' more → Settles outward rest (.ok .next) st (es ++ more)

end

/-- **A list goes on** with some actions, and behind it the containers around it do. -/
def Resumes (outward : List Container) (rest : List Action) (st : ChainState)
    (more : List Event) : Prop :=
  ∃ d es r st' es', roomIn s outward = d + 1 ∧ more = es ++ es' ∧
    Happens s (.list (d + 1) (inheritedIn outward) rest) st es r st' ∧
    Finishes s outcome outward r st' es'

/-- **The chain goes on behind an attempt** and those that it is followed by: together they
are a row of attempts under the nearest way of recovery, and behind them the chain goes on with
what they come to. -/
def Continued (actions : List Action) (start : ChainState) (front : List Event) (a : Action)
    (before : Nat) (st : ChainState) (back : List Event) : Prop :=
  ∃ outward rest d left row r st' more,
    ComesTo s actions start front outward (.attempt a rest before) st ∧
    roomIn s outward = d + 1 ∧ left + before = retriesOf (nearest a outward) ∧
    .remark (.attempt a before st) :: back = row ++ more ∧
    Happens s (.attempts d (nearest a outward) a left before) st row r st' ∧
    Settles s outcome outward rest r st' more

end Ends

/-- Behind attempts that come to the next action, the list goes on. -/
theorem Settles.resumes {s : ChainSetting} {outcome : Outcome} {outward : List Container}
    {rest : List Action} {d : Nat} {st : ChainState} {more : List Event}
    (h : Settles s outcome outward rest (.ok .next) st more) (hroom : roomIn s outward = d + 1) :
    Resumes s outcome outward rest st more := by
  cases h with
  | ended hr => exact absurd rfl hr
  | wentOn hlist hfinishes => exact ⟨d, _, _, _, _, hroom, rfl, hroom ▸ hlist, hfinishes⟩

/-! ### What attempts come to -/

section Verdicts

variable {s : ChainSetting} {t : Task} {st st' : ChainState} {es : List Event}
  {r r' : Except Failure Flow} {strategy : Recovery} {left : Nat} {a : Action}

/-- What is made of an attempt is never a failure of the action any more. -/
theorem ne_action_of_verdict (h : verdict strategy left a r = some r') (e : ActionError) :
    r' ≠ .error (.action e) := by
  rintro rfl
  rcases r with (e' | e') | flow
  · cases e' <;> cases strategy <;> cases left <;> cases h
  · cases h
  · cases h

/-- Nothing is made of an attempt that has not failed by itself. -/
theorem eq_of_verdict (h : verdict strategy left a r = some r')
    (hr : ∀ e, r ≠ .error (.action e)) : r' = r := by
  rcases r with (e | e) | flow
  · exact absurd rfl (hr e)
  · exact (Option.some.inj h).symm
  · exact (Option.some.inj h).symm

/-- An attempt is followed by another one only where it fails and a retry is left. -/
theorem retry_of_verdict (h : verdict strategy left a r = none) :
    ∃ e retries delay k, r = .error (.action e) ∧ e ≠ .dismissed ∧
      strategy = .retry retries delay ∧ left = k + 1 := by
  rcases r with (e | e) | flow
  · cases strategy with
    | retry retries delay =>
      cases left with
      | zero => cases e <;> cases h
      | succ k =>
        refine ⟨e, retries, delay, k, rfl, ?_, rfl, rfl⟩
        rintro rfl
        cases h
    | _ => cases e <;> cases h
  · cases h
  · cases h

/-- Whether a task is the effect of a single action. -/
def Task.IsEffect : Task → Prop
  | .effect .. => True
  | _ => False

/-- **Lists, attempts and iterations do not fail by themselves**: what has failed in them is
some action. -/
theorem Happens.ne_action (h : Happens s t st es r st') (ht : ¬t.IsEffect) (e : ActionError) :
    r ≠ .error (.action e) := by
  induction h with
  | passedOver _ _ _ _ ih => exact ih nofun
  | listLeft _ _ _ _ _ ih => exact ih nofun
  | listWentOn _ _ _ _ _ _ ih => exact ih nofun
  | attemptSettled _ _ _ hv _ => exact ne_action_of_verdict hv e
  | triedAgain _ _ _ _ _ _ _ _ ih => exact ih nofun
  | bodyFailed _ _ _ _ _ ih => exact ih nofun
  | bodyWentOn _ _ _ _ _ _ _ ih => exact ih nofun
  | plainDone => exact absurd trivial ht
  | plainFailed => exact absurd trivial ht
  | waited => exact absurd trivial ht
  | groupUnknown => exact absurd trivial ht
  | grouped => exact absurd trivial ht
  | loopMisused => exact absurd trivial ht
  | looped => exact absurd trivial ht
  | _ => nofun

end Verdicts

/-! ### Every attempt in turn -/

/-- **A property of all attempts among some events**, by what has happened before each of them
and what follows it, where some events stand in front and some more follow. -/
def AtAttempts (P : List Event → Action → Nat → ChainState → List Event → Prop)
    (front es more : List Event) : Prop :=
  ∀ es₁ a before st es₂, es = es₁ ++ .remark (.attempt a before st) :: es₂ →
    P (front ++ es₁) a before st (es₂ ++ more)

section AtAttempts

variable {P : List Event → Action → Nat → ChainState → List Event → Prop}
  {front es es' more : List Event}

/-- Where no attempt starts, there is nothing to show. -/
theorem atAttempts_of_forall (h : ∀ e ∈ es, e.startsAttempt = false) :
    AtAttempts P front es more := by
  rintro es₁ a before st es₂ rfl
  exact absurd (h _ (List.mem_append_right _ List.mem_cons_self)) nofun

/-- **Some events behind others.** -/
theorem AtAttempts.append (h : AtAttempts P front es (es' ++ more))
    (h' : AtAttempts P (front ++ es) es' more) : AtAttempts P front (es ++ es') more := by
  intro es₁ a before st es₂ hes
  rcases List.append_eq_append_iff.mp hes with ⟨as, rfl, hes'⟩ | ⟨bs, rfl, hes₂⟩
  · rw [← List.append_assoc]
    exact h' _ _ _ _ _ hes'
  · cases bs with
    | nil =>
      have hfirst := h' [] a before st es₂ hes₂.symm
      simpa using hfirst
    | cons b bs =>
      obtain ⟨rfl, rfl⟩ := List.cons.inj hes₂
      have hsplit : bs.append es' ++ more = bs ++ (es' ++ more) := List.append_assoc ..
      rw [hsplit]
      exact h _ _ _ _ _ rfl

/-- Some events in front, in which no attempt starts. -/
theorem AtAttempts.behind (hes : ∀ e ∈ es, e.startsAttempt = false)
    (h : AtAttempts P (front ++ es) es' more) : AtAttempts P front (es ++ es') more :=
  (atAttempts_of_forall hes).append h

/-- Some events behind, in which no attempt starts. -/
theorem AtAttempts.ahead (hes : ∀ e ∈ es', e.startsAttempt = false)
    (h : AtAttempts P front es (es' ++ more)) : AtAttempts P front (es ++ es') more :=
  h.append (atAttempts_of_forall hes)

/-- **An attempt in front.** -/
theorem AtAttempts.attempted {a : Action} {before : Nat} {st : ChainState}
    (h : P front a before st (es ++ more))
    (h' : AtAttempts P (front ++ [.remark (.attempt a before st)]) es more) :
    AtAttempts P front (.remark (.attempt a before st) :: es) more := by
  intro es₁ a' before' st' es₂ hes
  cases es₁ with
  | nil =>
    obtain ⟨heq, rfl⟩ := List.cons.inj hes
    obtain ⟨rfl, rfl, rfl⟩ := Remark.attempt.inj (Event.remark.inj heq)
    rwa [List.append_nil]
  | cons e es₁ =>
    obtain ⟨rfl, rfl⟩ := List.cons.inj hes
    have hsplit : front ++ .remark (.attempt a before st) :: es₁ =
        front ++ [.remark (.attempt a before st)] ++ es₁ := by simp
    rw [hsplit]
    exact h' _ _ _ _ _ rfl

/-- An action whose condition is tested, in front of what follows. -/
theorem AtAttempts.tested {s : ChainSetting} {st st' : ChainState} {look : Reply .look}
    {rem : Remark} {tests : List Event} (htests : Decodes s st tests st')
    (hrem : Event.startsAttempt (.remark rem) = false)
    (h : AtAttempts P (front ++ looked s look :: .remark rem :: tests) es more) :
    AtAttempts P front (looked s look :: .remark rem :: (tests ++ es)) more := by
  have hquiet : ∀ e ∈ looked s look :: .remark rem :: tests, e.startsAttempt = false :=
    List.forall_mem_cons.mpr ⟨rfl, List.forall_mem_cons.mpr
      ⟨hrem, fun _ he => htests.startsAttempt_eq_false he⟩⟩
  exact h.behind hquiet

/-- An iteration whose frame is given, in front of its body. -/
theorem AtAttempts.given {s : ChainSetting} {st st₁ st' : ChainState} {look : Reply .look}
    {plan : LoopPlan} {index : Nat} {tests : List Event}
    (htests : Decodes s st tests st')
    (h : AtAttempts P (front ++ looked s look :: (tests ++ [.remark (.iteration plan index st₁)]))
      es more) :
    AtAttempts P front (looked s look :: (tests ++ .remark (.iteration plan index st₁) :: es))
      more := by
  have hquiet : ∀ e ∈ looked s look :: (tests ++ [.remark (.iteration plan index st₁)]),
      e.startsAttempt = false := by
    refine List.forall_mem_cons.mpr ⟨rfl, List.forall_mem_append.mpr ⟨?_, ?_⟩⟩
    · exact fun _ he => htests.startsAttempt_eq_false he
    · exact List.forall_mem_singleton.mpr rfl
  have hevents := h.behind hquiet
  rwa [List.cons_append, List.append_assoc, List.singleton_append] at hevents

end AtAttempts

/-! ### From a task to the tasks inside it -/

section Tasks

variable (s : ChainSetting) (outcome : Outcome) (actions : List Action) (start : ChainState)

/-- **Where a task starts**, in which containers, and in front of which actions: it has the room
that is left in them, and what is handed down to it is the nearest way of recovery. -/
def Placed (front : List Event) (outward : List Container) (rest : List Action)
    (st : ChainState) : Task → Prop
  | .list d inherited as => roomIn s outward = d ∧ inherited = inheritedIn outward ∧
      ComesTo s actions start front outward (.list as) st
  | .attempts d strategy a left before => roomIn s outward = d + 1 ∧
      strategy = nearest a outward ∧ left + before = retriesOf strategy ∧
      ComesTo s actions start front outward (.attempt a rest before) st
  | .effect d strategy a => roomIn s outward = d + 1 ∧ strategy = nearest a outward ∧
      ∃ before es, front = es ++ [.remark (.attempt a before st)] ∧
        ComesTo s actions start es outward (.attempt a rest before) st
  | .iterations d strategy plan body index supply => roomIn s outward = d + 1 ∧
      ∃ head, strategy = nearest (.loop head plan body) outward ∧
        ComesTo s actions start front outward (.iterations head plan body rest index supply) st

/-- **What follows a task**, by its result. Behind an effect that has not failed by itself, and
behind iterations, there is a look, and then the attempts have come to the same. -/
def Sequel (outward : List Container) (rest : List Action) (r : Except Failure Flow)
    (st : ChainState) (more : List Event) : Task → Prop
  | .list .. => Finishes s outcome outward r st more
  | .attempts .. => Settles s outcome outward rest r st more
  | _ => (∀ e, r ≠ .error (.action e)) → ∃ look more', more = looked s look :: more' ∧
      Settles s outcome outward rest (atLook (st.afterReply look) r) (st.afterReply look) more'

end Tasks

section Continues

variable {s : ChainSetting} {outcome : Outcome} {actions : List Action} {start : ChainState}
  {front es more : List Event} {outward : List Container} {rest : List Action} {a : Action}
  {d left before : Nat} {strategy : Recovery} {st st₁ st' : ChainState}
  {r r' : Except Failure Flow}

/-- **A row of attempts, with its sequel.** -/
theorem continued_of_attempts
    (hplaced : Placed s actions start front outward rest st (.attempts d strategy a left before))
    (h : Happens s (.attempts d strategy a left before) st (.remark (.attempt a before st) :: es)
      r st')
    (hsettles : Settles s outcome outward rest r st' more) :
    Continued s outcome actions start front a before st (es ++ more) := by
  obtain ⟨hroom, rfl, hleft, hcomes⟩ := hplaced
  exact ⟨outward, rest, d, left, _, r, st', more, hcomes, hroom, hleft, rfl, h, hsettles⟩

/-- The effect of an attempt behind which the chain is called off. -/
theorem sequel_calledOff (look : Reply .look) (hc : (st₁.afterReply look).cancelled = true)
    (h : Settles s outcome outward rest (.error (.chain .cancelled)) (st₁.afterReply look) more) :
    Sequel s outcome outward rest r st₁ (looked s look :: more) (.effect d strategy a) := by
  refine fun _ => ⟨look, more, rfl, ?_⟩
  rwa [atLook, if_pos hc]

/-- The effect of the attempt that settles the matter. -/
theorem sequel_settled (look : Reply .look) (hc : (st₁.afterReply look).cancelled = false)
    (hv : verdict strategy left a r = some r')
    (h : Settles s outcome outward rest r' (st₁.afterReply look) more) :
    Sequel s outcome outward rest r st₁ (looked s look :: more) (.effect d strategy a) := by
  refine fun hr => ⟨look, more, rfl, ?_⟩
  rwa [atLook, hc, if_neg Bool.false_ne_true, ← eq_of_verdict hv hr]

/-- The effect of an attempt that has failed by itself has no sequel of its own. -/
theorem sequel_failed (hv : verdict strategy left a r = none) :
    Sequel s outcome outward rest r st₁ more (.effect d strategy a) := by
  obtain ⟨e, -, -, -, rfl, -⟩ := retry_of_verdict hv
  exact fun hr => absurd rfl (hr e)

/-- **The chain goes on behind every attempt in a task**, by induction on the rules: each rule
says where the tasks inside are placed and what follows them. -/
theorem Happens.continues {t : Task} (h : Happens s t st es r st')
    (hplaced : Placed s actions start front outward rest st t)
    (hsequel : Sequel s outcome outward rest r st' more t) :
    AtAttempts (Continued s outcome actions start) front es more := by
  induction h generalizing front outward rest more with
  | passedOver look hc hw _ ih =>
    obtain ⟨hroom, rfl, hcomes⟩ := hplaced
    exact AtAttempts.tested hw.decodes rfl
      (@ih _ _ _ rest ⟨hroom, rfl, hcomes.passedOver look hc hw⟩ hsequel)
  | @listLeft _ _ _ behind _ _ _ _ _ _ look hc hw _ hne ih =>
    obtain ⟨hroom, rfl, hcomes⟩ := hplaced
    exact AtAttempts.tested hw.decodes rfl
      (@ih _ _ _ behind ⟨hroom, strategyOf_eq_nearest, rfl, hcomes.reached look hc hw⟩
        (.ended hne hsequel))
  | listWentOn look hc hw h₁ h₂ ih₁ ih₂ =>
    obtain ⟨hroom, rfl, hcomes⟩ := hplaced
    have hcomes₁ := hcomes.reached look hc hw
    rw [strategyOf_eq_nearest] at h₁
    refine AtAttempts.tested hw.decodes rfl (.append
      (ih₁ ⟨hroom, strategyOf_eq_nearest, rfl, hcomes₁⟩ (.wentOn (hroom ▸ h₂) hsequel))
      (@ih₂ _ _ _ rest ⟨hroom, rfl, hcomes₁.wentOn hroom h₁⟩ hsequel))
  | attemptCalledOff look h hc ih =>
    have hcontinued := continued_of_attempts hplaced (.attemptCalledOff look h hc) hsequel
    obtain ⟨hroom, rfl, hleft, hcomes⟩ := hplaced
    exact .attempted hcontinued (.ahead (List.forall_mem_singleton.mpr rfl)
      (ih ⟨hroom, rfl, _, _, rfl, hcomes⟩ (sequel_calledOff look hc hsequel)))
  | attemptSettled look h hc hv ih =>
    have hcontinued := continued_of_attempts hplaced (.attemptSettled look h hc hv) hsequel
    obtain ⟨hroom, rfl, hleft, hcomes⟩ := hplaced
    exact .attempted hcontinued (.ahead (List.forall_mem_singleton.mpr rfl)
      (ih ⟨hroom, rfl, _, _, rfl, hcomes⟩ (sequel_settled look hc hv hsequel)))
  | delayCalledOff look sleep h hc hv hs ih =>
    have hcontinued :=
      continued_of_attempts hplaced (.delayCalledOff look sleep h hc hv hs) hsequel
    obtain ⟨hroom, rfl, hleft, hcomes⟩ := hplaced
    exact .attempted hcontinued
      (.ahead (List.forall_mem_cons.mpr ⟨rfl, List.forall_mem_singleton.mpr rfl⟩)
        (ih ⟨hroom, rfl, _, _, rfl, hcomes⟩ (sequel_failed hv)))
  | @triedAgain _ _ _ _ _ _ _ _ es₁ es₂ _ _ look sleep h hc hv hs hagain ih₁ ih₂ =>
    have hcontinued :=
      continued_of_attempts hplaced (.triedAgain look sleep h hc hv hs hagain) hsequel
    obtain ⟨hroom, rfl, hleft, hcomes⟩ := hplaced
    obtain ⟨e, -, -, -, rfl, hne, -⟩ := retry_of_verdict hv
    have hcomes₂ := hcomes.triedAgain look sleep hroom h hne (by omega) hc hs
    have hquiet : ∀ e ∈ [looked s look, slept s sleep], e.startsAttempt = false :=
      List.forall_mem_cons.mpr ⟨rfl, List.forall_mem_singleton.mpr rfl⟩
    refine .attempted hcontinued (.append
      (ih₁ ⟨hroom, rfl, _, _, rfl, hcomes⟩ (sequel_failed hv)) (.behind hquiet
        (ih₂ ⟨hroom, rfl, by omega, ?_⟩ hsequel)))
    simpa using hcomes₂
  | plainDone hp hx =>
    refine atAttempts_of_forall fun e he => ?_
    obtain ⟨c, reply, rfl, -⟩ := (conducts_plainEffect hp _ _ _ _ hx).exchange_of_mem he
    rfl
  | plainFailed hp hx =>
    refine atAttempts_of_forall fun e he => ?_
    obtain ⟨c, reply, rfl, -⟩ := (conducts_plainEffect hp _ _ _ _ hx).exchange_of_mem he
    rfl
  | grouped hm h ih =>
    obtain ⟨hroom, rfl, before, es, rfl, hcomes⟩ := hplaced
    obtain ⟨look, more, rfl, hsettles⟩ := hsequel (h.ne_action nofun)
    exact @ih _ _ _ rest ⟨roomIn_cons hroom, inheritedIn_group.symm, hcomes.grouped hm⟩
      (.closed look .group hsettles)
  | looped hsource hcourse _ ih =>
    obtain ⟨hroom, rfl, before, es, rfl, hcomes⟩ := hplaced
    exact ih ⟨hroom, _, rfl, hcomes.looped hsource hcourse⟩ hsequel
  | bodyFailed look hspent hc hn h ih =>
    obtain ⟨hroom, head, rfl, hcomes⟩ := hplaced
    obtain ⟨look', more, rfl, hsettles⟩ := hsequel (h.ne_action nofun)
    exact AtAttempts.given hn.decodes
      (@ih _ _ _ rest ⟨roomIn_cons hroom, inheritedIn_loop.symm,
        hcomes.iterated look hspent hc hn⟩ (.closed look' .failed hsettles))
  | bodyLeft look hspent hc hn h ih =>
    obtain ⟨hroom, head, rfl, hcomes⟩ := hplaced
    obtain ⟨look', more, rfl, hsettles⟩ := hsequel nofun
    exact AtAttempts.given hn.decodes
      (@ih _ _ _ rest ⟨roomIn_cons hroom, inheritedIn_loop.symm,
        hcomes.iterated look hspent hc hn⟩ (.closed look' .finished hsettles))
  | bodyWentOn look hspent hc hn h₁ h₂ ih₁ ih₂ =>
    obtain ⟨hroom, head, rfl, hcomes⟩ := hplaced
    have hcomes₂ := hcomes.loopedOn look hspent hc hn hroom h₁
    have hsettles := hsequel (h₂.ne_action nofun)
    obtain ⟨look', more, rfl, hsettles⟩ := hsettles
    refine AtAttempts.given hn.decodes (.append
      (@ih₁ _ _ _ rest ⟨roomIn_cons hroom, inheritedIn_loop.symm,
        hcomes.iterated look hspent hc hn⟩ (.closed look' (.wentOn hroom h₂) hsettles))
      (ih₂ ⟨hroom, head, rfl, by simpa using hcomes₂⟩ hsequel))
  | tooDeep => exact atAttempts_of_forall (List.forall_mem_nil _)
  | loopTestFailed look _ _ hn =>
    exact atAttempts_of_forall (List.forall_mem_cons.mpr
      ⟨rfl, fun _ he => hn.decodes.startsAttempt_eq_false he⟩)
  | _ => exact atAttempts_of_forall (by simp [Event.startsAttempt])

/-- **The chain goes on behind every attempt of a run of it.** -/
theorem continued_of_run (h : (execute s actions start).Run es (outcome, st')) :
    AtAttempts (Continued s outcome actions start) [] es [] := by
  obtain ⟨es, r, st₁, rfl, hlist, hx⟩ := run_execute h
  obtain ⟨rfl, -⟩ := Prod.mk.inj hx
  have hplaced : Placed s actions start [.remark (.entered s.form s.token s.session)] [] []
      start (.list (depthOf s.form s.config.reach) none actions) :=
    ⟨rfl, rfl, .started⟩
  exact .behind (List.forall_mem_singleton.mpr rfl)
    ((happens_of_run hlist).continues hplaced (.chain rfl))

end Continues

end Chain

end FormChain
