import FormChain.Proofs.Chain.Control

/-!
# Recovering from failures

An action that fails is recovered from as the nearest way of recovery says: its own, else
that of the loop or group around it, else – where that group carries out the members of a
group of the form – that of the group of the form, and so on outward. The interpreter
never looks outward; it hands one way of recovery down from list to list. Here it is found
among the containers that the action stands in (`FormChain.Chain.nearest`).

What a failure brings about, to the end of the chain, is said by `FormChain.Chain.Aftermath`,
with one case for each way of recovery. Where an action is passed over or tried again, the
containers go on with what comes of that; where the chain fails, none of them does anything any
more (`FormChain.Chain.Finishes.of_error`).

Main statement: whatever the surroundings do, every attempt of a chain is recovered from so
(`FormChain.Chain.execute_recovers`).
-/

namespace FormChain

namespace Chain

/-! ### What a failure brings about -/

/-- Nothing but looks at the token. -/
def OnlyLooks (s : ChainSetting) (es : List Event) : Prop :=
  ∀ e ∈ es, ∃ look : Reply .look, e = looked s look

/-- **What follows upon a failure** of an attempt, by the way of recovery that is applied, to the
outcome of the chain. -/
inductive Aftermath (s : ChainSetting) (outcome : Outcome) (outward : List Container) (a : Action)
    (rest : List Action) (before : Nat) (e : ActionError) (st : ChainState) :
    Recovery → List Event → Prop where
  /-- **The list goes on right behind the action.** -/
  | skipped {es : List Event} :
    Resumes s outcome outward rest st es → Aftermath s outcome outward a rest before e st .skip es
  /-- There is a retry left, and after its delay **the action is attempted again**. -/
  | triedAgain {retries d left : Nat} {delay : Option Nat} {row more : List Event}
    {r : Except Failure Flow} {st' : ChainState}
    (sleep : Reply (.sleep (delayOf s.config (.retry retries delay)))) :
    left + 1 + before = retries → (st.afterReply sleep).cancelled = false →
    roomIn s outward = d + 1 →
    Happens s (.attempts d (.retry retries delay) a left (before + 1)) (st.afterReply sleep) row
      r st' →
    Settles s outcome outward rest r st' more →
    Aftermath s outcome outward a rest before e st (.retry retries delay)
      (slept s sleep :: (row ++ more))
  /-- There is a retry left, and the chain is called off in its delay. -/
  | calledOff {retries : Nat} {delay : Option Nat} {es : List Event}
    (sleep : Reply (.sleep (delayOf s.config (.retry retries delay)))) :
    before < retries → (st.afterReply sleep).cancelled = true → OnlyLooks s es →
    outcome = .aborted →
    Aftermath s outcome outward a rest before e st (.retry retries delay) (slept s sleep :: es)
  /-- **The whole chain fails by this action**, unless the token comes to be cancelled
  meanwhile. -/
  | failed {strategy : Recovery} {es : List Event} :
    (strategy = .abort ∨ ∃ retries delay, strategy = .retry retries delay ∧ retries ≤ before) →
    OnlyLooks s es →
    outcome = (if es.any (·.tellsCancelled) then .aborted
      else .failed (.action a.id a.typeName e)) →
    Aftermath s outcome outward a rest before e st strategy es

/-- Whether an action fails by itself with an error: a group where there is no such group, a
loop where its plan is faulty, and any other action with whatever its effect fails with. -/
def IsOwnFault (s : ChainSetting) : Action → ActionError → Prop
  | .group _ id members, e => ∃ m, membersOf s.form id members = .error m ∧ e = .misuse m
  | .loop _ plan _, e => ∃ source m, plan.course s.config source = .error m ∧ e = .misuse m
  | _, _ => True

/-- **An attempt is recovered from**: it is made at some point of the chain, and what follows
it is its effect and a look at the token. Where the effect fails and the token is not
cancelled by then, the fault is the action's own, and what follows is the aftermath under
the nearest way of recovery. -/
def Recovered (s : ChainSetting) (outcome : Outcome) (actions : List Action) (start : ChainState)
    (front : List Event) (a : Action) (before : Nat) (st : ChainState) (back : List Event) : Prop :=
  ∃ outward rest d es r st₁ look es',
    ComesTo s actions start front outward (.attempt a rest before) st ∧
    roomIn s outward = d + 1 ∧ back = es ++ looked s look :: es' ∧
    Happens s (.effect d (nearest a outward) a) st es r st₁ ∧
    ∀ e, r = .error (.action e) → e ≠ .dismissed → (st₁.afterReply look).cancelled = false →
      IsOwnFault s a e ∧ Aftermath s outcome outward a rest before e (st₁.afterReply look)
        (nearest a outward) es'

/-! ### Faults of one's own -/

section Faults

variable {s : ChainSetting} {st st' : ChainState} {es : List Event}

/-- **What is made of a failure** that is no dismissal. -/
theorem verdict_of_ne {strategy : Recovery} {left : Nat} {a : Action} {e : ActionError}
    (hne : e ≠ .dismissed) : verdict strategy left a (.error (.action e)) =
      match strategy, left with
      | .skip, _ => some (.ok .next)
      | .abort, _ => some (.error (.chain (failed a e)))
      | .retry .., 0 => some (.error (.chain (failed a e)))
      | .retry .., _ + 1 => none := by
  cases e with
  | dismissed => exact absurd rfl hne
  | _ => rfl

/-- **An action that fails fails by itself**, and not by what it holds. -/
theorem Happens.isOwnFault {d : Nat} {strategy : Recovery} {a : Action} {e : ActionError}
    (h : Happens s (.effect d strategy a) st es (.error (.action e)) st') :
    IsOwnFault s a e := by
  generalize hr : (Except.error (Failure.action e) : Except Failure Flow) = r at h
  cases h with
  | plainDone => cases hr
  | plainFailed hp _ => cases a <;> trivial
  | proceeded => trivial
  | broke => trivial
  | waited => trivial
  | groupUnknown hm =>
    obtain rfl := Failure.action.inj (Except.error.inj hr)
    exact ⟨_, hm, rfl⟩
  | grouped _ h => exact absurd hr.symm (h.ne_action nofun e)
  | loopMisused _ hc =>
    obtain rfl := Failure.action.inj (Except.error.inj hr)
    exact ⟨_, _, hc, rfl⟩
  | looped _ _ h => exact absurd hr.symm (h.ne_action nofun e)

end Faults

/-! ### Behind an error -/

section Errors

variable {s : ChainSetting} {outcome : Outcome} {outward : List Container} {rest : List Action}
  {st : ChainState} {more : List Event} {e : ChainError}

/-- Events, the first of which tells that the token is cancelled. -/
theorem any_of_look {look : Reply .look} (h : look.cancelled = true) (es : List Event) :
    (looked s look :: es).any (·.tellsCancelled) = true := by
  rw [List.any_cons, Bool.or_eq_true]
  exact Or.inl h

/-- Events, the first of which tells that the token is not cancelled. -/
theorem any_behind_look {look : Reply .look} (h : look.cancelled = false) (es : List Event) :
    (looked s look :: es).any (·.tellsCancelled) = es.any (·.tellsCancelled) := by
  have hlook : (looked s look).tellsCancelled = false := h
  rw [List.any_cons, hlook, Bool.false_or]

/-- One more look. -/
theorem OnlyLooks.cons (look : Reply .look) (h : OnlyLooks s more) :
    OnlyLooks s (looked s look :: more) :=
  List.forall_mem_cons.mpr ⟨⟨look, rfl⟩, h⟩

/-- An error is handed on by any container. -/
theorem Closes.of_error {c : Container} {es : List Event} {e : Failure} {r : Except Failure Flow}
    {st' : ChainState} (h : Closes s outward c (.error e) st es r st') :
    es = [] ∧ r = .error e ∧ st'.cancelled = st.cancelled := by
  cases h with
  | group => exact ⟨rfl, rfl, rfl⟩
  | failed => exact ⟨rfl, rfl, rfl⟩

/-- **Behind an error nothing happens but looks**, and the chain ends with it, unless one of them
tells that it is called off. -/
theorem Finishes.of_error (h : Finishes s outcome outward (.error (.chain e)) st more)
    (hst : st.cancelled = true → e = .cancelled) : OnlyLooks s more ∧
      outcome = outcomeOf (.error (if more.any (·.tellsCancelled) then .cancelled else e)) := by
  induction outward generalizing e st more with
  | nil =>
    generalize hr : (Except.error (.chain e) : Except Failure Flow) = r at h
    cases h with
    | @chain r' _ houtcome =>
      obtain rfl : r' = .error e := by
        rcases r' with e' | flow
        · rw [Failure.chain.inj (Except.error.inj hr)]
        · cases hr
      exact ⟨List.forall_mem_nil _, houtcome⟩
  | cons c outward ih =>
    cases h with
    | @closed _ _ _ _ _ st₁ _ more look hcloses hsettles =>
      obtain ⟨rfl, rfl, hcancelled⟩ := hcloses.of_error
      have hlook : (st₁.afterReply look).cancelled = (st.cancelled || look.cancelled) :=
        congrArg (· || look.cancelled) hcancelled
      rw [List.nil_append]
      cases hc : (st₁.afterReply look).cancelled with
      | true =>
        rw [atLook, if_pos hc] at hsettles
        cases hsettles with
        | ended _ hfinishes =>
          obtain ⟨hlooks, houtcome⟩ := ih hfinishes fun _ => rfl
          refine ⟨hlooks.cons look, ?_⟩
          rw [ite_self] at houtcome
          cases hcancel : look.cancelled with
          | true => rwa [any_of_look hcancel, if_pos rfl]
          | false =>
            obtain rfl := hst (by rwa [hlook, hcancel, Bool.or_false] at hc)
            rwa [ite_self]
      | false =>
        rw [atLook, hc, if_neg Bool.false_ne_true] at hsettles
        cases hsettles with
        | ended _ hfinishes =>
          obtain ⟨hlooks, houtcome⟩ :=
            ih hfinishes fun hc' => absurd (hc.symm.trans hc') Bool.false_ne_true
          rw [hlook, Bool.or_eq_false_iff] at hc
          refine ⟨hlooks.cons look, ?_⟩
          rwa [any_behind_look hc.2]

/-- The same where it is the attempts of an action that have come to an error. -/
theorem Settles.of_error (h : Settles s outcome outward rest (.error (.chain e)) st more)
    (hst : st.cancelled = true → e = .cancelled) : OnlyLooks s more ∧
      outcome = outcomeOf (.error (if more.any (·.tellsCancelled) then .cancelled else e)) := by
  cases h with
  | ended _ hfinishes => exact hfinishes.of_error hst

/-- Where the attempts of an action are called off, the chain is. -/
theorem Settles.of_cancelled
    (h : Settles s outcome outward rest (.error (.chain .cancelled)) st more) :
    OnlyLooks s more ∧ outcome = .aborted := by
  obtain ⟨hlooks, houtcome⟩ := h.of_error fun _ => rfl
  rw [ite_self] at houtcome
  exact ⟨hlooks, houtcome⟩

end Errors

/-! ### Whatever the surroundings do -/

section Recovers

variable {s : ChainSetting} {outcome : Outcome} {outward : List Container} {a : Action}
  {rest : List Action} {d left before : Nat} {st : ChainState} {e : ActionError}
  {more : List Event}

/-- **What the last attempt is followed by**: its verdict is what the attempts come to, and the
aftermath is as the way of recovery says. -/
theorem aftermath_of_verdict {strategy : Recovery} {r : Except Failure Flow}
    (hroom : roomIn s outward = d + 1) (hleft : left + before = retriesOf strategy)
    (hne : e ≠ .dismissed) (hc : st.cancelled = false)
    (hv : verdict strategy left a (.error (.action e)) = some r)
    (hsettles : Settles s outcome outward rest r st more) :
    Aftermath s outcome outward a rest before e st strategy more := by
  rw [verdict_of_ne hne] at hv
  have hfailed (hr : .error (.chain (failed a e)) = r)
      (hway : strategy = .abort ∨
        ∃ retries delay, strategy = .retry retries delay ∧ retries ≤ before) :
      Aftermath s outcome outward a rest before e st strategy more := by
    subst hr
    obtain ⟨hlooks, houtcome⟩ := hsettles.of_error fun hc' => absurd (hc.symm.trans hc') nofun
    refine .failed hway hlooks (houtcome.trans ?_)
    split <;> rfl
  cases strategy with
  | skip =>
    obtain rfl := Option.some.inj hv
    exact .skipped (hsettles.resumes hroom)
  | abort => exact hfailed (Option.some.inj hv) (Or.inl rfl)
  | retry retries delay =>
    cases left with
    | succ left => cases hv
    | zero =>
      have hspent : retries ≤ before := Nat.le_of_eq (hleft.symm.trans (Nat.zero_add before))
      exact hfailed (Option.some.inj hv) (Or.inr ⟨_, _, rfl, hspent⟩)

/-- **The chain is recovered** from an attempt behind which it goes on somehow. -/
theorem Continued.recovered {actions : List Action} {start : ChainState}
    {front back : List Event} (h : Continued s outcome actions start front a before st back) :
    Recovered s outcome actions start front a before st back := by
  obtain ⟨outward, rest, d, left, row, r, st', more, hcomes, hroom, hleft, hrow, h, hsettles⟩ := h
  generalize hway : nearest a outward = strategy at hleft h
  cases h with
  | @attemptCalledOff _ _ _ _ _ _ st₁ es r look heffect hc =>
    obtain rfl : back = es ++ [looked s look] ++ more := (List.cons.inj hrow).2
    exact ⟨outward, rest, d, es, r, st₁, look, more, hcomes, hroom, by simp, hway ▸ heffect,
      fun _ _ _ hc' => absurd (hc.symm.trans hc') nofun⟩
  | @attemptSettled _ _ _ _ _ _ st₁ es r _ look heffect hc hv =>
    obtain rfl : back = es ++ [looked s look] ++ more := (List.cons.inj hrow).2
    refine ⟨outward, rest, d, es, r, st₁, look, more, hcomes, hroom, by simp, hway ▸ heffect, ?_⟩
    rintro e rfl hne -
    exact ⟨heffect.isOwnFault,
      hway ▸ aftermath_of_verdict hroom hleft hne hc hv hsettles⟩
  | @delayCalledOff _ _ _ _ _ _ st₁ es r look sleep heffect hc hv hs =>
    obtain rfl : back = es ++ [looked s look, slept s sleep] ++ more := (List.cons.inj hrow).2
    obtain ⟨e, retries, delay, k, rfl, hne, rfl, rfl⟩ := retry_of_verdict hv
    obtain ⟨hlooks, houtcome⟩ := hsettles.of_cancelled
    have hretry : before < retries := by
      have hretries : k + 1 + before = retries := hleft
      omega
    refine ⟨outward, rest, d, es, _, st₁, look, slept s sleep :: more, hcomes, hroom, by simp,
      hway ▸ heffect, ?_⟩
    rintro e' he' - -
    obtain rfl := Failure.action.inj (Except.error.inj he')
    rw [hway]
    exact ⟨heffect.isOwnFault, .calledOff sleep hretry hs hlooks houtcome⟩
  | @triedAgain _ left _ _ _ _ st₁ _ es row r _ look sleep heffect hc hv hs hagain =>
    obtain rfl : back = es ++ looked s look :: slept s sleep :: row ++ more :=
      (List.cons.inj hrow).2
    obtain ⟨e, retries, delay, k, rfl, hne, rfl, -⟩ := retry_of_verdict hv
    refine ⟨outward, rest, d, es, _, st₁, look, slept s sleep :: (row ++ more), hcomes, hroom,
      by simp, hway ▸ heffect, ?_⟩
    rintro e' he' - -
    obtain rfl := Failure.action.inj (Except.error.inj he')
    rw [hway]
    exact ⟨heffect.isOwnFault, .triedAgain sleep hleft hs hroom hagain hsettles⟩

/-- **Recovering from failures.** Whatever the surroundings do while a chain is carried out,
every attempt in it is recovered from: where it fails with an error that is no dismissal and
the token is not cancelled, the nearest way of recovery is applied, and what follows, to the
end of the chain, is what that way of recovery says. -/
theorem execute_recovers (s : ChainSetting) (actions : List Action) (st : ChainState)
    (b : Behaviour) (before : List Event) :
    let (events, outcome, _) := (execute s actions st).under b before
    ∀ es₁ a n st₁ es₂, events = es₁ ++ .remark (.attempt a n st₁) :: es₂ →
      Recovered s outcome actions st es₁ a n st₁ es₂ := by
  have hrun := Script.run_under b (execute s actions st) before
  generalize (execute s actions st).under b before = run at hrun
  obtain ⟨events, outcome, after⟩ := run
  intro es₁ a n st₁ es₂ hevents
  have hcontinued := continued_of_run hrun es₁ a n st₁ es₂ hevents
  rw [List.nil_append, List.append_nil] at hcontinued
  exact hcontinued.recovered

end Recovers

end Chain

end FormChain
