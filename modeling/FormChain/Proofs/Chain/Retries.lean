import FormChain.Proofs.Chain.Failure
import FormChain.Proofs.Chain.Recovery
import Mathlib.Algebra.GroupWithZero.Nat

/-!
# Trying again

An action that is to be tried again is tried until a try does not fail, and no more often than
it may be. The tries stand in what happens one behind another
(`FormChain.Chain.Tries`): each is a remark that it starts, what the effect does, and a look at
the token; and between one and the next there is a single delay, in which nothing else happens.

So the tries that fail come first, and the one behind them is the last. Whether there is one is
a matter of numbers alone. If an action may be tried `n` times again and `k` is the number of
tries that fail at the front, then

* where `k ≤ n`, it is tried `k + 1` times, and the last try does not fail;
* where `n < k`, it is tried `n + 1` times, and the chain fails as the last try does.

All this is while nobody calls the chain off; what happens otherwise is in
`FormChain.Chain.execute_calledOff`.

Main statement: `FormChain.Chain.tries_as_often_as_allowed`.
-/

namespace FormChain

/-! ### Pauses -/

/-- The milliseconds that an event lets pass. -/
def Event.pause : Event → Nat
  | .exchange _ (.sleep duration) _ => duration
  | _ => 0

/-- **The milliseconds that are let pass** in all. -/
def pausesOf (es : List Event) : Nat :=
  (es.map (·.pause)).sum

@[simp] theorem pausesOf_nil : pausesOf [] = 0 := rfl

@[simp] theorem pausesOf_cons (e : Event) (es : List Event) :
    pausesOf (e :: es) = e.pause + pausesOf es := by
  simp [pausesOf]

@[simp] theorem pausesOf_append (es es' : List Event) :
    pausesOf (es ++ es') = pausesOf es + pausesOf es' := by
  simp [pausesOf]

/-- Where no event lets any time pass, none is let pass. -/
theorem pausesOf_eq_zero {es : List Event} (h : ∀ e ∈ es, e.pause = 0) : pausesOf es = 0 := by
  induction es with
  | nil => rfl
  | cons e es ih =>
    obtain ⟨he, hes⟩ := List.forall_mem_cons.mp h
    rw [pausesOf_cons, he, ih hes]

@[simp] theorem Event.startsAttempt_attempt {a : Action} {before : Nat} {st : ChainState} :
    (Event.remark (.attempt a before st)).startsAttempt = true := rfl

@[simp] theorem Event.startsAttempt_exchange {token : Token} {c : Call} {reply : Reply c} :
    (Event.exchange token c reply).startsAttempt = false := rfl

/-- The milliseconds that an action lets pass by itself. -/
def Action.pause : Action → Nat
  | .wait _ duration => duration
  | _ => 0

namespace Chain

/-! ### Tries -/

/-- **A try of an action.** -/
structure Try where
  /-- What its effect does. -/
  own : List Event
  /-- What comes of it. -/
  result : Except Failure Flow

/-- Whether a try has failed, and not by a prompt that was turned away. -/
def Try.fails (t : Try) : Bool :=
  match t.result with
  | .error (.action .dismissed) => false
  | .error (.action _) => true
  | _ => false

theorem Try.fails_iff {t : Try} :
    t.fails = true ↔ ∃ e, t.result = .error (.action e) ∧ e ≠ .dismissed := by
  constructor
  · intro h
    rcases ht : t.result with (e | e) | flow
    · refine ⟨e, rfl, ?_⟩
      rintro rfl
      simp [Try.fails, ht] at h
    · simp [Try.fails, ht] at h
    · simp [Try.fails, ht] at h
  · rintro ⟨e, ht, hne⟩
    cases e with
    | dismissed => exact absurd rfl hne
    | _ => simp [Try.fails, ht]

/-- What may come of a try that has not failed. -/
theorem Try.result_of_not_fails {t : Try} (h : t.fails = false) :
    t.result = .error (.action .dismissed) ∨ (∃ e, t.result = .error (.chain e)) ∨
      ∃ flow, t.result = .ok flow := by
  rcases ht : t.result with (e | e) | flow
  · left
    cases e with
    | dismissed => rfl
    | _ => simp [Try.fails, ht] at h
  · exact Or.inr (Or.inl ⟨e, rfl⟩)
  · exact Or.inr (Or.inr ⟨flow, rfl⟩)

/-- How many tries fail at the front, where all but the last one do. -/
theorem length_takeWhile_fails {tries : List Try} {last : Try} (h : ∀ t ∈ tries, t.fails = true) :
    ((tries ++ [last]).takeWhile (·.fails)).length =
      tries.length + if last.fails then 1 else 0 := by
  rw [List.takeWhile_append_of_pos h, List.length_append]
  cases hfails : last.fails <;> simp [hfails]

/-- A failure of an action that is to be tried again is the end only where it may not be tried
any more. -/
theorem spent_of_verdict {n left : Nat} {delay : Option Nat} {a : Action} {e : ActionError}
    {r : Except Failure Flow} (hne : e ≠ .dismissed)
    (h : verdict (.retry n delay) left a (.error (.action e)) = some r) :
    left = 0 ∧ r = .error (.chain (failed a e)) := by
  rw [verdict_of_ne hne] at h
  cases left with
  | zero => exact ⟨rfl, (Option.some.inj h).symm⟩
  | succ => cases h

/-- **Tries of an action, one behind another**, with what happens in all: there is a look behind
each of them, and a single delay in front of the next. -/
inductive Tries (s : ChainSetting) (d : Nat) (strategy : Recovery) (a : Action) :
    (before : Nat) → ChainState → List Try → List Event → ChainState → Prop where
  /-- The last one. -/
  | last {before : Nat} {st st₁ : ChainState} {es : List Event} {r : Except Failure Flow}
    (look : Reply .look) :
    Happens s (.effect d strategy a) st es r st₁ →
    Tries s d strategy a before st [⟨es, r⟩]
      (.remark (.attempt a before st) :: (es ++ [looked s look])) (st₁.afterReply look)
  /-- One that is followed by another. -/
  | again {before : Nat} {st st₁ st' : ChainState} {es row : List Event}
    {r : Except Failure Flow} {tries : List Try} (look : Reply .look)
    (sleep : Reply (.sleep (delayOf s.config strategy))) :
    Happens s (.effect d strategy a) st es r st₁ →
    Tries s d strategy a (before + 1) ((st₁.afterReply look).afterReply sleep) tries row st' →
    Tries s d strategy a before st (⟨es, r⟩ :: tries)
      (.remark (.attempt a before st) :: (es ++ looked s look :: slept s sleep :: row)) st'

section Tries

variable {s : ChainSetting} {d left before : Nat} {strategy : Recovery} {a : Action}
  {st st' : ChainState} {row : List Event} {r : Except Failure Flow}

/-- Nothing tells that the token is cancelled if no event does. -/
theorem any_of_quiet {es : List Event} (h : ∀ e ∈ es, e.tellsCancelled = false) :
    es.any (·.tellsCancelled) = false := by
  rw [List.any_eq_false]
  intro e he
  rw [h e he]
  exact Bool.false_ne_true

/-- Where nothing tells that the token is cancelled, it is not known to be so. -/
theorem Happens.uncancelled_of_quiet {t : Task} (h : Happens s t st row r st')
    (hst : st.cancelled = false) (hquiet : ∀ e ∈ row, e.tellsCancelled = false) :
    st'.cancelled = false := by
  rw [h.cancelled_eq, hst, Bool.false_or]
  exact any_of_quiet hquiet

/-- **The attempts of an action that nobody calls off** are tries that fail and then the last
one, on which there is a verdict. -/
theorem Happens.exists_tries (h : Happens s (.attempts d strategy a left before) st row r st')
    (hst : st.cancelled = false) (hquiet : ∀ e ∈ row, e.tellsCancelled = false) :
    ∃ failed last, Tries s d strategy a before st (failed ++ [last]) row st' ∧
      (∀ t ∈ failed, t.fails = true) ∧ failed.length ≤ left ∧
      verdict strategy (left - failed.length) a last.result = some r := by
  have hst' := h.uncancelled_of_quiet hst hquiet
  induction left generalizing before st row with
  | zero =>
    cases h with
    | attemptCalledOff look _ hc => exact absurd (hst'.symm.trans hc) nofun
    | attemptSettled look heffect _ hv =>
      exact ⟨[], ⟨_, _⟩, .last look heffect, List.forall_mem_nil _, Nat.le_refl 0, hv⟩
    | delayCalledOff look sleep _ _ _ hc => exact absurd (hst'.symm.trans hc) nofun
  | succ left ih =>
    cases h with
    | attemptCalledOff look _ hc => exact absurd (hst'.symm.trans hc) nofun
    | attemptSettled look heffect _ hv =>
      exact ⟨[], ⟨_, _⟩, .last look heffect, List.forall_mem_nil _, Nat.zero_le _, hv⟩
    | delayCalledOff look sleep _ _ _ hc => exact absurd (hst'.symm.trans hc) nofun
    | @triedAgain _ _ _ _ _ _ st₁ _ own row r₁ _ look sleep heffect _ hv hs hagain =>
      obtain ⟨e, -, -, -, hr, hne, -⟩ := retry_of_verdict hv
      have hrow : ∀ e ∈ row, e.tellsCancelled = false := fun e he => hquiet e (by simp [he])
      obtain ⟨failed, last, htries, hfailed, hlength, hlast⟩ := ih hagain hs hrow
      refine ⟨⟨own, r₁⟩ :: failed, last, .again look sleep heffect htries, ?_, ?_, ?_⟩
      · exact List.forall_mem_cons.mpr ⟨Try.fails_iff.mpr ⟨e, hr, hne⟩, hfailed⟩
      · rw [List.length_cons]
        omega
      · rw [List.length_cons, Nat.add_sub_add_right]
        exact hlast

/-- **What the effect of an action that holds no others does**: it lets pass what the action lets
pass, starts no attempt, and ends a chain only by being called off. -/
theorem Happens.of_leaf {es : List Event} (h : Happens s (.effect d strategy a) st es r st')
    (ha : a.children? = none) :
    pausesOf es = a.pause ∧ (∀ e ∈ es, e.startsAttempt = false) ∧
      ∀ e, r = .error (.chain e) → st'.cancelled = true := by
  have hplain {x : Effect Unit} {es : List Event} {r : Except ActionError Unit}
      (hp : plainEffect? s a = some x) (hx : x.Run st es r st') :
      pausesOf es = a.pause ∧ ∀ e ∈ es, e.startsAttempt = false := by
    have hask := fun e => (conducts_plainEffect hp _ _ _ _ hx).exchange_of_mem (e := e)
    have hpause : a.pause = 0 := by cases a <;> first | rfl | cases hp
    constructor
    · rw [hpause]
      refine pausesOf_eq_zero fun e he => ?_
      obtain ⟨c, reply, rfl, hc⟩ := hask e he
      cases c with
      | sleep => exact hc.elim
      | _ => rfl
    · intro e he
      obtain ⟨c, reply, rfl, -⟩ := hask e he
      rfl
  cases h with
  | plainDone hp hx => exact ⟨(hplain hp hx).1, (hplain hp hx).2, nofun⟩
  | plainFailed hp hx => exact ⟨(hplain hp hx).1, (hplain hp hx).2, nofun⟩
  | proceeded => exact ⟨rfl, List.forall_mem_nil _, nofun⟩
  | broke => exact ⟨rfl, List.forall_mem_nil _, nofun⟩
  | waited reply =>
    refine ⟨by simp [Event.pause, Action.pause], by simp [Event.startsAttempt], ?_⟩
    intro e he
    split at he
    case isTrue hc => exact hc
    case isFalse => cases he
  | groupUnknown => cases ha
  | grouped => cases ha
  | loopMisused => cases ha
  | looped => cases ha

/-- **As many attempts start as there are tries**, and what is let pass between them is one delay
less. -/
theorem Tries.counts {tries : List Try} (h : Tries s d strategy a before st tries row st')
    (ha : a.children? = none) :
    row.countP (·.startsAttempt) = tries.length ∧
      pausesOf row + delayOf s.config strategy =
        tries.length * (delayOf s.config strategy + a.pause) := by
  have hnone {es : List Event} (hes : ∀ e ∈ es, e.startsAttempt = false) :
      es.countP (·.startsAttempt) = 0 :=
    List.countP_eq_zero.mpr fun e he => by simp [hes e he]
  induction h with
  | last look heffect =>
    obtain ⟨hpauses, hattempts, -⟩ := heffect.of_leaf ha
    constructor
    · simp [List.countP_cons, hnone hattempts]
    · simp only [pausesOf_cons, pausesOf_append, pausesOf_nil, hpauses, Event.pause,
        List.length_singleton]
      omega
  | @again _ _ _ _ _ _ _ tries look sleep heffect _ ih =>
    obtain ⟨hpauses, hattempts, -⟩ := heffect.of_leaf ha
    obtain ⟨hcount, hrest⟩ := ih
    constructor
    · simp [List.countP_cons, hnone hattempts, hcount]
    · simp only [pausesOf_cons, pausesOf_append, hpauses, Event.pause, List.length_cons]
      rw [Nat.add_one_mul, ← hrest]
      omega

/-- The last of some tries, and the look behind it. -/
theorem Tries.last_effect {tries : List Try} {last : Try}
    (h : Tries s d strategy a before st (tries ++ [last]) row st') :
    ∃ st₁ st₂, ∃ look : Reply .look,
      Happens s (.effect d strategy a) st₁ last.own last.result st₂ ∧
        st' = st₂.afterReply look := by
  generalize hall : tries ++ [last] = all at h
  induction h generalizing tries with
  | last look heffect =>
    cases tries with
    | nil =>
      obtain ⟨rfl, -⟩ := List.cons.inj hall
      exact ⟨_, _, look, heffect, rfl⟩
    | cons t tries => simp at hall
  | again look sleep heffect hrest ih =>
    cases tries with
    | nil =>
      obtain ⟨-, rfl⟩ := List.cons.inj hall
      cases hrest
    | cons t tries => exact ih (List.cons.inj hall).2

/-- The pauses of some tries and the delays between them. -/
theorem pauses_of_counts {n delay pause total : Nat}
    (h : total + delay = (n + 1) * (delay + pause)) :
    total = n * delay + (n + 1) * pause := by
  rw [Nat.mul_add, Nat.add_one_mul n delay] at h
  omega

end Tries

/-! ### What is known of the token -/

section Known

variable {s : ChainSetting} {actions : List Action} {start st st' : ChainState}
  {es : List Event} {outward : List Container} {p : Point}

/-- **What is known of the token where a chain has come to** is what was known at its start, and
what replies have told since. -/
theorem ComesTo.cancelled_eq (h : ComesTo s actions start es outward p st) :
    st.cancelled = (start.cancelled || es.any (·.tellsCancelled)) := by
  have hmark (r : Remark) : (Event.remark r).tellsCancelled = false := rfl
  have hasked {c : Call} (reply : Reply c) :
      (Event.exchange s.token c reply).tellsCancelled = reply.cancelled := rfl
  have hreply (st : ChainState) {c : Call} (reply : Reply c) :
      (st.afterReply reply).cancelled = (st.cancelled || reply.cancelled) := rfl
  induction h with
  | started => simp [hmark]
  | passedOver look _ _ hw ih =>
    simp [hw.decodes.cancelled_eq, ih, hmark, hasked, hreply, Bool.or_assoc]
  | reached look _ _ hw ih =>
    simp [hw.decodes.cancelled_eq, ih, hmark, hasked, hreply, Bool.or_assoc]
  | wentOn _ _ h ih => simp [h.cancelled_eq, ih, Bool.or_assoc]
  | triedAgain look sleep _ _ h _ _ _ _ ih =>
    simp [h.cancelled_eq, ih, hmark, hasked, hreply, Bool.or_assoc]
  | grouped _ _ ih => simp [ih, hmark]
  | looped _ hsource _ ih => simp [cancelled_sourceOf hsource, ih, hmark]
  | iterated look _ _ _ hgives ih =>
    change (_ : ChainState).cancelled = _
    simp [hgives.decodes.cancelled_eq, ih, hmark, hasked, hreply, ChainState.enter, Bool.or_assoc]
  | loopedOn look _ _ _ hgives _ h ih =>
    simp [h.cancelled_eq, hgives.decodes.cancelled_eq, ih, hmark, hasked, hreply,
      ChainState.enter, ChainState.cutBack, Bool.or_assoc]

/-- Where an attempt starts in a chain, the token was not known to be cancelled at its start. -/
theorem uncancelled_of_attempt {outcome : Outcome} {front back : List Event} {a : Action}
    {n : Nat} (h : (execute s actions start).Run es (outcome, st'))
    (hes : es = front ++ .remark (.attempt a n st) :: back) : start.cancelled = false := by
  obtain ⟨es₁, r, st₁, rfl, hlist, -⟩ := run_execute h
  have hobeys : Obeys s start.cancelled (.remark (.entered s.form s.token s.session) :: es₁) _ _ :=
    .remarked rfl (happens_of_run hlist).obeys
  exact (hobeys.calm front back a n st hes).1

end Known

/-! ### As often as allowed -/

/-- **Every action is tried as often as it may be**, by what happens in a chain and its outcome:
where the nearest way of recovery of an action that holds no others is to try it `n` times
again, and `k` of its tries fail at the front, these two numbers decide how often it is tried,
and what the chain does then, to its end. -/
def TriesAsAllowed (s : ChainSetting) (actions : List Action) (start : ChainState)
    (events : List Event) (outcome : Outcome) : Prop :=
  ∀ front a st back, events = front ++ .remark (.attempt a 0 st) :: back → a.children? = none →
    ∃ outward rest, ComesTo s actions start front outward (.attempt a rest 0) st ∧
      ∀ n delay, nearest a outward = .retry n delay → ∃ d tries row st' more,
        roomIn s outward = d + 1 ∧ .remark (.attempt a 0 st) :: back = row ++ more ∧
        Tries s d (.retry n delay) a 0 st tries row st' ∧
        row.countP (·.startsAttempt) = tries.length ∧
        pausesOf row = (tries.length - 1) * delay.getD s.config.defaultRetryDelay +
          tries.length * a.pause ∧
        ∀ k, (tries.takeWhile (·.fails)).length = k →
          (k ≤ n → tries.length = k + 1 ∧ ∃ own r, tries[k]? = some ⟨own, r⟩ ∧
            ((∃ flow, r = .ok flow ∧ Settles s outcome outward rest (.ok flow) st' more) ∨
              (r = .error (.action .dismissed) ∧ OnlyLooks s more ∧ outcome = .aborted))) ∧
          (n < k → tries.length = n + 1 ∧ ∃ own e, tries[n]? = some ⟨own, .error (.action e)⟩ ∧
            OnlyLooks s more ∧ outcome = .failed (failed a e))

/-- **Trying again.** Whatever else the surroundings do, as long as nobody calls the chain off,
every action is tried as often as it may be. -/
theorem tries_as_often_as_allowed (s : ChainSetting) (actions : List Action) (st : ChainState)
    (b : Behaviour) (before : List Event)
    (hquiet : ∀ e ∈ ((execute s actions st).under b before).1, e.tellsCancelled = false) :
    let (events, outcome, _) := (execute s actions st).under b before
    TriesAsAllowed s actions st events outcome := by
  have hrun := Script.run_under b (execute s actions st) before
  generalize (execute s actions st).under b before = run at hrun hquiet
  obtain ⟨events, outcome, after⟩ := run
  intro front a st₁ back hevents ha
  obtain ⟨outward, rest, d, left, row, r, st', more, hcomes, hroom, hleft, hrow, hhappens,
    hsettles⟩ := continued_of_run hrun front a 0 st₁ back hevents
  rw [List.append_nil] at hrow
  rw [List.nil_append] at hcomes
  refine ⟨outward, rest, hcomes, fun n delay hnearest => ?_⟩
  rw [hnearest] at hleft hhappens
  obtain rfl : left = n := hleft
  have hevents' : events = front ++ (row ++ more) := by rw [hevents, hrow]
  have hfrontquiet : ∀ e ∈ front, e.tellsCancelled = false := fun e he =>
    hquiet e (by simp [hevents', he])
  have hrowquiet : ∀ e ∈ row, e.tellsCancelled = false := fun e he =>
    hquiet e (by simp [hevents', he])
  have hmorequiet : ∀ e ∈ more, e.tellsCancelled = false := fun e he =>
    hquiet e (by simp [hevents', he])
  have hst₁ : st₁.cancelled = false := by
    rw [hcomes.cancelled_eq, uncancelled_of_attempt hrun hevents, Bool.false_or]
    exact any_of_quiet hfrontquiet
  have hst' := hhappens.uncancelled_of_quiet hst₁ hrowquiet
  have herror {e : ChainError} (hr : r = .error (.chain e)) :
      OnlyLooks s more ∧ outcome = outcomeOf (.error e) := by
    subst hr
    have hfails := hsettles.of_error fun hc => absurd (hst'.symm.trans hc) nofun
    rwa [any_of_quiet hmorequiet, if_neg Bool.false_ne_true] at hfails
  obtain ⟨failed, last, htries, hfailed, hlength, hlast⟩ := hhappens.exists_tries hst₁ hrowquiet
  obtain ⟨hcount, hpauses⟩ := htries.counts ha
  refine ⟨d, failed ++ [last], row, st', more, hroom, hrow, htries, hcount, ?_, fun k hk => ?_⟩
  · have hdelay : delayOf s.config (.retry left delay) =
        delay.getD s.config.defaultRetryDelay := by
      cases delay <;> rfl
    rw [hdelay, List.length_append, List.length_singleton] at hpauses
    rw [List.length_append, List.length_singleton, Nat.add_sub_cancel]
    exact pauses_of_counts hpauses
  · rw [length_takeWhile_fails hfailed] at hk
    cases hfails : last.fails with
    | true =>
      obtain ⟨e, hresult, hne⟩ := Try.fails_iff.mp hfails
      rw [hfails, if_pos rfl] at hk
      rw [hresult] at hlast
      obtain ⟨hspent, hr⟩ := spent_of_verdict hne hlast
      obtain rfl : failed.length = left := by omega
      refine ⟨fun hle => by omega, fun _ => ⟨by simp, last.own, e, ?_, herror hr⟩⟩
      rw [List.getElem?_append_right (Nat.le_refl _), Nat.sub_self, ← hresult]
      rfl
    | false =>
      rw [hfails, if_neg Bool.false_ne_true, Nat.add_zero] at hk
      subst hk
      refine ⟨fun _ => ⟨by simp, last.own, last.result, by simp, ?_⟩, fun hlt => by omega⟩
      rcases Try.result_of_not_fails hfails with hresult | ⟨e, hresult⟩ | ⟨flow, hresult⟩
      · rw [hresult] at hlast
        exact Or.inr ⟨hresult, herror (Option.some.inj hlast).symm⟩
      · obtain ⟨st₂, st₃, look, heffect, rfl⟩ := htries.last_effect
        have hcancelled := (heffect.of_leaf ha).2.2 e hresult
        simp [ChainState.afterReply, hcancelled] at hst'
      · rw [hresult] at hlast
        obtain rfl := (Option.some.inj hlast).symm
        exact Or.inl ⟨flow, hresult, hsettles⟩

/-- A prompt that cannot be put in front of anybody is tried three times, with two delays. -/
theorem closed_prompt_tried_again :
    let a := Action.generateForm { id := "ask", recovery := some (.retry 2 (some 5)) } []
    let run := (execute { form := {} } [a] {}).under withoutUser []
    (∀ e ∈ run.1, e.tellsCancelled = false) ∧
      TriesAsAllowed { form := {} } [a] {} run.1 run.2.1 ∧
      run.1.countP (·.startsAttempt) = 3 ∧ pausesOf run.1 = 10 := by
  have hquiet : ∀ e ∈ ((execute { form := {} }
      [Action.generateForm { id := "ask", recovery := some (.retry 2 (some 5)) } []] {}).under
        withoutUser []).1, e.tellsCancelled = false := by
    decide +kernel
  exact ⟨hquiet, tries_as_often_as_allowed _ _ _ _ _ hquiet, by decide +kernel, by decide +kernel⟩

end Chain

end FormChain
