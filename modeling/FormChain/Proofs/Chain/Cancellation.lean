import FormChain.Proofs.Chain.Scope
import FormChain.Submission.Basic

/-!
# Calling a chain off

A chain is called off by its token, or by the user who turns a prompt away. The token is
looked at in front of every action, behind every attempt, in every delay and in front of
every iteration; so once it is cancelled, it does not matter any more what an attempt has
come to and how a failure of it would be recovered from.

There is one place where it is not looked at: between the test of a condition and what the test
is for. A file may be decoded in it, and if the token is cancelled by the time this is done, an
action that is wanted is attempted all the same (`FormChain.Chain.JustTested`). The look behind
the attempt ends the chain then. Only where the last action of all is not wanted is there no look
any more.

One induction on the rules shows how this governs every task
(`FormChain.Chain.Happens.obeys`): once the token was told to be cancelled or a prompt was
turned away, no attempt starts any more, but for the one place (`FormChain.Chain.Calm`); a prompt
turned away makes the task end as called off; and a task ends so for no other reason. Another one
shows that attempts end as called off where the token is cancelled by then, and lists do so up to
the test of their last action (`FormChain.Chain.Happens.calledOff_or_tested`).

Main statement: `FormChain.Chain.execute_calledOff`. That the one place matters is shown by a
decoder that cancels the token (`FormChain.Chain.calling_off_unseen`). It also shows that only the
prompts of the chain itself count: a form that a button opens first, and that is turned away, ends
well.
-/

namespace FormChain

/-! ### Events that call a chain off -/

/-- **Whether an event calls a chain off.** -/
def Event.callsOff (e : Event) : Bool := e.tellsCancelled || e.dismisses

theorem any_callsOff (es : List Event) :
    es.any (·.callsOff) = (es.any (·.tellsCancelled) || es.any (·.dismisses)) := by
  induction es with
  | nil => rfl
  | cons e es ih =>
    rw [List.any_cons, List.any_cons, List.any_cons, ih, Event.callsOff]
    ac_rfl

namespace Chain

/-! ### Where no attempt starts any more -/

/-- **Some events end in the test** of the condition of an action, which comes out some way and
leads to some state, and nothing in front of it calls the chain off. -/
def JustTested (s : ChainSetting) (a : Action) (wanted : Bool) (st' : ChainState)
    (es : List Event) : Prop :=
  ∃ front st tests, es = front ++ .remark (.reached a st) :: tests ∧
    (∀ e ∈ front, e.callsOff = false) ∧ Wants s a st tests wanted st'

/-- **No attempt starts once the chain is called off**, where a flag tells whether it was
called off before: in front of an attempt nothing calls the chain off, or the condition of the
action has just been tested. -/
def Calm (s : ChainSetting) (off : Bool) (es : List Event) : Prop :=
  ∀ es₁ es₂ a n st, es = es₁ ++ .remark (.attempt a n st) :: es₂ →
    off = false ∧ ((∀ e ∈ es₁, e.callsOff = false) ∨ JustTested s a true st es₁)

section Calm

variable {s : ChainSetting} {off : Bool} {es es' : List Event} {e : Event}

/-- Where no attempt starts at all, it is calm. -/
theorem calm_of_forall (h : ∀ e ∈ es, e.startsAttempt = false) : Calm s off es := by
  rintro es₁ es₂ a n st rfl
  have hfalse := h (.remark (.attempt a n st)) (by simp)
  cases hfalse

@[simp] theorem calm_nil : Calm s off [] :=
  calm_of_forall (List.forall_mem_nil _)

/-- An attempt behind some events in which none starts is the next event, or behind that. -/
theorem split_at_attempt {front es₁ es₂ : List Event} {e' : Event}
    (hfront : ∀ e ∈ front, e.startsAttempt = false) (he' : e'.startsAttempt = true)
    (heq : front ++ e :: es = es₁ ++ e' :: es₂) :
    (es₁ = front ∧ e' = e) ∨ ∃ more, es₁ = front ++ e :: more ∧ es = more ++ e' :: es₂ := by
  rcases List.append_eq_append_iff.mp heq with ⟨more, rfl, hmore⟩ | ⟨more, rfl, hmore⟩
  · cases more with
    | nil => exact Or.inl ⟨List.append_nil _, (List.cons.inj hmore).1.symm⟩
    | cons c more =>
      obtain ⟨rfl, rfl⟩ := List.cons.inj hmore
      exact Or.inr ⟨more, rfl, rfl⟩
  · cases more with
    | nil => exact Or.inl ⟨(List.append_nil _).symm, (List.cons.inj hmore).1⟩
    | cons c more =>
      obtain ⟨rfl, -⟩ := List.cons.inj hmore
      exact absurd ((hfront e' (by simp)).symm.trans he') nofun

theorem JustTested.append {a : Action} {wanted : Bool} {st' : ChainState}
    (hquiet : ∀ e ∈ es, e.callsOff = false) (h : JustTested s a wanted st' es') :
    JustTested s a wanted st' (es ++ es') := by
  obtain ⟨front, st, tests, rfl, hfront, htests⟩ := h
  exact ⟨es ++ front, st, tests, (List.append_assoc ..).symm,
    List.forall_mem_append.mpr ⟨hquiet, hfront⟩, htests⟩

/-- Where it is calm behind some events that may have called the chain off, and an attempt is
among what follows, they have not, and all in front of the attempt is as it should be. -/
theorem Calm.front {a : Action} {n : Nat} {st : ChainState} {more es₂ : List Event}
    (h : Calm s (off || es.any (·.callsOff)) (more ++ .remark (.attempt a n st) :: es₂)) :
    off = false ∧
      ((∀ e ∈ es ++ more, e.callsOff = false) ∨ JustTested s a true st (es ++ more)) := by
  obtain ⟨hoff, hmore⟩ := h more es₂ a n st rfl
  rw [Bool.or_eq_false_iff, List.any_eq_false] at hoff
  have hquiet : ∀ e ∈ es, e.callsOff = false := fun e he => Bool.eq_false_iff.mpr (hoff.2 e he)
  exact ⟨hoff.1, hmore.imp (fun hmore => List.forall_mem_append.mpr ⟨hquiet, hmore⟩)
    (.append hquiet)⟩

/-- **One part behind another.** -/
theorem Calm.append (h : Calm s off es) (h' : Calm s (off || es.any (·.callsOff)) es') :
    Calm s off (es ++ es') := by
  intro es₁ es₂ a n st heq
  rcases List.append_eq_append_iff.mp heq with ⟨more, rfl, rfl⟩ | ⟨more, rfl, hmore⟩
  · exact h'.front
  · cases more with
    | nil =>
      rw [List.nil_append] at hmore
      subst hmore
      rw [← List.nil_append (Event.remark _ :: es₂)] at h'
      simpa using h'.front
    | cons c more =>
      obtain ⟨rfl, -⟩ := List.cons.inj hmore
      exact h es₁ more a n st rfl

/-- An event in front that is no attempt. -/
theorem Calm.cons (he : e.startsAttempt = false) (h : Calm s (off || e.callsOff) es) :
    Calm s off (e :: es) :=
  Calm.append (calm_of_forall fun _ hc => List.mem_singleton.mp hc ▸ he) (by simpa using h)

/-- **An attempt may start** where nothing has called the chain off, and behind a test whatever has
become of the token in it. -/
theorem Calm.behind {front : List Event} {a : Action} {n : Nat} {st : ChainState}
    (hfront : ∀ e ∈ front, e.startsAttempt = false) (hoff : off = false)
    (hready : (∀ e ∈ front, e.callsOff = false) ∨ JustTested s a true st front)
    (h : Calm s (off || front.any (·.callsOff)) es) :
    Calm s off (front ++ .remark (.attempt a n st) :: es) := by
  intro es₁ es₂ a' n' st' heq
  rcases split_at_attempt hfront rfl heq with ⟨rfl, hattempt⟩ | ⟨more, rfl, rfl⟩
  · obtain ⟨rfl, rfl, rfl⟩ := Remark.attempt.inj (Event.remark.inj hattempt)
    exact ⟨hoff, hready⟩
  · have hmark : (Event.remark (.attempt a n st)).callsOff = false := rfl
    have h : Calm s (off || (front ++ [Event.remark (.attempt a n st)]).any (·.callsOff))
        (more ++ .remark (.attempt a' n' st') :: es₂) := by
      simpa [List.any_append, hmark] using h
    simpa using h.front

end Calm

/-! ### Results of being called off -/

/-- **Whether a result is that of being called off**: of the chain, or of a prompt. -/
def isCalledOff : Except Failure Flow → Bool
  | .error (.chain .cancelled) => true
  | .error (.action .dismissed) => true
  | _ => false

/-- What is made of an attempt is a chain called off just if the attempt was. -/
theorem isCalledOff_of_verdict {strategy : Recovery} {left : Nat} {a : Action}
    {r r' : Except Failure Flow} (h : verdict strategy left a r = some r') :
    isCalledOff r' = isCalledOff r := by
  rcases r with (e | e) | flow
  · cases e <;> cases strategy <;> cases left <;> cases h <;> rfl
  · cases h
    rfl
  · cases h
    rfl

/-- An attempt that is followed by another one was not called off. -/
theorem not_isCalledOff_of_verdict {strategy : Recovery} {left : Nat} {a : Action}
    {r : Except Failure Flow} (h : verdict strategy left a r = none) : isCalledOff r = false := by
  rcases r with (e | e) | flow
  · cases e <;> first | rfl | cases h
  · cases h
  · cases h

/-- An attempt is never made a failure by a dismissal. -/
theorem source_of_verdict {strategy : Recovery} {left : Nat} {a : Action}
    {r : Except Failure Flow} {id typeName : String} {e : ActionError}
    (h : verdict strategy left a r = some (.error (.chain (.action id typeName e)))) :
    r = .error (.chain (.action id typeName e)) ∨ e ≠ .dismissed := by
  rcases r with (e' | e') | flow
  · refine Or.inr ?_
    rintro rfl
    cases e' <;> cases strategy <;> cases left <;> cases h
  · cases h
    exact Or.inl rfl
  · cases h

/-! ### Obedience -/

/-- **How being called off governs a task**: whether the token was known to be cancelled
before, what happens, how it ends, and whether the token is known to be cancelled then. -/
structure Obeys (s : ChainSetting) (off : Bool) (es : List Event) (r : Except Failure Flow)
    (off' : Bool) : Prop where
  /-- What is known of the token is what was known and what replies have told. -/
  known : off' = (off || es.any (·.tellsCancelled))
  /-- No attempt starts once the chain is called off. -/
  calm : Calm s off es
  /-- Where a prompt is turned away, the task ends as called off. -/
  turnedAway : es.any (·.dismisses) = true → isCalledOff r = true
  /-- A task ends as called off for a reason. -/
  reason : isCalledOff r = true → off' = true ∨ es.any (·.dismisses) = true
  /-- No action of a chain fails by a dismissal. -/
  source : ∀ {id typeName : String} {e : ActionError},
    r = .error (.chain (.action id typeName e)) → e ≠ .dismissed

namespace Obeys

variable {s : ChainSetting} {off off₁ off' : Bool} {es es₁ es₂ : List Event}
  {r r₁ : Except Failure Flow}

/-- Nothing happens, and the token is cancelled. -/
theorem cancelled (hoff : off = true) : Obeys s off [] (.error (.chain .cancelled)) off where
  known := (Bool.or_false off).symm
  calm := calm_nil
  turnedAway _ := rfl
  reason _ := Or.inl hoff
  source h := by cases h

/-- Nothing happens, and the end is not that of being called off. -/
theorem still (hr : isCalledOff r = false)
    (hs : ∀ {id typeName e}, r ≠ .error (.chain (.action id typeName e))) :
    Obeys s off [] r off where
  known := (Bool.or_false off).symm
  calm := calm_nil
  turnedAway h := by cases h
  reason h := by simp [hr] at h
  source h := absurd h hs

/-- Where a task was not called off, the flag behind it tells of the token alone. -/
theorem flag (h : Obeys s off es r off') (hr : isCalledOff r = false) :
    (off || es.any (·.callsOff)) = off' := by
  have hd : es.any (·.dismisses) = false := by
    cases hd : es.any (·.dismisses) with
    | false => rfl
    | true => exact absurd (h.turnedAway hd) (by simp [hr])
  rw [any_callsOff, hd, Bool.or_false, h.known]

/-- **One task behind another**, if the first is not called off. -/
theorem append (h₁ : Obeys s off es₁ r₁ off₁) (hr : isCalledOff r₁ = false)
    (h₂ : Obeys s off₁ es₂ r off') : Obeys s off (es₁ ++ es₂) r off' where
  known := by rw [h₂.known, h₁.known, List.any_append, Bool.or_assoc]
  calm := h₁.calm.append (by rw [h₁.flag hr]; exact h₂.calm)
  turnedAway hd := by
    rw [List.any_append, Bool.or_eq_true] at hd
    rcases hd with hd | hd
    · exact absurd (h₁.turnedAway hd) (by simp [hr])
    · exact h₂.turnedAway hd
  reason hc := (h₂.reason hc).imp_right fun hd => by simp [hd]
  source := h₂.source

/-- A question in front of a task, where no prompt can be turned away. -/
theorem asked {token : Token} {c : Call} {reply : Reply c}
    (hc : c.dismisses reply.answer = false) (h : Obeys s (off || reply.cancelled) es r off') :
    Obeys s off (.exchange token c reply :: es) r off' where
  known := by simp [h.known, Event.tellsCancelled, Bool.or_assoc]
  calm := .cons rfl (by
    simpa [Event.callsOff, Event.tellsCancelled, Event.dismisses, hc] using h.calm)
  turnedAway hd := h.turnedAway (by simpa [Event.dismisses, hc] using hd)
  reason hr := (h.reason hr).imp_right fun hd => by simp [hd]
  source := h.source

/-- A remark in front of a task that is not the start of an attempt. -/
theorem remarked {rem : Remark} (hrem : Event.startsAttempt (.remark rem) = false)
    (h : Obeys s off es r off') : Obeys s off (.remark rem :: es) r off' where
  known := by simp [h.known, Event.tellsCancelled]
  calm := .cons hrem (by simpa [Event.callsOff, Event.tellsCancelled, Event.dismisses] using h.calm)
  turnedAway hd := h.turnedAway (by simpa [Event.dismisses] using hd)
  reason hr := (h.reason hr).imp_right fun hd => by simp [hd]
  source := h.source

/-- **The start of an attempt**, where nothing has called the chain off, or its condition has just
been tested. -/
theorem attempted {front : List Event} {a : Action} {n : Nat} {st : ChainState}
    (hfront : ∀ e ∈ front, e.startsAttempt = false ∧ e.dismisses = false) (hoff : off = false)
    (hready : (∀ e ∈ front, e.callsOff = false) ∨ JustTested s a true st front)
    (h : Obeys s (off || front.any (·.tellsCancelled)) es r off') :
    Obeys s off (front ++ .remark (.attempt a n st) :: es) r off' := by
  have hnone : front.any (·.dismisses) = false :=
    List.any_eq_false.mpr fun e he => Bool.eq_false_iff.mp (hfront e he).2
  refine ⟨?_, ?_, fun hd => h.turnedAway ?_, fun hr => (h.reason hr).imp_right fun hd => ?_,
    h.source⟩
  · simp [h.known, Event.tellsCancelled, Bool.or_assoc]
  · refine .behind (fun e he => (hfront e he).1) hoff hready ?_
    rw [any_callsOff, hnone, Bool.or_false]
    exact h.calm
  · rw [List.any_append, hnone, Bool.false_or] at hd
    exact hd
  · simp [hd]

/-- **Files are decoded** in front of a task. -/
theorem decoded {st st₀ : ChainState} {tests : List Event} (htests : Decodes s st tests st₀)
    (h : Obeys s st₀.cancelled es r off') : Obeys s st.cancelled (tests ++ es) r off' := by
  induction htests with
  | ended => exact h
  | decoded reply _ ih => exact .asked rfl (ih h)

/-- **A look behind a task**, with what is made of it: the outcome is that of being called
off where the task was, or else only where the token is cancelled. -/
theorem looked (h : Obeys s off es r₁ off₁) {token : Token} (look : Reply .look)
    (hr : isCalledOff r₁ = true → isCalledOff r = true)
    (hr' : isCalledOff r = true → (off₁ || look.cancelled) = true ∨ isCalledOff r₁ = true)
    (hs : ∀ {id typeName e}, r = .error (.chain (.action id typeName e)) → e ≠ .dismissed) :
    Obeys s off (es ++ [.exchange token .look look]) r (off₁ || look.cancelled) where
  known := by simp [h.known, Event.tellsCancelled, Bool.or_assoc]
  calm := h.calm.append (calm_of_forall fun _ hc => List.mem_singleton.mp hc ▸ rfl)
  turnedAway hd := by
    rw [List.any_append, Bool.or_eq_true] at hd
    rcases hd with hd | hd
    · exact hr (h.turnedAway hd)
    · cases hd
  reason hc := by
    rcases hr' hc with hoff | hc₁
    · exact Or.inl hoff
    · exact (h.reason hc₁).imp (fun hoff => by simp [hoff]) fun hd => by simp [hd]
  source := hs

end Obeys

/-- **Effects obey**: a plain effect fails as dismissed just where a prompt is turned away. -/
theorem obeys_of_conduct {s : ChainSetting} {st st' : ChainState} {es : List Event}
    {r : Except ActionError Unit} (h : Conduct s st es (failureOf r) st') :
    Obeys s st.cancelled es ((r.mapError Failure.action).map fun _ => .next) st'.cancelled where
  known := h.cancelled_eq
  calm := calm_of_forall fun e he => by
    obtain ⟨c, reply, rfl, -⟩ := h.exchange_of_mem he
    rfl
  turnedAway hd := by
    have hf := h.any_dismisses_iff.mp hd
    rcases r with e | _
    · obtain rfl := Option.some.inj hf
      rfl
    · cases hf
  reason hc := by
    refine Or.inr (h.any_dismisses_iff.mpr ?_)
    rcases r with e | _
    · cases e <;> first | rfl | cases hc
    · cases hc
  source hr := by rcases r with e | _ <;> cases hr

/-! ### Every task obeys -/

/-- **A task obeys** in a state. The first attempt of an action starts whatever is known of the
token: what stands in front of it answers for that. -/
def Task.ObeysIn (s : ChainSetting) (st : ChainState) (es : List Event) (r : Except Failure Flow)
    (off' : Bool) : Task → Prop
  | .attempts _ _ a _ n => ∃ tail, es = .remark (.attempt a n st) :: tail ∧
      Obeys s st.cancelled tail r off'
  | _ => Obeys s st.cancelled es r off'

/-- Expanding the source of a loop tells nothing of the token. -/
theorem cancelled_sourceOf {plan : LoopPlan} {source : Except ActionError (Option Value)}
    {st st' : ChainState} {es : List Event} (h : (sourceOf plan).Run st es source st') :
    st'.cancelled = st.cancelled := by
  obtain ⟨-, -, seed, rfl⟩ := run_sourceOf h
  rfl

/-- **The attempts of an action behind the test of its condition.** -/
theorem obeys_of_wants {s : ChainSetting} {a : Action} {st st₀ : ChainState}
    {tests es : List Event} {r : Except Failure Flow} {off' : Bool}
    (hw : Wants s a st tests true st₀) (hst : st.cancelled = false)
    (h : ∃ tail, es = .remark (.attempt a 0 st₀) :: tail ∧ Obeys s st₀.cancelled tail r off') :
    Obeys s st.cancelled (.remark (.reached a st) :: (tests ++ es)) r off' := by
  obtain ⟨tail, rfl, htail⟩ := h
  rw [← List.cons_append]
  refine .attempted ?_ hst (Or.inr ⟨[], st, tests, rfl, List.forall_mem_nil _, hw⟩) ?_
  · refine List.forall_mem_cons.mpr ⟨⟨rfl, rfl⟩, fun e he => ?_⟩
    obtain ⟨file, reply, rfl⟩ := hw.decodes.exchange_of_mem he
    exact ⟨rfl, rfl⟩
  · rw [List.any_cons, Event.tellsCancelled, Bool.false_or, ← hw.decodes.cancelled_eq]
    exact htail

section Happens

variable {s : ChainSetting} {t : Task} {st st' : ChainState} {es : List Event}
  {r : Except Failure Flow}

/-- **Every task obeys**, by induction on the rules. -/
theorem Happens.obeys (h : Happens s t st es r st') : t.ObeysIn s st es r st'.cancelled := by
  induction h with
  | tooDeep => exact .still rfl nofun
  | listEnded => exact .still rfl nofun
  | listCalledOff look hc => exact .asked rfl (.cancelled hc)
  | passedOver look _ hw _ ih => exact .asked rfl (.remarked rfl (.decoded hw.decodes ih))
  | listLeft look hc hw _ _ ih => exact .asked rfl (obeys_of_wants hw hc ih)
  | listWentOn look hc hw _ _ ih₁ ih₂ =>
    obtain ⟨tail, rfl, htail⟩ := ih₁
    exact .asked rfl (obeys_of_wants hw hc ⟨_, rfl, htail.append rfl ih₂⟩)
  | attemptCalledOff look _ hc ih =>
    exact ⟨_, rfl, ih.looked look (fun _ => rfl) (fun _ => Or.inl hc) nofun⟩
  | attemptSettled look _ _ hv ih =>
    refine ⟨_, rfl, ih.looked look (fun hr => (isCalledOff_of_verdict hv).trans hr)
      (fun hr => Or.inr ((isCalledOff_of_verdict hv).symm.trans hr)) ?_⟩
    rintro id typeName e rfl
    rcases source_of_verdict hv with hr | he
    · exact ih.source hr
    · exact he
  | delayCalledOff look sleep _ _ hv hc ih =>
    -- only what has failed for another reason is tried again
    refine ⟨_, rfl, ih.append (not_isCalledOff_of_verdict hv) ?_⟩
    exact .asked rfl (.asked rfl (.cancelled hc))
  | triedAgain look sleep _ _ hv hc _ ih₁ ih₂ =>
    obtain ⟨tail, rfl, htail⟩ := ih₂
    refine ⟨_, rfl, ih₁.append (not_isCalledOff_of_verdict hv) (.asked rfl (.asked rfl ?_))⟩
    change (_ || _ || _) = false at hc
    refine Obeys.attempted (List.forall_mem_nil _) hc (Or.inl (List.forall_mem_nil _)) ?_
    rw [List.any_nil, Bool.or_false]
    exact htail
  | plainDone hp hx => exact obeys_of_conduct (conducts_plainEffect hp _ _ _ _ hx)
  | plainFailed hp hx => exact obeys_of_conduct (conducts_plainEffect hp _ _ _ _ hx)
  | proceeded => exact .still rfl nofun
  | broke => exact .still rfl nofun
  | waited reply =>
    refine .asked rfl ?_
    split
    case isTrue hc => exact .cancelled hc
    case isFalse => exact .still rfl nofun
  | groupUnknown => exact .still rfl nofun
  | grouped _ _ ih => exact ih
  | loopMisused hsource =>
    change Obeys s _ _ _ _
    rw [cancelled_sourceOf hsource]
    exact .still rfl nofun
  | looped hsource _ _ ih =>
    change Obeys s _ _ _ _
    rw [← cancelled_sourceOf hsource]
    exact ih
  | loopSpent => exact .still rfl nofun
  | loopCalledOff look _ hc => exact .asked rfl (.cancelled hc)
  | loopTestFailed look _ _ hn =>
    have h := Obeys.decoded hn.decodes (.still (s := s) (r := .ok .next) rfl nofun)
    rw [List.append_nil] at h
    exact .asked rfl h
  | bodyFailed look _ _ hn _ ih => exact .asked rfl (.decoded hn.decodes (.remarked rfl ih))
  | bodyLeft look _ _ hn _ ih =>
    have h := ih.append rfl (.still (r := .ok .next) rfl nofun)
    rw [List.append_nil] at h
    exact .asked rfl (.decoded hn.decodes (.remarked rfl h))
  | bodyWentOn look _ _ hn _ _ ih₁ ih₂ =>
    exact .asked rfl (.decoded hn.decodes (.remarked rfl (ih₁.append rfl ih₂)))

/-- **What is known of the token** behind a task is what was known, and what replies have told. -/
theorem Happens.cancelled_eq (h : Happens s t st es r st') :
    st'.cancelled = (st.cancelled || es.any (·.tellsCancelled)) := by
  have hobeys := h.obeys
  cases t with
  | attempts =>
    obtain ⟨tail, rfl, htail⟩ := hobeys
    exact htail.known
  | _ => exact hobeys.known

/-- Where a task was not called off and the token is not cancelled, nothing has called the chain
off. -/
theorem Obeys.quiet {off : Bool} (h : Obeys s off es r false) (hr : isCalledOff r = false) :
    ∀ e ∈ es, e.callsOff = false := by
  have hflag := h.flag hr
  rw [Bool.or_eq_false_iff, List.any_eq_false] at hflag
  exact fun e he => Bool.eq_false_iff.mpr (hflag.2 e he)

/-- **The attempts of an action end as called off** where the token is cancelled by then: it is
looked at behind each of them. -/
theorem Happens.calledOff_of_attempts {d left n : Nat} {strategy : Recovery} {a : Action}
    (h : Happens s (.attempts d strategy a left n) st es r st') (hafter : st'.cancelled = true) :
    r = .error (.chain .cancelled) := by
  generalize ht : Task.attempts d strategy a left n = t at h
  induction h generalizing left n with
  | attemptCalledOff => rfl
  | attemptSettled look _ hc => exact absurd (hc.symm.trans hafter) nofun
  | delayCalledOff => rfl
  | triedAgain look sleep _ _ _ _ _ _ ih =>
    obtain ⟨rfl, rfl, rfl, rfl, rfl⟩ := Task.attempts.inj ht
    exact ih hafter rfl
  | _ => cases ht

/-- Where the token is cancelled already, a list that is not empty ends in front of its
first action. -/
theorem Happens.calledOff_at_once {d : Nat} {inherited : Option Recovery} {a : Action}
    {rest : List Action} (h : Happens s (.list (d + 1) inherited (a :: rest)) st es r st')
    (hst : st.cancelled = true) : r = .error (.chain .cancelled) := by
  have hlook (look : Reply .look) : (st.afterReply look).cancelled = true := by
    simp [ChainState.afterReply, hst]
  cases h with
  | listCalledOff => rfl
  | passedOver look hc => exact absurd (hc.symm.trans (hlook look)) Bool.false_ne_true
  | listLeft look hc => exact absurd (hc.symm.trans (hlook look)) Bool.false_ne_true
  | listWentOn look hc => exact absurd (hc.symm.trans (hlook look)) Bool.false_ne_true

/-- A look that does not find the token cancelled calls nothing off. -/
theorem callsOff_looked {look : Reply .look} (h : (st.afterReply look).cancelled = false) :
    (looked s look).callsOff = false := by
  obtain ⟨-, hlook⟩ := Bool.or_eq_false_iff.mp h
  rw [looked, Event.callsOff, Event.tellsCancelled, hlook]
  rfl

/-- A test behind which the token is not cancelled calls nothing off. -/
theorem callsOff_of_decodes {tests : List Event} (h : Decodes s st tests st')
    (hst' : st'.cancelled = false) : ∀ e ∈ tests, e.callsOff = false := by
  intro e he
  rw [h.cancelled_eq, Bool.or_eq_false_iff, List.any_eq_false] at hst'
  obtain ⟨file, reply, rfl⟩ := h.exchange_of_mem he
  rw [Event.callsOff, Bool.eq_false_iff.mpr (hst'.2 _ he)]
  rfl

/-- **A list ends as called off** where the token comes to be cancelled, or it has ended with the
test of its last action, which was not wanted. -/
theorem Happens.calledOff_or_tested {d : Nat} {inherited : Option Recovery}
    {actions : List Action} (h : Happens s (.list d inherited actions) st es r st')
    (hbefore : st.cancelled = false) (hafter : st'.cancelled = true) :
    r = .error (.chain .cancelled) ∨
      r = .ok .next ∧ ∃ a, actions.getLast? = some a ∧ JustTested s a false st' es := by
  generalize ht : Task.list d inherited actions = t at h
  induction h generalizing d inherited actions with
  | tooDeep => exact absurd (hbefore.symm.trans hafter) nofun
  | listEnded => exact absurd (hbefore.symm.trans hafter) nofun
  | listCalledOff => exact Or.inl rfl
  | @passedOver _ _ a rest st st₀ _ es₀ es _ look hc hw h ih =>
    obtain ⟨-, -, rfl⟩ := Task.list.inj ht
    have hlook : ∀ e ∈ [looked s look], e.callsOff = false :=
      List.forall_mem_singleton.mpr (callsOff_looked hc)
    cases rest with
    | nil =>
      obtain _ | _ := h
      refine Or.inr ⟨rfl, a, rfl, [looked s look], _, es₀, ?_, hlook, hw⟩
      rw [List.append_nil]
      rfl
    | cons c more =>
      cases hst₀ : st₀.cancelled with
      | true => exact Or.inl (h.calledOff_at_once hst₀)
      | false =>
        refine (ih hst₀ hafter rfl).imp_right fun ⟨hr, last, hlast, htested⟩ =>
          ⟨hr, last, hlast, ?_⟩
        have hquiet : ∀ e ∈ looked s look :: .remark (.reached a (st.afterReply look)) :: es₀,
            e.callsOff = false :=
          List.forall_mem_cons.mpr ⟨callsOff_looked hc,
            List.forall_mem_cons.mpr ⟨rfl, callsOff_of_decodes hw.decodes hst₀⟩⟩
        exact htested.append hquiet
  | listLeft look _ _ h => exact Or.inl (h.calledOff_of_attempts hafter)
  | @listWentOn _ _ a rest st st₀ st₁ _ es₀ es₁ _ _ look hc hw h₁ h₂ _ ih =>
    obtain ⟨-, -, rfl⟩ := Task.list.inj ht
    -- the token is not cancelled behind the attempts, as they have not ended as called off
    have hst₁ : st₁.cancelled = false := by
      cases hst₁ : st₁.cancelled with
      | false => rfl
      | true => exact absurd (h₁.calledOff_of_attempts hst₁) nofun
    refine (ih hst₁ hafter rfl).imp_right fun ⟨hr, last, hlast, htested⟩ => ⟨hr, last, ?_, ?_⟩
    · cases rest with
      | nil =>
        cases hlast
      | cons c more => exact hlast
    · have hobeys : Obeys s st.cancelled
          (looked s look :: .remark (.reached a (st.afterReply look)) :: (es₀ ++ es₁))
          (.ok .next) st₁.cancelled := .asked rfl (obeys_of_wants hw hc h₁.obeys)
      rw [hst₁] at hobeys
      have h := htested.append (hobeys.quiet rfl)
      simpa only [List.cons_append, List.append_assoc] using h
  | _ => cases ht

end Happens

/-! ### Whatever the surroundings do -/

/-- A chain that ends as called off was aborted, and no other is. -/
theorem outcomeOf_eq_aborted {r : Except ChainError Flow} :
    outcomeOf r = .aborted ↔ isCalledOff (r.mapError .chain) = true := by
  rcases r with (_ | _ | _) | _ <;> simp [outcomeOf, isCalledOff]

/-- A chain that fails was not called off. -/
theorem outcomeOf_eq_failed {r : Except ChainError Flow} {e : ChainError} :
    outcomeOf r = .failed e ↔ r = .error e ∧ e ≠ .cancelled := by
  constructor
  · intro h
    rcases r with (_ | _ | _) | _ <;> cases h <;> exact ⟨rfl, nofun⟩
  · rintro ⟨rfl, hne⟩
    cases e with
    | cancelled => exact absurd rfl hne
    | action => rfl
    | tooDeep => rfl

/-- There is always room for the list at the top. -/
theorem exists_depthOf (f : Form) (circles : Nat) : ∃ d, depthOf f circles = d + 1 := by
  have hpos : 0 < (f.groups.length + 1) * (heightOf f + 1) :=
    Nat.mul_pos (Nat.succ_pos _) (Nat.succ_pos _)
  exact ⟨depthOf f circles - 1, by unfold depthOf; omega⟩

/-- **Calling a chain off.** Whenever the token is cancelled or a prompt of the chain is turned
away while a chain of at least one action is carried out, whatever else the surroundings do:

* no attempt of an action starts after that, but for one whose condition was just being tested
  when the token was cancelled;
* the chain is aborted, whatever the way of recovery, or else the token was cancelled while the
  condition of the last action was being tested, for which there was no use then; and it is aborted
  for no other reason;
* where the chain fails, neither being called off nor a prompt turned away is the reason. -/
theorem execute_calledOff (s : ChainSetting) (a : Action) (rest : List Action)
    (st : ChainState) (b : Behaviour) (before : List Event) :
    let (events, outcome, _) := (execute s (a :: rest) st).under b before
    (∀ es₁ es₂ action n state, events = es₁ ++ .remark (.attempt action n state) :: es₂ →
      st.cancelled = false ∧ ((∀ e ∈ es₁, e.tellsCancelled = false ∧ e.dismisses = false) ∨
        JustTested s action true state es₁)) ∧
    (outcome = .aborted →
      st.cancelled = true ∨ ∃ e ∈ events, e.tellsCancelled = true ∨ e.dismisses = true) ∧
    ((st.cancelled = true ∨ ∃ e ∈ events, e.tellsCancelled = true ∨ e.dismisses = true) →
      outcome = .aborted ∨ outcome = .completed ∧ st.cancelled = false ∧
        ∃ last state, (a :: rest).getLast? = some last ∧ JustTested s last false state events) ∧
    ∀ e, outcome = .failed e →
      e ≠ .cancelled ∧ ∀ id typeName source, e = .action id typeName source →
        source ≠ .dismissed := by
  have hrun := Script.run_under b (execute s (a :: rest) st) before
  generalize (execute s (a :: rest) st).under b before = run at hrun
  obtain ⟨events, outcome, after⟩ := run
  obtain ⟨es₁, r, st', hes, hlist, hend⟩ := run_execute hrun
  obtain rfl : events = _ := hes
  obtain ⟨rfl, -⟩ := Prod.mk.inj hend
  obtain ⟨d, hd⟩ := exists_depthOf s.form s.config.reach
  rw [hd] at hlist
  have h := happens_of_run hlist
  have hobeys : Obeys s st.cancelled (.remark (.entered s.form s.token s.session) :: es₁) _ _ :=
    .remarked rfl h.obeys
  refine ⟨?_, ?_, ?_, ?_⟩
  · intro fs₁ fs₂ action n state hevents
    obtain ⟨hst, hfront⟩ := hobeys.calm fs₁ fs₂ action n state hevents
    exact ⟨hst, hfront.imp_left fun hquiet e he => by simpa [Event.callsOff] using hquiet e he⟩
  · intro hc
    rcases hobeys.reason (outcomeOf_eq_aborted.mp hc) with hoff | hd
    · rw [hobeys.known, Bool.or_eq_true, List.any_eq_true] at hoff
      exact hoff.imp_right fun ⟨e, he, hcancel⟩ => ⟨e, he, Or.inl hcancel⟩
    · obtain ⟨e, he, hdismiss⟩ := List.any_eq_true.mp hd
      exact Or.inr ⟨e, he, Or.inr hdismiss⟩
  · rintro hoff
    cases hst : st.cancelled with
    | true =>
      -- the look in front of the first action ends the chain
      exact Or.inl (outcomeOf_eq_aborted.mpr (by rw [h.calledOff_at_once hst]; rfl))
    | false =>
      obtain ⟨e, he, hcancel | hdismiss⟩ := hoff.resolve_left (by simp [hst])
      · have hafter : st'.cancelled = true := by
          rw [hobeys.known, List.any_eq_true.mpr ⟨e, he, hcancel⟩, Bool.or_true]
        rcases h.calledOff_or_tested hst hafter with hr | ⟨hr, last, hlast, htested⟩
        · exact Or.inl (outcomeOf_eq_aborted.mpr (by rw [hr]; rfl))
        · refine Or.inr ⟨?_, rfl, last, st', hlast, ?_⟩
          · rcases r with e | flow
            · cases hr
            · rfl
          · have hfirst : ∀ e ∈ [Event.remark (.entered s.form s.token s.session)],
                e.callsOff = false := List.forall_mem_singleton.mpr rfl
            exact htested.append hfirst
      · exact Or.inl (outcomeOf_eq_aborted.mpr
          (hobeys.turnedAway (List.any_eq_true.mpr ⟨e, he, hdismiss⟩)))
  · intro e he
    obtain ⟨rfl, hne⟩ := outcomeOf_eq_failed.mp he
    refine ⟨hne, ?_⟩
    rintro id typeName source rfl
    exact hobeys.source rfl

/-- **Surroundings that call off unseen**: every file tells of an error, and by the time it is
decoded the token is cancelled; and a form that is to be filled in is turned away. -/
def callingOffUnseen : Behaviour := fun seen _ c =>
  ⟨answer c, decodes c || seen.any (·.tellsCancelled), default⟩
where
  /-- Whether a file is decoded. -/
  decodes : Call → Bool
    | .decode _ => true
    | _ => false
  /-- The answer to a call. There is a form without actions, and a session. -/
  answer : (c : Call) → c.Answer
    | .vault r => ((MemoryVault.empty.put "child.json" "\x7b\x7d").answer r).1.getD
        (.error (.io ""))
    | .session r => (Ledger.answer {} none r).1
    | .openForm .. => .ok none
    | .ai _ | .suggest .. | .collect _ | .launch .. => .error (.interaction "closed")
    | .decode _ => some "an error"
    | .draw => 0
    | .notify _ | .sleep _ | .detach _ | .look => ()

/-- Whether a form that was to be filled in is turned away. -/
def turnsFormAway : Event → Bool
  | .exchange _ (.openForm ..) ⟨.ok none, _, _⟩ => true
  | _ => false

/-- **What is not seen as calling off**: a decoder that cancels the token, so that an attempt starts
all the same, or that a chain whose last action is not wanted is completed; and a form that a
button opens and the user turns away, behind which the chain goes on. -/
theorem calling_off_unseen :
    let st : ChainState := { values := [("log", .text "a log")] }
    let asks (word : String) : Action := .proceed
      { id := "asked", condition := some { speaksOfError with value := some (.text word) } }
    let run (word : String) := (execute { form := {} } [asks word] st).under callingOffUnseen []
    let opens : Form := { actions := [.button { id := "open", recovery := some .skip } "child.json"
      .openFirst, .proceed { id := "behind" }] }
    let opened := (Submission.submit {} opens [] {}).run.under callingOffUnseen []
    (∃ st₁, .remark (.attempt (asks "error") 0 st₁) ∈ (run "error").1 ∧ st₁.cancelled = true) ∧
    ((run "success").2.1 = .completed ∧ (run "success").2.2.cancelled = true) ∧
    opened.1.any turnsFormAway = true ∧ opened.2.toOption = some .completed := by
  refine ⟨⟨_, .tail _ (.tail _ (.tail _ (.tail _ (.head _)))), rfl⟩, ⟨rfl, rfl⟩, ?_, ?_⟩
  · decide +kernel
  · decide +kernel

end Chain

end FormChain
