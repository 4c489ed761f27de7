import FormChain.Proofs.Chain.Rules

/-!
# Chains keep to the rules

Every run of a chain is one that the rules allow (`FormChain.Chain.happens_of_run`). The
functions that carry out lists, attempts and iterations are taken apart here, once and for
all: each is a few questions with something in between, and every question behind which
the token decides how to go on is a `FormChain.Chain.Guards`.
-/

namespace FormChain

namespace Chain

/-! ### Questions behind which the token decides -/

/-- **A step that asks one question** and goes on only if the token is not cancelled by
then. -/
def Guards {ε : Type} (s : ChainSetting) (c : Call) (e : ε) (x : Step ε Unit) : Prop :=
  ∀ st es r st', x.Run st es r st' ↔
    ∃ reply : Reply c, es = [.exchange s.token c reply] ∧ st' = st.afterReply reply ∧
      r = if (st.afterReply reply).cancelled then .error e else .ok ()

section Guards

variable {ε δ β : Type} {s : ChainSetting} {c : Call}

theorem guards_ask :
    Guards s c ChainError.cancelled (Step.ask s c >>= fun _ => stopIfCancelled) := by
  intro st es r st'
  have stop {st₁ : ChainState} {es₁ : List Event} :
      stopIfCancelled.Run st₁ es₁ r st' ↔
        es₁ = [] ∧ st' = st₁ ∧ r = if st₁.cancelled then .error .cancelled else .ok () := by
    rw [stopIfCancelled, Step.run_state_bind]
    split
    · rw [Step.run_throw]
      exact and_congr_right fun _ => and_comm
    · rw [Step.run_pure]
      exact and_congr_right fun _ => and_comm
  simp only [Step.run_ask_bind, stop]
  constructor
  · rintro ⟨reply, _, rfl, rfl, h⟩
    exact ⟨reply, rfl, h⟩
  · rintro ⟨reply, rfl, h⟩
    exact ⟨reply, [], rfl, rfl, h⟩

theorem guards_checkToken : Guards s .look ChainError.cancelled (checkToken s) :=
  guards_ask

theorem guards_sleep (duration : Nat) :
    Guards s (.sleep duration) ChainError.cancelled (sleep s duration) :=
  guards_ask

theorem Guards.run {e : ε} {x : Step ε Unit} (hx : Guards s c e x) {st st' : ChainState}
    {es : List Event} {r : Except ε Unit} : x.Run st es r st' ↔
      ∃ reply : Reply c, es = [.exchange s.token c reply] ∧ st' = st.afterReply reply ∧
        r = if (st.afterReply reply).cancelled then .error e else .ok () :=
  hx st es r st'

theorem Guards.mapError {e : ε} {x : Step ε Unit} (hx : Guards s c e x) (f : ε → δ) :
    Guards s c (f e) (Step.mapError f x) := by
  intro st es r st'
  simp only [Step.run_mapError, hx.run]
  constructor
  · rintro ⟨_, rfl, reply, rfl, rfl, rfl⟩
    exact ⟨reply, rfl, rfl, by split <;> rfl⟩
  · rintro ⟨reply, rfl, rfl, rfl⟩
    exact ⟨if (st.afterReply reply).cancelled then .error e else .ok (), by split <;> rfl,
      reply, rfl, rfl, rfl⟩

/-- What follows such a step comes about just where the token is not cancelled. -/
theorem Guards.run_bind {e : ε} {x : Step ε Unit} (hx : Guards s c e x) {k : Unit → Step ε β}
    {st st' : ChainState} {es : List Event} {r : Except ε β} :
    (x >>= k).Run st es r st' ↔ ∃ reply : Reply c,
      ((st.afterReply reply).cancelled = true ∧ es = [.exchange s.token c reply] ∧
        r = .error e ∧ st' = st.afterReply reply) ∨
      ((st.afterReply reply).cancelled = false ∧ ∃ es', es = .exchange s.token c reply :: es' ∧
        (k ()).Run (st.afterReply reply) es' r st') := by
  simp only [Step.run_bind, hx.run]
  constructor
  · rintro (⟨e', ⟨reply, rfl, rfl, hr⟩, rfl⟩ | ⟨_, _, _, es₂, rfl, ⟨reply, rfl, rfl, hr⟩, h⟩)
    · split at hr
      case isTrue hc =>
        obtain rfl := Except.error.inj hr
        exact ⟨reply, Or.inl ⟨hc, rfl, rfl, rfl⟩⟩
      case isFalse => cases hr
    · split at hr
      case isTrue => cases hr
      case isFalse hc => exact ⟨reply, Or.inr ⟨Bool.eq_false_iff.mpr hc, es₂, rfl, h⟩⟩
  · rintro ⟨reply, ⟨hc, rfl, rfl, rfl⟩ | ⟨hc, es', rfl, h⟩⟩
    · exact Or.inl ⟨e, ⟨reply, rfl, rfl, by rw [if_pos hc]⟩, rfl⟩
    · exact Or.inr ⟨_, (), _, es', rfl, ⟨reply, rfl, rfl, by simp [hc]⟩, h⟩

end Guards

/-! ### Effects, iterations, attempts and lists -/

section Sound

variable {s : ChainSetting} {d : Nat}

/-- The lists below some depth keep to the rules. -/
def ListsKeep (s : ChainSetting) (d : Nat) : Prop :=
  ∀ {inherited actions st es r st'}, (runDepth s d inherited actions).Run st es r st' →
    Happens s (.list d inherited actions) st es (r.mapError .chain) st'

theorem happens_of_plainly {strategy : Recovery} {a : Action} {x : Effect Unit}
    (hp : plainEffect? s a = some x) {st st' : ChainState} {es : List Event}
    {r : Except Failure Flow} (h : (plainly x).Run st es r st') :
    Happens s (.effect d strategy a) st es r st' := by
  rcases Step.run_bind.mp h with ⟨e, h₁, rfl⟩ | ⟨es₁, _, st₁, es₂, rfl, h₁, h₂⟩
  · obtain ⟨r', hr, hx⟩ := Step.run_mapError.mp h₁
    rcases r' with e' | u
    · obtain rfl := Except.error.inj hr
      exact .plainFailed hp hx
    · cases hr
  · obtain ⟨r', hr, hx⟩ := Step.run_mapError.mp h₁
    obtain ⟨rfl, rfl, rfl⟩ := Step.run_pure.mp h₂
    rcases r' with e' | u
    · cases hr
    · rw [List.append_nil]
      exact .plainDone hp hx

theorem happens_of_group (hd : ListsKeep s d) {strategy : Recovery} {head : Head}
    {id : Option String} {members : List Action} {st st' : ChainState} {es : List Event}
    {r : Except Failure Flow}
    (h : (group s (runDepth s d) strategy head id members).Run st es r st') :
    Happens s (.effect d strategy (.group head id members)) st es r st' := by
  unfold group at h
  split at h
  case h_1 m hm =>
    obtain ⟨rfl, rfl, rfl⟩ := Step.run_throw.mp h
    exact .groupUnknown hm
  case h_2 actual named hm =>
    obtain ⟨r', rfl, hl⟩ := Step.run_mapError.mp h
    exact .grouped hm (hd hl)

/-- What is behind the body of an iteration, which has ended somehow. -/
theorem happens_of_body (hd : ListsKeep s d) {strategy : Recovery} {plan : LoopPlan}
    {body : List Action} {index : Nat} {supply rest : Supply} {f : Frame}
    {st st₀ st₁ st' : ChainState} {es₀ es₁ es₂ : List Event} {r₁ : Except ChainError Flow}
    {r : Except Failure Unit} {k : Step Failure Unit} (look : Reply .look)
    (hs : supply.isSpent = false) (hc : (st.afterReply look).cancelled = false)
    (hn : supply.Gives s plan index (st.afterReply look) es₀ (some (f, rest)) st₀)
    (hb : (runDepth s d (some strategy) body).Run (st₀.enter f) es₁ r₁ st₁)
    (hk : (Step.ofExcept (r₁.mapError .chain) >>= fun flow =>
      match flow with
      | .leave => pure ()
      | .next => k).Run (st₁.cutBack (st.afterReply look).scope.depth) es₂ r st')
    (ih : ∀ {st es r st'}, k.Run st es r st' →
      Happens s (.iterations d strategy plan body (index + 1) rest) st es (r.map fun _ => .next)
        st') :
    Happens s (.iterations d strategy plan body index supply) st
      (looked s look :: (es₀ ++ .remark (.iteration plan index (st₀.enter f)) :: (es₁ ++ es₂)))
      (r.map fun _ => .next) st' := by
  rcases r₁ with e | _ | _
  · simp only [mapError_error, Step.run_ofExcept_bind, reduceCtorEq, false_and, exists_false,
      or_false, Except.error.injEq] at hk
    obtain ⟨_, rfl, rfl, rfl, rfl⟩ := hk
    rw [List.append_nil]
    exact .bodyFailed look hs hc hn (hd hb)
  · simp only [mapError_ok, Step.run_ofExcept_bind, reduceCtorEq, false_and, exists_false,
      false_or, Except.ok.injEq, exists_eq_left'] at hk
    exact .bodyWentOn look hs hc hn (hd hb) (ih hk)
  · simp only [mapError_ok, Step.run_ofExcept_bind, reduceCtorEq, false_and, exists_false,
      false_or, Except.ok.injEq, exists_eq_left', Step.run_pure] at hk
    obtain ⟨rfl, rfl, rfl⟩ := hk
    rw [List.append_nil]
    exact .bodyLeft look hs hc hn (hd hb)

theorem happens_of_overFrames (hd : ListsKeep s d) {strategy : Recovery} {plan : LoopPlan}
    {body : List Action} {index : Nat} {fs : List Frame} {st st' : ChainState}
    {es : List Event} {r : Except Failure Unit}
    (h : (overFrames s (runDepth s d) strategy plan body index fs).Run st es r st') :
    Happens s (.iterations d strategy plan body index (.frames fs)) st es (r.map fun _ => .next)
      st' := by
  induction fs generalizing index st es r st' with
  | nil =>
    obtain ⟨rfl, rfl, rfl⟩ := Step.run_pure.mp h
    exact .loopSpent rfl
  | cons f rest ih =>
    unfold overFrames at h
    obtain ⟨look, ⟨hc, rfl, rfl, rfl⟩ | ⟨hc, es', rfl, hi⟩⟩ :=
      (guards_checkToken.mapError Failure.chain).run_bind.mp h
    · exact .loopCalledOff look rfl hc
    · simp only [iterate, bind_assoc, Step.run_state_bind, Step.run_change_bind,
        Step.run_remark_bind, Step.run_outcome_bind] at hi
      obtain ⟨_, rfl, es₁, r₁, st₁, es₂, rfl, hb, hk⟩ := hi
      exact happens_of_body hd look rfl hc .frame hb hk ih

theorem happens_of_whileHolds (hd : ListsKeep s d) {strategy : Recovery} {plan : LoopPlan}
    {body : List Action} {test : Filter} {left index : Nat} {st st' : ChainState}
    {es : List Event} {r : Except Failure Unit}
    (h : (whileHolds s (runDepth s d) strategy plan body test left index).Run st es r st') :
    Happens s (.iterations d strategy plan body index (.whileHolds test left)) st es
      (r.map fun _ => .next) st' := by
  induction left generalizing index st es r st' with
  | zero =>
    obtain ⟨rfl, rfl, rfl⟩ := Step.run_pure.mp h
    exact .loopSpent rfl
  | succ left ih =>
    unfold whileHolds at h
    obtain ⟨look, ⟨hc, rfl, rfl, rfl⟩ | ⟨hc, es', rfl, hi⟩⟩ :=
      (guards_checkToken.mapError Failure.chain).run_bind.mp h
    · exact .loopCalledOff look rfl hc
    · simp only [Step.run_state_bind, Step.run_change_bind] at hi
      obtain ⟨es₀, held, tested, es₁, rfl, ht, hi⟩ := Step.run_ofTest_bind.mp hi
      obtain ⟨st₀, rfl, hdecodes⟩ := Tests.decodes ht |>.of_enter
      cases held with
      | true =>
        simp only [if_true, Step.run_remark_bind, Step.run_outcome_bind, Step.run_change_bind]
          at hi
        obtain ⟨_, rfl, es₁, r₁, st₁, es₂, rfl, hb, hk⟩ := hi
        exact happens_of_body hd look rfl hc (.held ht) hb hk ih
      | false =>
        -- the frame comes off again, and the scope is what it was
        obtain ⟨rfl, rfl, rfl⟩ := Step.run_change.mp hi
        rw [List.append_nil, ← hdecodes.scope_eq, ChainState.cutBack_enter]
        exact .loopTestFailed look rfl hc (.failed ht)

/-- The value of the source of a loop comes without a question, and leaves everything but
the seed alone. -/
theorem run_sourceOf {plan : LoopPlan} {st st' : ChainState} {es : List Event}
    {r : Except ActionError (Option Value)} (h : (sourceOf plan).Run st es r st') :
    es = [] ∧ (∃ source, r = .ok source) ∧ ∃ seed, st' = { st with seed } := by
  unfold sourceOf at h
  split at h
  · obtain ⟨rfl, rfl, rfl⟩ := Step.run_pure.mp h
    exact ⟨rfl, ⟨_, rfl⟩, _, rfl⟩
  · rcases Step.run_bind.mp h with ⟨e, h₁, rfl⟩ | ⟨es₁, v, st₁, es₂, rfl, h₁, h₂⟩
    · exact absurd (Step.run_drawing.mp h₁).2.1 (by simp)
    · obtain ⟨rfl, -, rfl⟩ := Step.run_drawing.mp h₁
      obtain ⟨rfl, rfl, rfl⟩ := Step.run_pure.mp h₂
      exact ⟨rfl, ⟨_, rfl⟩, _, rfl⟩

theorem happens_of_loop (hd : ListsKeep s d) {strategy : Recovery} {head : Head}
    {plan : LoopPlan} {body : List Action} {st st' : ChainState} {es : List Event}
    {r : Except Failure Flow}
    (h : (loop s (runDepth s d) strategy plan body).Run st es r st') :
    Happens s (.effect d strategy (.loop head plan body)) st es r st' := by
  unfold loop at h
  rcases Step.run_bind.mp h with ⟨e, h₁, rfl⟩ | ⟨es₁, source, st₁, es₂, rfl, h₁, h₂⟩
  · obtain ⟨r', hr, hx⟩ := Step.run_mapError.mp h₁
    -- expanding the source does not fail
    obtain ⟨-, ⟨source, rfl⟩, -⟩ := run_sourceOf hx
    cases hr
  · obtain ⟨r', hr, hx⟩ := Step.run_mapError.mp h₁
    obtain ⟨rfl, ⟨source', rfl⟩, -⟩ := run_sourceOf hx
    obtain rfl := Except.ok.inj hr
    rw [List.nil_append]
    cases hcourse : plan.course s.config source with
    | error m =>
      simp only [hcourse] at h₂
      obtain ⟨rfl, rfl, rfl⟩ := Step.run_throw_bind.mp h₂
      exact .loopMisused hx hcourse
    | ok course =>
      refine .looped hx hcourse ?_
      cases course with
      | frames fs =>
        simp only [hcourse] at h₂
        obtain ⟨r', rfl, hl⟩ := Step.run_bind_pure.mp h₂
        exact happens_of_overFrames hd hl
      | whileHolds test =>
        simp only [hcourse] at h₂
        obtain ⟨r', rfl, hl⟩ := Step.run_bind_pure.mp h₂
        exact happens_of_whileHolds hd hl

/-- **Effects keep to the rules**, where the lists inside them do. -/
theorem happens_of_effect (hd : ListsKeep s d) {strategy : Recovery} {a : Action}
    {st st' : ChainState} {es : List Event} {r : Except Failure Flow}
    (h : (effect s (runDepth s d) strategy a).Run st es r st') :
    Happens s (.effect d strategy a) st es r st' := by
  cases a with
  | proceed =>
    obtain ⟨rfl, rfl, rfl⟩ := Step.run_pure.mp h
    exact .proceeded
  | leave =>
    obtain ⟨rfl, rfl, rfl⟩ := Step.run_pure.mp h
    exact .broke
  | wait head duration =>
    obtain ⟨r', rfl, hx⟩ := Step.run_bind_pure.mp h
    obtain ⟨reply, rfl, rfl, rfl⟩ := ((guards_sleep duration).mapError Failure.chain).run.mp hx
    rw [apply_ite (Except.map fun _ => Flow.next)]
    exact .waited reply
  | loop => exact happens_of_loop hd h
  | group => exact happens_of_group hd h
  | _ => exact happens_of_plainly rfl h

/-- What is made of an attempt is its verdict, or another attempt where there is none. -/
theorem run_settle {strategy : Recovery} {a : Action} {left : Nat}
    {again : Nat → Step ChainError Flow} {r₁ : Except Failure Flow} {st st' : ChainState}
    {es : List Event} {r : Except ChainError Flow}
    (h : (settle strategy a (match left with
      | 0 => none
      | left + 1 => some (again left)) r₁).Run st es r st') :
    (∃ r', verdict strategy left a r₁ = some r' ∧ es = [] ∧ r.mapError .chain = r' ∧ st' = st) ∨
      ∃ left', left = left' + 1 ∧ verdict strategy left a r₁ = none ∧
        (again left').Run st es r st' := by
  rcases r₁ with (e | e) | flow
  · cases e with
    | dismissed =>
      -- a prompt turned away ends the chain, whatever the way of recovery
      obtain ⟨rfl, rfl, rfl⟩ := Step.run_throw.mp h
      exact Or.inl ⟨_, rfl, rfl, rfl, rfl⟩
    | _ =>
      cases strategy with
      | skip =>
        obtain ⟨rfl, rfl, rfl⟩ := Step.run_pure.mp h
        exact Or.inl ⟨_, rfl, rfl, rfl, rfl⟩
      | abort =>
        obtain ⟨rfl, rfl, rfl⟩ := Step.run_throw.mp h
        exact Or.inl ⟨_, rfl, rfl, rfl, rfl⟩
      | retry =>
        cases left with
        | zero =>
          obtain ⟨rfl, rfl, rfl⟩ := Step.run_throw.mp h
          exact Or.inl ⟨_, rfl, rfl, rfl, rfl⟩
        | succ left => exact Or.inr ⟨left, rfl, rfl, h⟩
  · obtain ⟨rfl, rfl, rfl⟩ := Step.run_throw.mp h
    exact Or.inl ⟨_, rfl, rfl, rfl, rfl⟩
  · obtain ⟨rfl, rfl, rfl⟩ := Step.run_pure.mp h
    exact Or.inl ⟨_, rfl, rfl, rfl, rfl⟩

/-- **Attempts keep to the rules**, where the effect that is attempted does. -/
theorem happens_of_attempts (hd : ListsKeep s d) {strategy : Recovery} {a : Action}
    {left before : Nat} {st st' : ChainState} {es : List Event} {r : Except ChainError Flow}
    (h : (attempts s strategy a (effect s (runDepth s d) strategy a) left before).Run st es r
      st') :
    Happens s (.attempts d strategy a left before) st es (r.mapError .chain) st' := by
  induction left using Nat.strongRecOn generalizing before st es r st' with
  | ind left ih =>
    unfold attempts at h
    simp only [Step.run_remark_bind, Step.run_outcome_bind, guards_checkToken.run_bind] at h
    obtain ⟨_, rfl, es₁, r₁, st₁, _, rfl, hx, look, ⟨hc, rfl, rfl, rfl⟩ | ⟨hc, es₂, rfl, hk⟩⟩ := h
    · exact .attemptCalledOff look (happens_of_effect hd hx) hc
    · rcases run_settle hk with ⟨_, hv, rfl, rfl, rfl⟩ | ⟨left', rfl, hv, hagain⟩
      · exact .attemptSettled look (happens_of_effect hd hx) hc hv
      · -- the delay comes first, and the token may be cancelled meanwhile
        obtain ⟨reply, ⟨hs, rfl, rfl, rfl⟩ | ⟨hs, es₃, rfl, hr⟩⟩ :=
          (guards_sleep _).run_bind.mp hagain
        · exact .delayCalledOff look reply (happens_of_effect hd hx) hc hv hs
        · exact .triedAgain look reply (happens_of_effect hd hx) hc hv hs
            (ih left' (Nat.lt_succ_self left') hr)

theorem happens_of_performAll (hd : ListsKeep s d) {inherited : Option Recovery}
    {actions : List Action} {st st' : ChainState} {es : List Event} {r : Except ChainError Flow}
    (h : (performAll s (runDepth s d) inherited actions).Run st es r st') :
    Happens s (.list (d + 1) inherited actions) st es (r.mapError .chain) st' := by
  induction actions generalizing st es r st' with
  | nil =>
    obtain ⟨rfl, rfl, rfl⟩ := Step.run_pure.mp h
    exact .listEnded
  | cons a rest ih =>
    unfold performAll at h
    simp only [guards_checkToken.run_bind, Step.run_remark_bind, Step.run_state_bind] at h
    obtain ⟨look, ⟨hc, rfl, rfl, rfl⟩ | ⟨hc, _, rfl, es', rfl, hk⟩⟩ := h
    · exact .listCalledOff look hc
    · obtain ⟨es₀, wanted, st₀, es', rfl, hw, hk⟩ := Step.run_ofTest_bind.mp hk
      cases wanted with
      | false => exact .passedOver look hc hw (ih hk)
      | true =>
        rcases Step.run_bind.mp hk with ⟨e, h₁, rfl⟩ | ⟨es₁, flow, st₁, es₂, rfl, h₁, h₂⟩
        · exact .listLeft look hc hw (happens_of_attempts hd h₁) (by simp)
        · cases flow with
          | leave =>
            obtain ⟨rfl, rfl, rfl⟩ := Step.run_pure.mp h₂
            rw [List.append_nil]
            exact .listLeft look hc hw (happens_of_attempts hd h₁) (by simp)
          | next => exact .listWentOn look hc hw (happens_of_attempts hd h₁) (ih h₂)

theorem listsKeep (s : ChainSetting) (d : Nat) : ListsKeep s d := by
  induction d with
  | zero =>
    intro inherited actions st es r st' h
    obtain ⟨rfl, rfl, rfl⟩ := Step.run_throw.mp h
    exact .tooDeep
  | succ d ih => exact happens_of_performAll ih

/-- **Chains keep to the rules**: whatever the run of a list of actions does, the rules
allow. -/
theorem happens_of_run {inherited : Option Recovery} {actions : List Action}
    {st st' : ChainState} {es : List Event} {r : Except ChainError Flow}
    (h : (runDepth s d inherited actions).Run st es r st') :
    Happens s (.list d inherited actions) st es (r.mapError .chain) st' :=
  listsKeep s d h

/-- **The run of a whole chain** is the remark that it starts, and the run of its actions. -/
theorem run_execute {actions : List Action} {st : ChainState} {es : List Event}
    {x : Outcome × ChainState} (h : (execute s actions st).Run es x) :
    ∃ es' r st', es = .remark (.entered s.form s.token s.session) :: es' ∧
      (runDepth s (depthOf s.form s.config.reach) none actions).Run st es' r st' ∧
      x = (outcomeOf r, { st' with scope := .empty }) := by
  obtain ⟨es', rfl, hrest⟩ := Script.run_remark.mp h
  obtain ⟨es₁, ⟨r, st'⟩, es₂, rfl, hlist, hend⟩ := Script.run_bind.mp hrest
  obtain ⟨rfl, hx⟩ := Script.run_done.mp hend
  exact ⟨es₁, r, st', by rw [List.append_nil], hlist, hx⟩

end Sound

end Chain

end FormChain
