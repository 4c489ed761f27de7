import FormChain.Proofs.Chain.Recovery

/-!
# What a break ends

A break ends the innermost loop that it stands in: out of its list and out of every group
between it and that loop, and no further. The loop is over then, but it has ended like any
other, so the list that the loop stands in goes on behind it. Where there is no loop around a
break, it ends the whole chain, which is no failure.

Nothing happens between a break and what it leads to but looks at the token, one behind the
break itself, one behind each group that is left, and one behind the loop; if one of them
finds that the chain is called off, then it ends so. Behind them it is the list of the loop that
goes on, in the scope that was there around the loop, and what happens to the end of the chain
is what the actions behind the loop do and then the containers around it.

An action that launches a form is never a break, whatever the form does: where the launch is
answered, and be it because the chain of the form was ended by a break, the list goes on.

Main statements, on every attempt in a run: `FormChain.Chain.breaksOut_of_run` for breaks and
`FormChain.Chain.goesOn_of_run` for launches; and that a loop never ends in a break itself,
`FormChain.Chain.Happens.next_of_loop`.
-/

namespace FormChain

/-- Whether an action is a loop. -/
def Action.isLoop : Action → Bool
  | .loop .. => true
  | _ => false

namespace Chain

/-! ### Loops take breaks -/

section Loops

variable {s : ChainSetting} {d : Nat} {strategy : Recovery} {plan : LoopPlan}
  {body : List Action} {st st' : ChainState} {es : List Event} {flow : Flow}

/-- Iterations that do not fail are over. -/
theorem Happens.next_of_iterations {index : Nat} {supply : Supply}
    (h : Happens s (.iterations d strategy plan body index supply) st es (.ok flow) st') :
    flow = .next := by
  generalize ht : Task.iterations d strategy plan body index supply = t at h
  generalize hr : (Except.ok flow : Except Failure Flow) = r at h
  induction h generalizing index supply with
  | loopSpent => exact Except.ok.inj hr
  | loopTestFailed => exact Except.ok.inj hr
  | bodyLeft => exact Except.ok.inj hr
  | bodyWentOn _ _ _ _ _ _ _ ih =>
    obtain ⟨⟩ := ht
    exact ih rfl hr
  | loopCalledOff => cases hr
  | bodyFailed => cases hr
  | _ => cases ht

/-- **A loop never ends in a break.** -/
theorem Happens.next_of_loop {head : Head}
    (h : Happens s (.effect d strategy (.loop head plan body)) st es (.ok flow) st') :
    flow = .next := by
  cases h with
  | plainDone hp _ => cases hp
  | looped _ _ hiterations => exact hiterations.next_of_iterations

end Loops

/-! ### Out of groups, up to a loop -/

section Leaves

variable {s : ChainSetting} {outcome : Outcome} {outward inner outer : List Container}
  {rest : List Action} {d level left : Nat} {st : ChainState} {more : List Event}

/-- A group comes to what its list comes to. -/
theorem Closes.of_group {c : Container} {es : List Event} {r r' : Except Failure Flow}
    {st' : ChainState} (h : Closes s outward c r st es r' st') (hc : c.action.isLoop = false) :
    es = [] ∧ r' = r ∧ st' = st := by
  cases h with
  | group => exact ⟨rfl, rfl, rfl⟩
  | failed => cases hc
  | finished => cases hc
  | wentOn => cases hc

/-- **An action that wants to leave a list** leaves it, if the chain is not called off. -/
theorem Settles.leave
    (h : Settles s outcome outward rest (atLook st (.ok .leave)) st more) :
    (st.cancelled = true ∧ OnlyLooks s more ∧ outcome = .aborted) ∨
      (st.cancelled = false ∧ Finishes s outcome outward (.ok .leave) st more) := by
  unfold atLook at h
  cases hc : st.cancelled with
  | true =>
    rw [if_pos hc] at h
    exact Or.inl ⟨rfl, h.of_cancelled⟩
  | false =>
    rw [hc, if_neg Bool.false_ne_true] at h
    cases h with
    | ended _ hfinishes => exact Or.inr ⟨rfl, hfinishes⟩

/-- A look that leaves the token cancelled has told so, if nothing has before. -/
theorem cancelled_of_look {look : Reply .look} (hst : st.cancelled = false) :
    (st.afterReply look).cancelled = look.cancelled := by
  simp [ChainState.afterReply, hst]

/-- **Where no loop is around**, leaving a list ends the chain. -/
theorem Finishes.ends_chain (h : Finishes s outcome outward (.ok .leave) st more)
    (hloop : ∀ c ∈ outward, c.action.isLoop = false) (hst : st.cancelled = false) :
    OnlyLooks s more ∧
      outcome = if more.any (·.tellsCancelled) then .aborted else .completed := by
  induction outward generalizing st more with
  | nil =>
    generalize hr : (Except.ok Flow.leave : Except Failure Flow) = r at h
    cases h with
    | @chain r' _ houtcome =>
      obtain rfl : r' = .ok .leave := by
        rcases r' with e | flow
        · cases hr
        · rw [Except.ok.inj hr]
      exact ⟨List.forall_mem_nil _, houtcome⟩
  | cons c outward ih =>
    cases h with
    | closed look hcloses hsettles =>
      obtain ⟨hc, hloop⟩ := List.forall_mem_cons.mp hloop
      obtain ⟨rfl, rfl, rfl⟩ := hcloses.of_group hc
      rw [List.nil_append]
      rcases hsettles.leave with ⟨hcancel, hlooks, houtcome⟩ | ⟨hcancel, hfinishes⟩
      · rw [cancelled_of_look hst] at hcancel
        refine ⟨hlooks.cons look, ?_⟩
        rwa [any_of_look hcancel, if_pos rfl]
      · obtain ⟨hlooks, houtcome⟩ := ih hfinishes hloop hcancel
        rw [cancelled_of_look hst] at hcancel
        refine ⟨hlooks.cons look, ?_⟩
        rwa [any_behind_look hcancel]

/-- **The loop around a list that was left is over**: behind as many looks as containers were
left, the list that the loop stands in goes on, in the scope that was there before the loop; or
one of these looks finds that the chain is called off. -/
def EndsLoop (s : ChainSetting) (outcome : Outcome) (outer : List Container)
    (rest : List Action) (level left : Nat) (st : ChainState) (more : List Event) : Prop :=
  ∃ (looks : List (Reply .look)) (more' : List Event), more = looks.map (looked s) ++ more' ∧
    if looks.any (·.cancelled) then OnlyLooks s more' ∧ outcome = .aborted
    else looks.length = left ∧ Resumes s outcome outer rest
      ((looks.foldl (fun st look => st.afterReply look) st).cutBack level) more'

/-- A look that finds the chain called off. -/
theorem endsLoop_calledOff (look : Reply .look) (hcancel : look.cancelled = true)
    (hlooks : OnlyLooks s more) (houtcome : outcome = .aborted) :
    EndsLoop s outcome outer rest level left st (looked s look :: more) := by
  refine ⟨[look], more, rfl, ?_⟩
  rw [List.any_cons, hcancel, Bool.true_or, if_pos rfl]
  exact ⟨hlooks, houtcome⟩

/-- One more look in front. -/
theorem EndsLoop.behind (look : Reply .look) (hcancel : look.cancelled = false)
    (h : EndsLoop s outcome outer rest level left (st.afterReply look) more) :
    EndsLoop s outcome outer rest level (left + 1) st (looked s look :: more) := by
  obtain ⟨looks, more, rfl, h⟩ := h
  refine ⟨look :: looks, more, rfl, ?_⟩
  rwa [List.any_cons, hcancel, Bool.false_or, List.length_cons, Nat.add_right_cancel_iff]

/-- **The innermost loop ends**, and no other, where its list is left. -/
theorem Finishes.ends_loop {head : Head} {plan : LoopPlan} {body : List Action} {next : Nat}
    {supply : Supply}
    (h : Finishes s outcome (inner ++ .loop head plan body rest next supply level :: outer)
      (.ok .leave) st more)
    (hinner : ∀ c ∈ inner, c.action.isLoop = false) (hroom : roomIn s outer = d + 1)
    (hst : st.cancelled = false) :
    EndsLoop s outcome outer rest level (inner.length + 1) st more := by
  induction inner generalizing st more with
  | nil =>
    cases h with
    | closed look hcloses hsettles =>
      cases hcloses
      rw [List.nil_append]
      have hcancelled : ((st.cutBack level).afterReply look).cancelled = look.cancelled :=
        cancelled_of_look hst
      unfold atLook at hsettles
      rw [hcancelled] at hsettles
      cases hcancel : look.cancelled with
      | true =>
        rw [hcancel, if_pos rfl] at hsettles
        obtain ⟨hlooks, houtcome⟩ := hsettles.of_cancelled
        exact endsLoop_calledOff look hcancel hlooks houtcome
      | false =>
        rw [hcancel, if_neg Bool.false_ne_true] at hsettles
        refine ⟨[look], _, rfl, ?_⟩
        rw [List.any_cons, hcancel, List.any_nil, Bool.or_false, if_neg Bool.false_ne_true]
        exact ⟨rfl, hsettles.resumes hroom⟩
  | cons c inner ih =>
    cases h with
    | closed look hcloses hsettles =>
      obtain ⟨hc, hinner⟩ := List.forall_mem_cons.mp hinner
      obtain ⟨rfl, rfl, rfl⟩ := hcloses.of_group hc
      rw [List.nil_append]
      rcases hsettles.leave with ⟨hcancel, hlooks, houtcome⟩ | ⟨hcancel, hfinishes⟩
      · rw [cancelled_of_look hst] at hcancel
        exact endsLoop_calledOff look hcancel hlooks houtcome
      · have hends := ih hfinishes hinner hcancel
        rw [cancelled_of_look hst] at hcancel
        exact hends.behind look hcancel

end Leaves

/-! ### Containers that a chain has come into -/

/-- **A container has been come into**: an attempt of it has started among some events, with
some actions behind it in its list. -/
def CameInto (s : ChainSetting) (actions : List Action) (start : ChainState) (a : Action)
    (rest : List Action) (outward : List Container) (es : List Event) : Prop :=
  ∃ front n st, front ++ [.remark (.attempt a n st)] <+: es ∧
    ComesTo s actions start front outward (.attempt a rest n) st

section CameInto

variable {s : ChainSetting} {actions rest : List Action} {start st : ChainState} {a : Action}
  {outward : List Container} {es es' : List Event} {p : Point}

theorem CameInto.append (h : CameInto s actions start a rest outward es) :
    CameInto s actions start a rest outward (es ++ es') := by
  obtain ⟨front, n, st, hfront, hcomes⟩ := h
  exact ⟨front, n, st, hfront.trans (List.prefix_append _ _), hcomes⟩

/-- A container that has just been come into, or one around it. -/
theorem cameInto_cons {c c' : Container} {inner outer : List Container}
    (hc : CameInto s actions start c.action c.rest outward (es ++ es'))
    (hall : ∀ inner c outer, outward = inner ++ c :: outer →
      CameInto s actions start c.action c.rest outer es)
    (heq : c :: outward = inner ++ c' :: outer) :
    CameInto s actions start c'.action c'.rest outer (es ++ es') := by
  cases inner with
  | nil =>
    obtain ⟨rfl, rfl⟩ := List.cons.inj heq
    exact hc
  | cons b inner => exact (hall inner c' outer (List.cons.inj heq).2).append

/-- **A chain has come into the containers that it is in**, and into the loop whose iterations it
has come to. -/
theorem ComesTo.cameInto (h : ComesTo s actions start es outward p st) :
    (∀ inner c outer, outward = inner ++ c :: outer →
      CameInto s actions start c.action c.rest outer es) ∧
    ∀ head plan body rest index supply, p = .iterations head plan body rest index supply →
      CameInto s actions start (.loop head plan body) rest outward es := by
  induction h with
  | started => exact ⟨by simp, by simp⟩
  | passedOver _ _ _ _ ih => exact ⟨fun i c o heq => (ih.1 i c o heq).append, by simp⟩
  | reached _ _ _ _ ih => exact ⟨fun i c o heq => (ih.1 i c o heq).append, by simp⟩
  | wentOn _ _ _ ih => exact ⟨fun i c o heq => (ih.1 i c o heq).append, by simp⟩
  | triedAgain _ _ _ _ _ _ _ _ _ ih => exact ⟨fun i c o heq => (ih.1 i c o heq).append, by simp⟩
  | grouped hcomes _ ih =>
    refine ⟨fun i c o heq => cameInto_cons ?_ ih.1 heq, by simp⟩
    exact ⟨_, _, _, List.prefix_rfl, hcomes⟩
  | looped hcomes _ _ ih =>
    refine ⟨fun i c o heq => (ih.1 i c o heq).append, fun _ _ _ _ _ _ heq => ?_⟩
    obtain ⟨rfl, rfl, rfl, rfl, -, -⟩ := Point.iterations.inj heq
    exact ⟨_, _, _, List.prefix_rfl, hcomes⟩
  | iterated _ _ _ _ _ ih =>
    refine ⟨fun i c o heq => cameInto_cons ?_ ih.1 heq, by simp⟩
    exact (ih.2 _ _ _ _ _ _ rfl).append
  | loopedOn _ _ _ _ _ _ _ ih =>
    refine ⟨fun i c o heq => (ih.1 i c o heq).append, fun _ _ _ _ _ _ heq => ?_⟩
    obtain ⟨rfl, rfl, rfl, rfl, -, -⟩ := Point.iterations.inj heq
    exact (ih.2 _ _ _ _ _ _ rfl).append

/-- There is room in the containers around a container. -/
theorem exists_roomIn {d : Nat} {inner outer : List Container} {c : Container}
    (h : roomIn s (inner ++ c :: outer) = d + 1) : ∃ d', roomIn s outer = d' + 1 := by
  rw [roomIn, List.length_append, List.length_cons] at h
  exact ⟨roomIn s outer - 1, by rw [roomIn]; omega⟩

end CameInto

/-! ### Breaks -/

/-- **What a break ends**, by the containers that it stands in: the whole chain, if none of them
is a loop, and else the innermost loop. -/
def BreaksOut (s : ChainSetting) (actions : List Action) (start : ChainState) (outcome : Outcome)
    (front : List Event) (head : Head) (before : Nat) (st : ChainState) (back : List Event) :
    Prop :=
  ∃ outward rest look more,
    ComesTo s actions start front outward (.attempt (.leave head) rest before) st ∧
    back = looked s look :: more ∧
    if (st.afterReply look).cancelled then OnlyLooks s more ∧ outcome = .aborted
    else
      ((∀ c ∈ outward, c.action.isLoop = false) → OnlyLooks s more ∧
        outcome = if more.any (·.tellsCancelled) then .aborted else .completed) ∧
      ∀ inner head plan body rest next supply level outer,
        outward = inner ++ .loop head plan body rest next supply level :: outer →
        (∀ c ∈ inner, c.action.isLoop = false) →
        CameInto s actions start (.loop head plan body) rest outer front ∧
          EndsLoop s outcome outer rest level (inner.length + 1) (st.afterReply look) more

section Runs

variable {s : ChainSetting} {actions : List Action} {start st st' : ChainState}
  {es front back : List Event} {outcome : Outcome} {before : Nat}

/-- **The first of some attempts**: where its effect does not fail it is the only one, and the
look behind it settles whether the chain is called off. -/
theorem Happens.first_attempt {a : Action} {d left : Nat} {strategy : Recovery}
    {r : Except Failure Flow}
    (h : Happens s (.attempts d strategy a left before) st es r st') :
    ∃ own r₁ st₁ look es', es = .remark (.attempt a before st) :: (own ++ looked s look :: es') ∧
      Happens s (.effect d strategy a) st own r₁ st₁ ∧
      ∀ flow, r₁ = .ok flow → es' = [] ∧ st' = st₁.afterReply look ∧ r = atLook st' (.ok flow) := by
  cases h with
  | attemptCalledOff look heffect hc =>
    exact ⟨_, _, _, look, [], rfl, heffect, fun _ _ => ⟨rfl, rfl, by rw [atLook, if_pos hc]⟩⟩
  | attemptSettled look heffect hc hv =>
    refine ⟨_, _, _, look, [], rfl, heffect, fun flow hr => ⟨rfl, rfl, ?_⟩⟩
    rw [hr] at hv
    rw [atLook, hc, if_neg Bool.false_ne_true]
    exact (Option.some.inj hv).symm
  | delayCalledOff look sleep heffect _ hv _ =>
    refine ⟨_, _, _, look, _, rfl, heffect, fun flow hr => ?_⟩
    rw [hr] at hv
    cases hv
  | triedAgain look sleep heffect _ hv _ _ =>
    refine ⟨_, _, _, look, _, rfl, heffect, fun flow hr => ?_⟩
    rw [hr] at hv
    cases hv

/-- The attempts of a break are a single one, and a look behind it, which either finds that the
chain is called off or leaves the list. -/
theorem Happens.attempts_leave {d left : Nat} {strategy : Recovery} {head : Head}
    {r : Except Failure Flow}
    (h : Happens s (.attempts d strategy (.leave head) left before) st es r st') :
    ∃ look, es = [.remark (.attempt (.leave head) before st), looked s look] ∧
      st' = st.afterReply look ∧ r = atLook st' (.ok .leave) := by
  obtain ⟨own, r₁, st₁, look, es', rfl, heffect, hsettled⟩ := h.first_attempt
  have hbroke : own = [] ∧ r₁ = .ok .leave ∧ st₁ = st := by
    cases heffect with
    | plainDone hp _ => cases hp
    | plainFailed hp _ => cases hp
    | broke => exact ⟨rfl, rfl, rfl⟩
  obtain ⟨rfl, rfl, rfl⟩ := hbroke
  obtain ⟨rfl, hst', hr⟩ := hsettled _ rfl
  exact ⟨look, rfl, hst', hr⟩

/-- **Every break ends just what it has to end.** -/
theorem breaksOut_of_run (h : (execute s actions start).Run es (outcome, st')) {head : Head}
    (hes : es = front ++ .remark (.attempt (.leave head) before st) :: back) :
    BreaksOut s actions start outcome front head before st back := by
  obtain ⟨outward, rest, d, left, row, r, st₁, more, hcomes, hroom, -, hrow, hhappens, hsettles⟩ :=
    continued_of_run h front _ before st back hes
  rw [List.append_nil] at hrow
  rw [List.nil_append] at hcomes
  obtain ⟨look, rfl, rfl, rfl⟩ := hhappens.attempts_leave
  refine ⟨outward, rest, look, more, hcomes, (List.cons.inj hrow).2, ?_⟩
  rcases hsettles.leave with ⟨hcancel, hlooks, houtcome⟩ | ⟨hcancel, hfinishes⟩
  · rw [if_pos hcancel]
    exact ⟨hlooks, houtcome⟩
  · rw [hcancel, if_neg Bool.false_ne_true]
    refine ⟨fun hloop => hfinishes.ends_chain hloop hcancel, ?_⟩
    rintro inner head' plan body rest' next supply level outer rfl hinner
    obtain ⟨d', hd'⟩ := exists_roomIn hroom
    exact ⟨hcomes.cameInto.1 _ _ _ rfl, hfinishes.ends_loop hinner hd' hcancel⟩

/-! ### Launches -/

/-- **What a launch does**: it puts a single question, if forms can be launched at all, and its
answer decides. -/
theorem Happens.effect_button {d : Nat} {strategy : Recovery} {head : Head} {path : String}
    {mode : ButtonMode} {r : Except Failure Flow}
    (h : Happens s (.effect d strategy (.button head path mode)) st es r st') :
    es = [] ∨ ∃ path' reply seed, es = [.exchange s.token (.launch path' mode s.session) reply] ∧
      (reply.answer = .ok () → r = .ok .next ∧
        st' = ({ st with seed } : ChainState).afterReply reply) := by
  have hbutton : ∃ answer, (Effect.button s path mode).Run st es answer st' ∧
      (answer = .ok () → r = .ok .next) := by
    cases h with
    | plainDone hp hx =>
      obtain rfl := Option.some.inj hp
      exact ⟨_, hx, fun _ => rfl⟩
    | plainFailed hp hx =>
      obtain rfl := Option.some.inj hp
      exact ⟨_, hx, nofun⟩
  obtain ⟨answer, hrun, hr⟩ := hbutton
  unfold Effect.button at hrun
  split at hrun
  · obtain ⟨rfl, -, -⟩ := Step.run_throw.mp hrun
    exact Or.inl rfl
  · rcases Step.run_bind.mp hrun with ⟨e, hexpand, -⟩ | ⟨_, path', st₁, _, rfl, hexpand, hask⟩
    · obtain ⟨-, he, -⟩ := Step.run_drawing.mp hexpand
      cases he
    · obtain ⟨rfl, -, rfl⟩ := Step.run_drawing.mp hexpand
      obtain ⟨reply, _, rfl, hanswer⟩ := Step.run_ask_bind.mp hask
      obtain ⟨rfl, rfl, rfl⟩ := Step.run_ofExcept.mp hanswer
      exact Or.inr ⟨path', reply, _, rfl, fun hok => ⟨hr hok, rfl⟩⟩

/-- **Behind a launch that is answered the list goes on**, unless the chain is called off by
then. -/
def GoesOn (s : ChainSetting) (actions : List Action) (start : ChainState) (outcome : Outcome)
    (front : List Event) (a : Action) (before : Nat) (st : ChainState) (back : List Event) : Prop :=
  ∃ outward rest, ComesTo s actions start front outward (.attempt a rest before) st ∧
    ∀ path mode (reply : Reply (.launch path mode s.session)) more,
      back = .exchange s.token (.launch path mode s.session) reply :: more →
      reply.answer = .ok () → ∃ seed look more', more = looked s look :: more' ∧
        let st' := (({ st with seed } : ChainState).afterReply reply).afterReply look
        if st'.cancelled then OnlyLooks s more' ∧ outcome = .aborted
        else Resumes s outcome outward rest st' more'

/-- **No launch that is answered ends anything** in the chain that it belongs to. -/
theorem goesOn_of_run (h : (execute s actions start).Run es (outcome, st')) {head : Head}
    {path : String} {mode : ButtonMode}
    (hes : es = front ++ .remark (.attempt (.button head path mode) before st) :: back) :
    GoesOn s actions start outcome front (.button head path mode) before st back := by
  obtain ⟨outward, rest, d, left, row, r, st', more, hcomes, hroom, -, hrow, hhappens,
    hsettles⟩ := continued_of_run h front _ before st back hes
  rw [List.append_nil] at hrow
  rw [List.nil_append] at hcomes
  refine ⟨outward, rest, hcomes, fun path' mode' reply more' hback hanswer => ?_⟩
  obtain ⟨own, r₁, st₁, look, es', rfl, heffect, hsettled⟩ := hhappens.first_attempt
  have hbehind : back = own ++ looked s look :: (es' ++ more) := by
    simpa using (List.cons.inj hrow).2
  rw [hback] at hbehind
  rcases heffect.effect_button with rfl | ⟨path₁, reply₁, seed, rfl, hanswered⟩
  · exact absurd (List.cons.inj hbehind).1 nofun
  · obtain ⟨hevent, hmore⟩ := List.cons.inj hbehind
    cases hevent
    obtain ⟨rfl, rfl⟩ := hanswered hanswer
    obtain ⟨rfl, rfl, rfl⟩ := hsettled _ rfl
    refine ⟨seed, look, more, hmore, ?_⟩
    dsimp only
    split
    case isTrue hc =>
      rw [atLook, if_pos hc] at hsettles
      exact hsettles.of_cancelled
    case isFalse hc =>
      rw [atLook, if_neg hc] at hsettles
      exact hsettles.resumes hroom

end Runs

end Chain

end FormChain
