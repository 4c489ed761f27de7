import FormChain.Proofs.Chain.Adequacy

/-!
# Where actions run

The scope of loops is a stack that only loops touch: they put a frame on it for each
iteration and cut it back behind the body. So wherever a chain has come to, the scope is
that of the action around it, and one frame more in the body of a loop.

What a chain does on its way is told by its remarks, each with the state it was made in, and
by the files that its conditions have decoded. The relation `FormChain.Chain.Tale` says what can
be told of a part of a chain that starts in some scope, part by part: actions of one list are
reached, tested and attempted in the scope of the list, the members of a group in the scope of
the group, and the actions of a loop in the scope of the loop with the frame of the iteration on
it.

Main statement: whatever the surroundings do, a list of actions and every action gives
the scope back as it was, and what happens on the way is such a tale
(`FormChain.Chain.keeps_scope`).
-/

namespace FormChain

/-! ### Tales -/

/-- Whether a tale tells of an event: of all remarks, and of files that are decoded. -/
def Event.isTold : Event → Bool
  | remark _ => true
  | exchange _ (.decode _) _ => true
  | exchange .. => false

/-- What is told of events. -/
def toldOf (es : List Event) : List Event :=
  es.filter (·.isTold)

@[simp] theorem toldOf_nil : toldOf [] = [] := rfl

@[simp] theorem toldOf_remark (r : Remark) (es : List Event) :
    toldOf (.remark r :: es) = .remark r :: toldOf es := rfl

@[simp] theorem toldOf_look (token : Token) (reply : Reply .look) (es : List Event) :
    toldOf (.exchange token .look reply :: es) = toldOf es := rfl

@[simp] theorem toldOf_sleep (token : Token) {duration : Nat} (reply : Reply (.sleep duration))
    (es : List Event) : toldOf (.exchange token (.sleep duration) reply :: es) = toldOf es := rfl

@[simp] theorem toldOf_append (es es' : List Event) :
    toldOf (es ++ es') = toldOf es ++ toldOf es' := by
  simp [toldOf]

/-- A remark is told of. -/
theorem mem_toldOf_of_remark {es : List Event} {r : Remark} (h : .remark r ∈ es) :
    .remark r ∈ toldOf es :=
  List.mem_filter.mpr ⟨h, rfl⟩

/-- All that a test does is told. -/
theorem Decodes.toldOf_eq {s : ChainSetting} {st st' : ChainState} {es : List Event}
    (h : Decodes s st es st') : toldOf es = es := by
  refine List.filter_eq_self.mpr fun e he => ?_
  obtain ⟨file, reply, rfl⟩ := h.exchange_of_mem he
  rfl

/-- Nothing is told of what an effect does. -/
theorem Conduct.toldOf_eq {s : ChainSetting} {st st' : ChainState} {es : List Event}
    {f : Option ActionError} (h : Conduct s st es f st') : toldOf es = [] := by
  refine List.filter_eq_nil_iff.mpr fun e he => ?_
  obtain ⟨c, reply, rfl, hc⟩ := h.exchange_of_mem he
  cases c with
  | decode file => cases hc
  | _ => exact nofun

/-- **The frame of an iteration** by its number, in a loop that runs some way, and what happens
in front of the iteration: the frame is the one laid out for it, or one under which the test
holds. The test is made in the scope of the iteration. -/
def LoopCourse.Gives (s : ChainSetting) (plan : LoopPlan) (index : Nat) (es : List Event)
    (st : ChainState) (f : Frame) : LoopCourse → Prop
  | .frames fs => fs[index]? = some f ∧ es = []
  | .whileHolds test => f = plan.frame index none [] ∧
      ∃ tested, tested.scope = st.scope ∧ Chain.Tests s test tested es true st

/-- In front of an iteration nothing is remarked on. -/
theorem LoopCourse.Gives.remark_notMem {s : ChainSetting} {plan : LoopPlan} {index : Nat}
    {es : List Event} {st : ChainState} {f : Frame} {course : LoopCourse}
    (h : course.Gives s plan index es st f) {r : Remark} : .remark r ∉ es := by
  cases course with
  | frames fs =>
    obtain ⟨-, rfl⟩ := h
    exact List.not_mem_nil
  | whileHolds test =>
    obtain ⟨-, tested, -, htest⟩ := h
    exact htest.decodes.remark_notMem

namespace Chain

/-- **What can be told of.** -/
inductive Part where
  /-- A list of actions. -/
  | list (actions : List Action)
  /-- The attempts of an action, with some attempts before them. -/
  | attempts (a : Action) (before : Nat)
  /-- What an action holds. -/
  | inside (a : Action)
  /-- The iterations of a loop, from some number on. -/
  | iterations (plan : LoopPlan) (body : List Action) (course : LoopCourse) (index : Nat)

/-- **What is told of a part of a chain** that starts in some scope. A part can break off in
front of every action, every further attempt and every iteration. -/
inductive Tale (s : ChainSetting) : Part → Scope → List Event → Prop where
  /-- No further action is reached. -/
  | listOver {actions : List Action} {scope : Scope} : Tale s (.list actions) scope []
  /-- An action is passed over, as its condition does not hold in the state reached. -/
  | passedOver {a : Action} {rest : List Action} {scope : Scope} {st st₀ : ChainState}
    {es₀ es : List Event} :
    st.scope = scope → Wants s a st es₀ false st₀ → Tale s (.list rest) scope es →
    Tale s (.list (a :: rest)) scope (.remark (.reached a st) :: (es₀ ++ es))
  /-- An action is carried out, as its condition holds in the state reached. -/
  | carriedOut {a : Action} {rest : List Action} {scope : Scope} {st st₀ : ChainState}
    {es₀ es es' : List Event} :
    st.scope = scope → Wants s a st es₀ true st₀ → Tale s (.attempts a 0) scope es →
    Tale s (.list rest) scope es' →
    Tale s (.list (a :: rest)) scope (.remark (.reached a st) :: (es₀ ++ (es ++ es')))
  /-- An action is attempted for the last time. -/
  | lastAttempt {a : Action} {before : Nat} {scope : Scope} {st : ChainState}
    {es : List Event} :
    st.scope = scope → Tale s (.inside a) scope es →
    Tale s (.attempts a before) scope (.remark (.attempt a before st) :: es)
  /-- An action is attempted, and then again. -/
  | attempted {a : Action} {before : Nat} {scope : Scope} {st : ChainState}
    {es es' : List Event} :
    st.scope = scope → Tale s (.inside a) scope es → Tale s (.attempts a (before + 1)) scope es' →
    Tale s (.attempts a before) scope (.remark (.attempt a before st) :: (es ++ es'))
  /-- An action does nothing to remark on. -/
  | silent {a : Action} {scope : Scope} : Tale s (.inside a) scope []
  /-- The members of a group run in the scope of the group. -/
  | grouped {head : Head} {id : Option String} {members actual : List Action}
    {named : Option Recovery} {scope : Scope} {es : List Event} :
    membersOf s.form id members = .ok (actual, named) → Tale s (.list actual) scope es →
    Tale s (.inside (.group head id members)) scope es
  /-- A loop takes its source in its own scope, and has its iterations. -/
  | looped {head : Head} {plan : LoopPlan} {body : List Action} {source : Option Value}
    {course : LoopCourse} {scope : Scope} {st st' : ChainState} {es : List Event} :
    st.scope = scope → (sourceOf plan).Run st [] (.ok source) st' →
    plan.course s.config source = .ok course →
    Tale s (.iterations plan body course 0) scope es →
    Tale s (.inside (.loop head plan body)) scope es
  /-- There is no further iteration. -/
  | loopOver {plan : LoopPlan} {body : List Action} {course : LoopCourse} {index : Nat}
    {scope : Scope} : Tale s (.iterations plan body course index) scope []
  /-- The test of a loop does not hold, in the scope of the loop and the frame of the iteration
  that would have come. -/
  | loopEnded {plan : LoopPlan} {body : List Action} {test : Filter} {index : Nat}
    {scope : Scope} {st st₀ : ChainState} {es : List Event} :
    st.scope = scope.push (plan.frame index none []) → index < plan.cap s.config →
    Tests s test st es false st₀ →
    Tale s (.iterations plan body (.whileHolds test) index) scope es
  /-- **The body runs in the scope of the loop and the frame of the iteration.** -/
  | iterated {plan : LoopPlan} {body : List Action} {course : LoopCourse} {index : Nat}
    {scope : Scope} {f : Frame} {st : ChainState} {es₀ es es' : List Event} :
    st.scope = scope.push f → index < plan.cap s.config → course.Gives s plan index es₀ st f →
    Tale s (.list body) (scope.push f) es →
    Tale s (.iterations plan body course (index + 1)) scope es' →
    Tale s (.iterations plan body course index) scope
      (es₀ ++ .remark (.iteration plan index st) :: (es ++ es'))

section Breaking

variable {s : ChainSetting} {scope : Scope} {st st₀ : ChainState} {es₀ es : List Event}

/-- An action that is carried out may be the last one reached. -/
theorem Tale.carriedOutLast {a : Action} {rest : List Action} (hst : st.scope = scope)
    (hw : Wants s a st es₀ true st₀) (h : Tale s (.attempts a 0) scope es) :
    Tale s (.list (a :: rest)) scope (.remark (.reached a st) :: (es₀ ++ es)) := by
  simpa using Tale.carriedOut hst hw h .listOver

/-- An iteration may be the last one. -/
theorem Tale.iteratedLast {plan : LoopPlan} {body : List Action} {course : LoopCourse}
    {index : Nat} {f : Frame} (hst : st.scope = scope.push f)
    (hcap : index < plan.cap s.config) (hf : course.Gives s plan index es₀ st f)
    (h : Tale s (.list body) (scope.push f) es) :
    Tale s (.iterations plan body course index) scope
      (es₀ ++ .remark (.iteration plan index st) :: es) := by
  simpa using Tale.iterated hst hcap hf h .loopOver

end Breaking

/-! ### The scope behind a task -/

section Scope

variable {s : ChainSetting} {t : Task} {st st₁ st' : ChainState} {es : List Event}
  {r : Except Failure Flow}

/-- Cutting back undoes the entering of an iteration, whatever has kept the scope since. -/
theorem scope_cutBack_of_enter {st₀ : ChainState} {f : Frame} (h₀ : st₀.scope = st.scope)
    (h : st₁.scope = (st₀.enter f).scope) : (st₁.cutBack st.scope.depth).scope = st.scope := by
  have hpush : st₁.scope = st.scope.push f := h.trans (congrArg (·.push f) h₀)
  simp [ChainState.cutBack, hpush]

/-- With a frame entered, the scope has it on top. -/
theorem scope_enter {f : Frame} {scope : Scope} (h : st.scope = scope) :
    (st.enter f).scope = scope.push f :=
  congrArg (·.push f) h

/-- The source of a loop leaves the scope alone. -/
theorem scope_sourceOf {plan : LoopPlan} {source : Except ActionError (Option Value)}
    (h : (sourceOf plan).Run st es source st') : st'.scope = st.scope := by
  obtain ⟨-, -, seed, rfl⟩ := run_sourceOf h
  rfl

/-- **Every task gives the scope back as it was.** -/
theorem Happens.scope_eq (h : Happens s t st es r st') : st'.scope = st.scope := by
  induction h with
  | passedOver look _ hw _ ih => exact ih.trans hw.decodes.scope_eq
  | listLeft look _ hw _ _ ih => exact ih.trans hw.decodes.scope_eq
  | listWentOn look _ hw _ _ ih₁ ih₂ => exact (ih₂.trans ih₁).trans hw.decodes.scope_eq
  | attemptCalledOff look _ _ ih => exact ih
  | attemptSettled look _ _ _ ih => exact ih
  | delayCalledOff look sleep _ _ _ _ ih => exact ih
  | triedAgain look sleep _ _ _ _ _ ih₁ ih₂ => exact ih₂.trans ih₁
  | plainDone hp hx => exact (conducts_plainEffect hp _ _ _ _ hx).scope_eq
  | plainFailed hp hx => exact (conducts_plainEffect hp _ _ _ _ hx).scope_eq
  | grouped _ _ ih => exact ih
  | loopMisused hsource => exact scope_sourceOf hsource
  | looped hsource _ _ ih => exact ih.trans (scope_sourceOf hsource)
  | loopTestFailed look _ _ hn => exact hn.decodes.scope_eq
  -- the frame of the iteration is on the scope behind the body, and comes off
  | bodyFailed look _ _ hn _ ih => exact scope_cutBack_of_enter hn.decodes.scope_eq ih
  | bodyLeft look _ _ hn _ ih => exact scope_cutBack_of_enter hn.decodes.scope_eq ih
  | bodyWentOn look _ _ hn _ _ ih₁ ih₂ =>
    exact ih₂.trans (scope_cutBack_of_enter hn.decodes.scope_eq ih₁)
  | _ => rfl

end Scope

/-! ### Supplies and the frames of iterations -/

/-- What is left of the supply of a loop in front of an iteration. -/
def supplyFrom (cap : Nat) (course : LoopCourse) (index : Nat) : Supply :=
  match course with
  | .frames fs => .frames ((fs.take cap).drop index)
  | .whileHolds test => .whileHolds test (cap - index)

theorem supplyFrom_zero (cap : Nat) (course : LoopCourse) :
    supplyFrom cap course 0 = supplyOf cap course := by
  cases course <;> rfl

section Supplies

variable {s : ChainSetting} {plan : LoopPlan} {cap index : Nat} {course : LoopCourse}
  {st st₀ : ChainState} {es₀ : List Event}

/-- **The supply of a loop gives every iteration its own frame**, and no more of them than
the cap allows. -/
theorem gives_of_supplyFrom {f : Frame} {rest : Supply}
    (h : (supplyFrom cap course index).Gives s plan index st es₀ (some (f, rest)) st₀) :
    index < cap ∧ course.Gives s plan index es₀ (st₀.enter f) f ∧
      rest = supplyFrom cap course (index + 1) := by
  generalize hsupply : supplyFrom cap course index = supply at h
  cases course with
  | frames fs =>
    rw [supplyFrom] at hsupply
    subst hsupply
    generalize hd : (fs.take cap).drop index = left at h
    cases h with
    | frame =>
      have hat : (fs.take cap)[index]? = some f := by
        rw [← List.head?_drop, hd, List.head?_cons]
      have hcap : index < cap := by
        have := (List.getElem?_eq_some_iff.mp hat).1
        rw [List.length_take] at this
        omega
      refine ⟨hcap, ⟨?_, rfl⟩, ?_⟩
      · rwa [List.getElem?_take_of_lt hcap] at hat
      · rw [supplyFrom, ← List.tail_drop, hd, List.tail_cons]
  | whileHolds test =>
    rw [supplyFrom] at hsupply
    cases h with
    | frame => cases hsupply
    | @held _ left _ _ _ htest =>
      obtain ⟨rfl, hleft⟩ := Supply.whileHolds.inj hsupply
      refine ⟨by omega, ⟨rfl, _, htest.decodes.scope_eq.symm, htest⟩, ?_⟩
      rw [supplyFrom, show cap - (index + 1) = left by omega]

/-- A supply that has not run out and gives no frame has a test, which does not hold in the scope
of the iteration that would have come. -/
theorem fails_of_supplyFrom
    (h : (supplyFrom cap course index).Gives s plan index st es₀ none st₀) :
    index < cap ∧ ∃ test st₁, course = .whileHolds test ∧
      Tests s test (st.enter (plan.frame index none [])) es₀ false st₁ := by
  generalize hsupply : supplyFrom cap course index = supply at h
  cases h with
  | failed htest =>
    cases course with
    | frames fs => cases hsupply
    | whileHolds test =>
      obtain ⟨rfl, hleft⟩ := Supply.whileHolds.inj hsupply
      exact ⟨by omega, _, _, rfl, htest⟩

end Supplies

/-! ### The tale of a task -/

section Tale

variable {s : ChainSetting} {t : Task} {st st' : ChainState} {es : List Event}
  {r : Except Failure Flow}

/-- **The tale of a task** that starts in some scope. -/
def Told (s : ChainSetting) (scope : Scope) (told : List Event) : Task → Prop
  | .list _ _ actions => Tale s (.list actions) scope told
  | .attempts _ _ a _ before => Tale s (.attempts a before) scope told
  | .effect _ _ a => Tale s (.inside a) scope told
  | .iterations _ _ plan body index supply =>
    ∀ course, supply = supplyFrom (plan.cap s.config) course index →
      Tale s (.iterations plan body course index) scope told

/-- **What is told of a task is its tale**: by induction on the rules, where what goes
before has given the scope back. -/
theorem Happens.told (h : Happens s t st es r st') : Told s st.scope (toldOf es) t := by
  induction h with
  | tooDeep => exact .listOver
  | listEnded => exact .listOver
  | listCalledOff => exact .listOver
  | passedOver look _ hw _ ih =>
    rw [hw.decodes.scope_eq] at ih
    simp only [toldOf_look, toldOf_remark, toldOf_append, hw.decodes.toldOf_eq]
    exact .passedOver rfl hw ih
  | listLeft look _ hw _ _ ih =>
    rw [hw.decodes.scope_eq] at ih
    simp only [toldOf_look, toldOf_remark, toldOf_append, hw.decodes.toldOf_eq]
    exact .carriedOutLast rfl hw ih
  | listWentOn look _ hw h₁ _ ih₁ ih₂ =>
    -- the list goes on in the scope that the action has given back
    rw [hw.decodes.scope_eq] at ih₁
    rw [h₁.scope_eq, hw.decodes.scope_eq] at ih₂
    simp only [toldOf_look, toldOf_remark, toldOf_append, hw.decodes.toldOf_eq]
    exact .carriedOut rfl hw ih₁ ih₂
  | attemptCalledOff look _ _ ih =>
    simp only [toldOf_remark, toldOf_append, toldOf_look, toldOf_nil, List.append_nil]
    exact .lastAttempt rfl ih
  | attemptSettled look _ _ _ ih =>
    simp only [toldOf_remark, toldOf_append, toldOf_look, toldOf_nil, List.append_nil]
    exact .lastAttempt rfl ih
  | delayCalledOff look sleep _ _ _ _ ih =>
    simp only [toldOf_remark, toldOf_append, toldOf_look, toldOf_sleep, toldOf_nil,
      List.append_nil]
    exact .lastAttempt rfl ih
  | triedAgain look sleep h₁ _ _ _ _ ih₁ ih₂ =>
    simp only [toldOf_remark, toldOf_append, toldOf_look, toldOf_sleep]
    refine .attempted rfl ih₁ ?_
    rw [← h₁.scope_eq]
    exact ih₂
  | plainDone hp hx =>
    rw [(conducts_plainEffect hp _ _ _ _ hx).toldOf_eq]
    exact .silent
  | plainFailed hp hx =>
    rw [(conducts_plainEffect hp _ _ _ _ hx).toldOf_eq]
    exact .silent
  | proceeded => exact .silent
  | broke => exact .silent
  | waited => exact .silent
  | groupUnknown => exact .silent
  | grouped hm _ ih => exact .grouped hm ih
  | loopMisused => exact .silent
  | looped hsource hcourse _ ih =>
    rw [scope_sourceOf hsource] at ih
    exact .looped rfl hsource hcourse (ih _ (supplyFrom_zero _ _).symm)
  | loopSpent => exact fun _ _ => .loopOver
  | loopCalledOff => exact fun _ _ => .loopOver
  | loopTestFailed look _ _ hn =>
    rintro course rfl
    obtain ⟨hcap, test, _, rfl, htest⟩ := fails_of_supplyFrom hn
    simp only [toldOf_look, hn.decodes.toldOf_eq]
    exact .loopEnded rfl hcap htest
  | bodyFailed look _ _ hn _ ih =>
    rintro course rfl
    obtain ⟨hcap, hgives, -⟩ := gives_of_supplyFrom hn
    simp only [toldOf_look, toldOf_remark, toldOf_append, hn.decodes.toldOf_eq]
    exact .iteratedLast (scope_enter hn.decodes.scope_eq) hcap hgives
      (scope_enter hn.decodes.scope_eq ▸ ih)
  | bodyLeft look _ _ hn _ ih =>
    rintro course rfl
    obtain ⟨hcap, hgives, -⟩ := gives_of_supplyFrom hn
    simp only [toldOf_look, toldOf_remark, toldOf_append, hn.decodes.toldOf_eq]
    exact .iteratedLast (scope_enter hn.decodes.scope_eq) hcap hgives
      (scope_enter hn.decodes.scope_eq ▸ ih)
  | bodyWentOn look _ _ hn h₁ _ ih₁ ih₂ =>
    rintro course rfl
    obtain ⟨hcap, hgives, hrest⟩ := gives_of_supplyFrom hn
    -- the next iteration starts where the frame of this one has come off
    rw [scope_cutBack_of_enter hn.decodes.scope_eq h₁.scope_eq] at ih₂
    simp only [toldOf_look, toldOf_remark, toldOf_append, hn.decodes.toldOf_eq]
    exact .iterated (scope_enter hn.decodes.scope_eq) hcap hgives
      (scope_enter hn.decodes.scope_eq ▸ ih₁) (ih₂ course hrest)

end Tale

/-! ### Whatever the surroundings do -/

/-- **The scope is kept, and every action runs where it stands.** Under every behaviour of
the surroundings, a list of actions ends in the scope that it has started in, and what
happens on the way is told by its tale; and so does every action, loops and groups
included. -/
theorem keeps_scope (s : ChainSetting) (depth : Nat) (st : ChainState) (b : Behaviour)
    (before : List Event) :
    (∀ (inherited : Option Recovery) (actions : List Action),
      let (events, _, after) := (runDepth s depth inherited actions st).under b before
      after.scope = st.scope ∧ Tale s (.list actions) st.scope (toldOf events)) ∧
    ∀ (strategy : Recovery) (a : Action),
      let (events, _, after) := (effect s (runDepth s depth) strategy a st).under b before
      after.scope = st.scope ∧ Tale s (.inside a) st.scope (toldOf events) := by
  constructor
  · intro inherited actions
    have h := happens_of_run (Script.run_under b (runDepth s depth inherited actions st) before)
    exact ⟨h.scope_eq, h.told⟩
  · intro strategy a
    have h := happens_of_effect (listsKeep s depth)
      (Script.run_under b (effect s (runDepth s depth) strategy a st) before)
    exact ⟨h.scope_eq, h.told⟩

end Chain

end FormChain
