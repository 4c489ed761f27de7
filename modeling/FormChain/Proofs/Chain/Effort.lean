import FormChain.Proofs.Chain.Depth
import FormChain.Proofs.Chain.Failure

/-!
# How much a chain can do

Every loop ends, since its iterations are counted down: a loop over a list, a range or pages
has its frames laid out and takes no more of them than its cap, and a loop under a condition
asks for it no oftener. Retries are counted down as well. So how much a chain can do is to be
seen from its form, once it is known how many iterations a loop has that does not say so
itself (`FormChain.Form.effort`). Nothing else comes into it, neither answers nor variables,
nor what fails, nor how long a condition goes on to hold.

What is counted are *turns*: attempts of actions, and iterations of loops. A task makes no
more turns than its own effort says, by induction on the rules
(`FormChain.Chain.Happens.turns_le`). For a form whose groups do not go round in circles that
is a bound on the whole chain, and the chain ends for a reason of its own, not because it was
nested too deep (`FormChain.Chain.acyclic_chain_is_bounded`).
-/

namespace FormChain

/-! ### Turns -/

/-- Whether an iteration of a loop starts. -/
def Event.startsIteration : Event → Bool
  | remark (.iteration ..) => true
  | _ => false

/-- **The turns among events**: the attempts of actions and the iterations of loops. -/
def turnsOf (es : List Event) : Nat :=
  es.countP (·.startsAttempt) + es.countP (·.startsIteration)

section Turns

variable {es es' : List Event}

@[simp] theorem turnsOf_nil : turnsOf [] = 0 := rfl

@[simp] theorem turnsOf_exchange {token : Token} {c : Call} {reply : Reply c} :
    turnsOf (.exchange token c reply :: es) = turnsOf es := rfl

@[simp] theorem turnsOf_entered {form : Form} {token : Token} {session : Option SessionId} :
    turnsOf (.remark (.entered form token session) :: es) = turnsOf es := rfl

@[simp] theorem turnsOf_reached {a : Action} {st : ChainState} :
    turnsOf (.remark (.reached a st) :: es) = turnsOf es := rfl

@[simp] theorem turnsOf_attempt {a : Action} {before : Nat} {st : ChainState} :
    turnsOf (.remark (.attempt a before st) :: es) = turnsOf es + 1 := by
  simp only [turnsOf, List.countP_cons, Event.startsAttempt, Event.startsIteration,
    Bool.false_eq_true, if_true, if_false]
  omega

@[simp] theorem turnsOf_iteration {plan : LoopPlan} {index : Nat} {st : ChainState} :
    turnsOf (.remark (.iteration plan index st) :: es) = turnsOf es + 1 := by
  simp only [turnsOf, List.countP_cons, Event.startsAttempt, Event.startsIteration,
    Bool.false_eq_true, if_true, if_false]
  omega

@[simp] theorem turnsOf_append : turnsOf (es ++ es') = turnsOf es + turnsOf es' := by
  simp only [turnsOf, List.countP_append]
  omega

/-- Where nothing is remarked, there is no turn. -/
theorem turnsOf_of_silent (h : remarksOf es = []) : turnsOf es = 0 := by
  induction es with
  | nil => rfl
  | cons e es ih =>
    cases e with
    | remark r => cases h
    | exchange => exact ih h

end Turns

/-- Files that are decoded make no turns. -/
theorem Decodes.turnsOf_eq {s : ChainSetting} {st st' : ChainState} {es : List Event}
    (h : Decodes s st es st') : turnsOf es = 0 :=
  turnsOf_of_silent h.remarksOf_eq

namespace Chain

/-! ### Effort -/

section Effort

variable (f : Form) (iterations : Nat)

/-- The turns that the effect of an action can make, given those of the lists in it. -/
def effectEffort (lists : Option Recovery → List Action → Nat) (strategy : Recovery) :
    Action → Nat
  | .loop _ plan body => plan.maxIterations.getD iterations * (lists (some strategy) body + 1)
  | .group head id members =>
    match membersOf f id members with
    | .ok (actual, named) => lists (some ((head.recovery.or named).getD strategy)) actual
    | .error _ => 0
  | _ => 0

/-- The turns that an action can make, with all its attempts. -/
def actionEffort (lists : Option Recovery → List Action → Nat) (inherited : Option Recovery)
    (a : Action) : Nat :=
  let strategy := strategyOf inherited a
  (retriesOf strategy + 1) * (effectEffort f iterations lists strategy a + 1)

/-- **The turns that a list of actions can make**, carried out to some depth. -/
def listEffort : (depth : Nat) → Option Recovery → List Action → Nat
  | 0 => fun _ _ => 0
  | depth + 1 => fun inherited actions =>
    actions.foldr (fun a rest => actionEffort f iterations (listEffort depth) inherited a + rest) 0

end Effort

/-- How many iterations a supply has left. -/
def Supply.size : Supply → Nat
  | frames fs => fs.length
  | whileHolds _ left => left

/-- **The turns that a task can make.** -/
def Task.effort (s : ChainSetting) : Task → Nat
  | .list depth inherited actions =>
    listEffort s.form s.config.maxLoopIterations depth inherited actions
  | .attempts depth strategy a left _ =>
    (left + 1) * (effectEffort s.form s.config.maxLoopIterations
      (listEffort s.form s.config.maxLoopIterations depth) strategy a + 1)
  | .effect depth strategy a =>
    effectEffort s.form s.config.maxLoopIterations
      (listEffort s.form s.config.maxLoopIterations depth) strategy a
  | .iterations depth strategy _ body _ supply =>
    supply.size *
      (listEffort s.form s.config.maxLoopIterations depth (some strategy) body + 1)

end Chain

/-- **The turns that the chain of a form can make**, where a loop that does not set its own
number of iterations has no more than some. -/
def Form.effort (f : Form) (maxLoopIterations : Nat) : Nat :=
  Chain.listEffort f maxLoopIterations (Chain.depthOf f 0) none f.actions

namespace Chain

/-! ### Supplies -/

/-- A loop has no more iterations than its cap allows. -/
theorem size_supplyOf_le (cap : Nat) (course : LoopCourse) : (supplyOf cap course).size ≤ cap := by
  cases course with
  | frames fs => exact List.length_take_le cap fs
  | whileHolds test => exact Nat.le_refl cap

/-- An iteration uses up one of a supply. -/
theorem Supply.Gives.size_eq {s : ChainSetting} {plan : LoopPlan} {index : Nat}
    {supply rest : Supply} {st st' : ChainState} {es : List Event} {f : Frame}
    (h : supply.Gives s plan index st es (some (f, rest)) st') : supply.size = rest.size + 1 := by
  cases h <;> rfl

/-! ### Depth does not add to effort -/

/-- The effort of an action is that of the lists in it. -/
theorem effectEffort_congr {f : Form} {iterations : Nat}
    {lists lists' : Option Recovery → List Action → Nat} {a : Action}
    (h : ∀ inner, inner? f a = some inner → ∀ inherited, lists inherited inner =
      lists' inherited inner) (strategy : Recovery) :
    effectEffort f iterations lists strategy a = effectEffort f iterations lists' strategy a := by
  cases a with
  | loop head plan body => simp only [effectEffort, h body rfl]
  | group head id members =>
    simp only [effectEffort]
    split
    case h_1 actual named hm => exact h actual (by rw [inner?, hm]) _
    case h_2 => rfl
  | _ => rfl

/-- **A depth that suffices tells the effort**, and any greater one tells the same. -/
theorem listEffort_eq_of_nestedBelow {f : Form} {iterations depth depth' : Nat}
    {actions : List Action} (h : NestedBelow f depth actions) (hle : depth ≤ depth')
    (inherited : Option Recovery) :
    listEffort f iterations depth' inherited actions =
      listEffort f iterations depth inherited actions := by
  induction depth generalizing depth' actions inherited with
  | zero => exact h.elim
  | succ depth ih =>
    obtain ⟨depth', rfl⟩ : ∃ k, depth' = k + 1 := ⟨depth' - 1, by omega⟩
    have haction (a : Action) (ha : a ∈ actions) :
        actionEffort f iterations (listEffort f iterations depth') inherited a =
          actionEffort f iterations (listEffort f iterations depth) inherited a := by
      simp only [actionEffort]
      rw [effectEffort_congr fun inner hinner => ih (h a ha inner hinner) (by omega)]
    clear h
    unfold listEffort
    induction actions with
    | nil => rfl
    | cons a rest ihrest =>
      rw [List.foldr_cons, List.foldr_cons, haction a (.head _),
        ihrest fun b hb => haction b (.tail _ hb)]

/-! ### The bound -/

section Bound

variable {s : ChainSetting} {t : Task} {st st' : ChainState} {es : List Event}
  {r : Except Failure Flow}

/-- A plain effect makes no turns. -/
theorem turnsOf_plainEffect {a : Action} {x : Effect Unit} {r : Except ActionError Unit}
    (hp : plainEffect? s a = some x) (hx : x.Run st es r st') : turnsOf es = 0 :=
  turnsOf_of_silent (conducts_plainEffect hp _ _ _ _ hx).remarksOf_eq

/-- The attempts of the first action and what the rest can do make up what a list can do. -/
theorem effort_cons {d : Nat} {inherited : Option Recovery} {a : Action} {rest : List Action} :
    (Task.list (d + 1) inherited (a :: rest)).effort s =
      (Task.attempts d (strategyOf inherited a) a (retriesOf (strategyOf inherited a)) 0).effort s +
        (Task.list (d + 1) inherited rest).effort s := by
  simp only [Task.effort, listEffort, List.foldr_cons, actionEffort]

/-- An attempt, and what it can do, is what one attempt more makes. -/
theorem effort_attempts {d left before : Nat} {strategy : Recovery} {a : Action} :
    (Task.attempts d strategy a (left + 1) before).effort s =
      (Task.attempts d strategy a left (before + 1)).effort s +
        ((Task.effect d strategy a).effort s + 1) :=
  Nat.succ_mul ..

/-- Every attempt can do what the effect can, and is a turn itself. -/
theorem effort_effect_lt {d left before : Nat} {strategy : Recovery} {a : Action} :
    (Task.effect d strategy a).effort s < (Task.attempts d strategy a left before).effort s :=
  Nat.le_mul_of_pos_left _ (Nat.succ_pos left)

/-- An iteration, and what its body can do, is what one iteration more makes. -/
theorem effort_iterations {d index : Nat} {strategy : Recovery} {plan : LoopPlan}
    {body : List Action} {supply rest : Supply} {f : Frame}
    (h : supply.Gives s plan index st es (some (f, rest)) st') :
    (Task.iterations d strategy plan body index supply).effort s =
      (Task.iterations d strategy plan body (index + 1) rest).effort s +
        ((Task.list d (some strategy) body).effort s + 1) := by
  simp only [Task.effort, h.size_eq, Nat.succ_mul]

/-- A loop can do no more than the iterations that its cap allows. -/
theorem effort_supplyOf_le {d : Nat} {strategy : Recovery} {head : Head} {plan : LoopPlan}
    {body : List Action} {course : LoopCourse} :
    (Task.iterations d strategy plan body 0 (supplyOf (plan.cap s.config) course)).effort s ≤
      (Task.effect d strategy (.loop head plan body)).effort s :=
  Nat.mul_le_mul_right _ (size_supplyOf_le _ course)

/-- A group can do what its members can. -/
theorem effort_membersOf {d : Nat} {strategy : Recovery} {head : Head} {id : Option String}
    {members actual : List Action} {named : Option Recovery}
    (hm : membersOf s.form id members = .ok (actual, named)) :
    (Task.effect d strategy (.group head id members)).effort s =
      (Task.list d (some ((head.recovery.or named).getD strategy)) actual).effort s := by
  simp only [Task.effort, effectEffort, hm]

/-- **A task makes no more turns than it can**: by induction on the rules. The attempts left
and the supply of a loop are what is counted down. -/
theorem Happens.turns_le (h : Happens s t st es r st') : turnsOf es ≤ t.effort s := by
  induction h with
  | passedOver _ _ hw _ ih =>
    rw [turnsOf_exchange, turnsOf_reached, turnsOf_append, hw.decodes.turnsOf_eq, effort_cons]
    omega
  | listLeft _ _ hw _ _ ih =>
    rw [turnsOf_exchange, turnsOf_reached, turnsOf_append, hw.decodes.turnsOf_eq, effort_cons]
    omega
  | listWentOn _ _ hw _ _ ih₁ ih₂ =>
    rw [turnsOf_exchange, turnsOf_reached, turnsOf_append, turnsOf_append,
      hw.decodes.turnsOf_eq, effort_cons]
    omega
  | attemptCalledOff _ _ _ ih =>
    simp only [turnsOf_attempt, turnsOf_append, turnsOf_exchange, turnsOf_nil]
    exact Nat.lt_of_le_of_lt ih effort_effect_lt
  | attemptSettled _ _ _ _ ih =>
    simp only [turnsOf_attempt, turnsOf_append, turnsOf_exchange, turnsOf_nil]
    exact Nat.lt_of_le_of_lt ih effort_effect_lt
  | delayCalledOff _ _ _ _ _ _ ih =>
    simp only [turnsOf_attempt, turnsOf_append, turnsOf_exchange, turnsOf_nil]
    exact Nat.lt_of_le_of_lt ih effort_effect_lt
  | triedAgain _ _ _ _ _ _ _ ih₁ ih₂ =>
    simp only [turnsOf_attempt, turnsOf_append, turnsOf_exchange]
    rw [effort_attempts]
    omega
  | plainDone hp hx =>
    rw [turnsOf_plainEffect hp hx]
    exact Nat.zero_le _
  | plainFailed hp hx =>
    rw [turnsOf_plainEffect hp hx]
    exact Nat.zero_le _
  | grouped hm _ ih =>
    rw [effort_membersOf hm]
    exact ih
  | looped _ _ _ ih => exact Nat.le_trans ih effort_supplyOf_le
  | loopTestFailed _ _ _ hn =>
    rw [turnsOf_exchange, hn.decodes.turnsOf_eq]
    exact Nat.zero_le _
  | bodyFailed _ _ _ hn _ ih =>
    rw [turnsOf_exchange, turnsOf_append, hn.decodes.turnsOf_eq, turnsOf_iteration,
      effort_iterations hn]
    omega
  | bodyLeft _ _ _ hn _ ih =>
    rw [turnsOf_exchange, turnsOf_append, hn.decodes.turnsOf_eq, turnsOf_iteration,
      effort_iterations hn]
    omega
  | bodyWentOn _ _ _ hn _ _ ih₁ ih₂ =>
    rw [turnsOf_exchange, turnsOf_append, hn.decodes.turnsOf_eq, turnsOf_iteration,
      turnsOf_append, effort_iterations hn]
    omega
  | _ => exact Nat.zero_le _

end Bound

/-- **The chain of an acyclic form ends, and there is a bound on what it does.** Whatever the
answers, the variables and the replies of the surroundings, it makes no more attempts and
iterations than are to be computed from the form and the number of iterations that the
configuration allows; and it does not end for being nested too deep. -/
theorem acyclic_chain_is_bounded (s : ChainSetting) (hacyclic : s.form.Acyclic)
    (st : ChainState) (b : Behaviour) (before : List Event) :
    let run := (execute s s.form.actions st).under b before
    turnsOf run.1 ≤ s.form.effort s.config.maxLoopIterations ∧ run.2.1 ≠ .failed .tooDeep := by
  intro run
  obtain ⟨es, r, st', hes, hlist, hout⟩ :=
    run_execute (Script.run_under b (execute s s.form.actions st) before)
  have hhappens := happens_of_run hlist
  constructor
  · -- the effort at the depth of the run is that at any depth that suffices
    have hle : turnsOf es ≤ s.form.effort s.config.maxLoopIterations := by
      refine Nat.le_trans hhappens.turns_le (Nat.le_of_eq ?_)
      exact listEffort_eq_of_nestedBelow (nestedBelow_depthOf hacyclic 0)
        (Nat.add_le_add_left (Nat.zero_le _) _) none
    change turnsOf ((execute s s.form.actions st).under b before).1 ≤ _
    rw [hes, turnsOf_entered]
    exact hle
  · have hne := hhappens.ne_tooDeep (nestedBelow_depthOf hacyclic _)
    change ((execute s s.form.actions st).under b before).2.1 ≠ _
    rw [hout]
    rcases r with e | flow
    · cases e with
      | tooDeep => exact absurd rfl hne
      | cancelled => nofun
      | action => nofun
    · nofun

/-- A form with a loop under retry whose test always holds. Its body goes through one group to
another. -/
def twoGroups : Form where
  actions := [.loop { id := "again", recovery := some (.retry 2 none) }
    { kind := .condition, test := some { kind := .group }, maxIterations := some 3 }
    [.group { id := "first" } (some "outer") []]]
  groups := [{ id := "outer", actions := [.group { id := "second" } (some "inner") []] },
    { id := "inner", actions := [.proceed { id := "step" }] }]

/-- In it, only the first group calls, and only the second one is called. -/
theorem calls_twoGroups {id id' : String} (h : twoGroups.Calls id id') :
    id = "outer" ∧ id' = "inner" := by
  obtain ⟨g, hg, head, members, hlive⟩ := h
  have hgid : g.id = id := by simpa using List.find?_some hg
  have hmem : g ∈ twoGroups.groups := List.mem_of_find?_eq_some hg
  simp only [twoGroups, List.mem_cons, List.not_mem_nil, or_false] at hmem
  rcases hmem with rfl | rfl
  · -- the only action of the first group is a name, which holds nothing else
    rcases hlive with hhere | hbody | hgroup
    · simp only [List.mem_singleton, Action.group.injEq, Option.some.injEq] at hhere
      exact ⟨hgid.symm, hhere.2.1⟩
    · simp at hbody
    · simp at hgroup
  · rcases hlive with hhere | hbody | hgroup
    · simp at hhere
    · simp at hbody
    · simp at hgroup

/-- The chain of a form with a loop under retry, and a group in a group, is bounded. -/
theorem twoGroups_is_bounded :
    twoGroups.Acyclic ∧
      turnsOf ((execute { form := twoGroups } twoGroups.actions {}).under withoutUser []).1 ≤
        363 := by
  have hacyclic : twoGroups.Acyclic := by
    intro id hcircle
    -- whatever is come to from a group is the second one, which calls nothing
    have hends : ∀ {id id'}, Relation.TransGen twoGroups.Calls id id' →
        id = "outer" ∧ id' = "inner" := by
      intro id id' h
      induction h with
      | single hcalls => exact calls_twoGroups hcalls
      | tail _ hcalls ih => exact ⟨ih.1, (calls_twoGroups hcalls).2⟩
    obtain ⟨houter, hinner⟩ := hends hcircle
    exact absurd (houter.symm.trans hinner) (by decide)
  exact ⟨hacyclic, (acyclic_chain_is_bounded { form := twoGroups } hacyclic {} withoutUser []).1⟩

end Chain

end FormChain
