import FormChain.Proofs.Chain.Failure
import FormChain.Proofs.Chain.Recovery
import FormChain.Proofs.Form.Visits

/-!
# Running a form that was checked

The check of a form looks at every action once, where it stands. A chain comes to the
actions of a form on other ways: through loops, inline groups and groups that are referred
to, some of them often and some never. Still it only comes to actions that the check has
visited: a property that passes from an action to what it holds, and to the members of the
group that it refers to, passes to everything that is attempted
(`FormChain.Chain.Tale.holds_of_attempt`), and being visited is such a property.

So nothing is missing in the chain of a form in which the check finds no error. Every loop
has what drives it and every group that is referred to is there; no attempt of an action
fails for want of them (`FormChain.Chain.checked_form_lacks_nothing`).
-/

namespace FormChain

/-- Whether a misuse is that **something is missing** in the form: a group that is referred
to, or what drives a loop. -/
def Misuse.isLack : Misuse → Bool
  | unknownGroup _ | sourceNeeded _ | rangeNeeded | conditionNeeded => true
  | _ => false

namespace Chain

/-! ### What a chain comes to -/

/-- Whether a property holds of the actions of a part, in the scope of the part. -/
def Part.All (P : Action → Scope → Prop) (scope : Scope) : Part → Prop
  | .list actions => ∀ a ∈ actions, P a scope
  | .attempts a _ => P a scope
  | .inside a => P a scope
  | .iterations _ body _ _ => ∀ f, ∀ a ∈ body, P a (scope.push f)

/-- **What passes on to everything that is attempted**: a property that passes from a loop to
its body, in the scope with the frame of an iteration, and from a group to its members. -/
theorem Tale.holds_of_attempt {s : ChainSetting} {P : Action → Scope → Prop}
    (hloop : ∀ {head plan body scope}, P (.loop head plan body) scope →
      ∀ f, ∀ a ∈ body, P a (scope.push f))
    (hgroup : ∀ {head id members actual named scope}, P (.group head id members) scope →
      membersOf s.form id members = .ok (actual, named) → ∀ a ∈ actual, P a scope)
    {part : Part} {scope : Scope} {es : List Event} (h : Tale s part scope es)
    (hpart : part.All P scope) {a : Action} {before : Nat} {st : ChainState}
    (hmem : .remark (.attempt a before st) ∈ es) : P a st.scope := by
  induction h with
  | listOver => cases hmem
  | passedOver _ hw _ ih =>
    refine ih (fun b hb => hpart b (List.mem_cons_of_mem _ hb)) ?_
    simpa [hw.decodes.remark_notMem] using hmem
  | carriedOut _ hw _ _ ih₁ ih₂ =>
    rcases List.mem_append.mp (by simpa [hw.decodes.remark_notMem] using hmem) with hmem | hmem
    · exact ih₁ (hpart _ List.mem_cons_self) hmem
    · exact ih₂ (fun b hb => hpart b (List.mem_cons_of_mem _ hb)) hmem
  | lastAttempt hscope _ ih =>
    rcases List.mem_cons.mp hmem with heq | hmem
    · cases heq
      exact hscope ▸ hpart
    · exact ih hpart hmem
  | attempted hscope _ _ ih₁ ih₂ =>
    rcases List.mem_cons.mp hmem with heq | hmem
    · cases heq
      exact hscope ▸ hpart
    · exact (List.mem_append.mp hmem).elim (ih₁ hpart) (ih₂ hpart)
  | silent => cases hmem
  | grouped hm _ ih => exact ih (hgroup hpart hm) hmem
  | looped _ _ _ _ ih => exact ih (hloop hpart) hmem
  | loopOver => cases hmem
  | loopEnded _ _ htest => exact absurd hmem htest.decodes.remark_notMem
  | iterated _ _ hgives _ _ ih₁ ih₂ =>
    rcases List.mem_append.mp (by simpa [hgives.remark_notMem] using hmem) with hmem | hmem
    · exact ih₁ (hpart _) hmem
    · exact ih₂ hpart hmem

/-- **Whatever a chain attempts was visited by the check.** -/
theorem visited_of_attempt {s : ChainSetting} {depth : Nat} {inherited : Option Recovery}
    {st st₁ st' : ChainState} {es : List Event} {r : Except ChainError Flow} {a : Action}
    {before : Nat} (h : (runDepth s depth inherited s.form.actions).Run st es r st')
    (hmem : .remark (.attempt a before st₁) ∈ es) : ∃ inLoop, ⟨a, inLoop⟩ ∈ s.form.visits := by
  let P (a : Action) (_ : Scope) : Prop := ∃ inLoop, ⟨a, inLoop⟩ ∈ s.form.visits
  have htold : Tale s (.list s.form.actions) st.scope (toldOf es) := (happens_of_run h).told
  have hstart : Part.All P st.scope (.list s.form.actions) :=
    fun a ha => ⟨false, Form.mem_visits ha⟩
  refine htold.holds_of_attempt ?_ ?_ hstart (mem_toldOf_of_remark hmem)
  · rintro head plan body scope ⟨inLoop, hv⟩ f a ha
    exact ⟨true, Form.mem_visits_of_inside hv (List.mem_map.mpr ⟨a, ha, rfl⟩)⟩
  · rintro head id members actual named scope ⟨inLoop, hv⟩ hm a ha
    unfold membersOf at hm
    split at hm
    · -- the group has members of its own
      obtain ⟨rfl, -⟩ := Prod.mk.inj (Except.ok.inj hm)
      exact ⟨inLoop, Form.mem_visits_of_inside hv (List.mem_map.mpr ⟨a, ha, rfl⟩)⟩
    · split at hm
      · next hg =>
        obtain ⟨rfl, -⟩ := Prod.mk.inj (Except.ok.inj hm)
        exact ⟨_, Form.mem_visits_of_group? hg ha⟩
      · cases hm

/-! ### Nothing is missing -/

section Lacks

variable {s : ChainSetting} {st st' : ChainState} {es : List Event} {m : Misuse}

/-- Where a group is not wrong for its type, it has members. -/
theorem membersOf_of_ownErrors {head : Head} {id : Option String} {members : List Action}
    {inLoop : Bool} (h : s.form.ownErrors ⟨.group head id members, inLoop⟩ = []) :
    membersOf s.form id members ≠ .error m := by
  intro hm
  unfold membersOf at hm
  split at hm
  · cases hm
  · next id =>
    simp only [Form.ownErrors] at h
    split at hm
    · cases hm
    · next hg =>
      rw [hg] at h
      cases h

/-- Where a loop is not wrong for its type, it has what drives it. -/
theorem hasSource_of_ownErrors {head : Head} {plan : LoopPlan} {body : List Action}
    {inLoop : Bool} (h : s.form.ownErrors ⟨.loop head plan body, inLoop⟩ = []) :
    plan.hasSource = true := by
  simp only [Form.ownErrors] at h
  split at h
  · assumption
  · cases h

/-- The value of the source of a loop is there where the source is. -/
theorem isSome_of_sourceOf {plan : LoopPlan} {source : Option Value}
    (h : (sourceOf plan).Run st es (.ok source) st') : source.isSome = plan.listed.isSome := by
  unfold sourceOf at h
  split at h
  case h_1 hnone =>
    obtain ⟨-, hr, -⟩ := Step.run_pure.mp h
    rw [hnone, Except.ok.inj hr]
  case h_2 v hsome =>
    rcases Step.run_bind.mp h with ⟨e, -, hr⟩ | ⟨_, v', _, _, -, -, h'⟩
    · cases hr
    · obtain ⟨-, hr, -⟩ := Step.run_pure.mp h'
      rw [hsome, Except.ok.inj hr]
      rfl

/-- Where a loop has what drives it, nothing is missing in its plan. -/
theorem isLack_of_course {plan : LoopPlan} {config : Config} {source : Option Value}
    (hplan : plan.hasSource = true) (hsource : source.isSome = plan.listed.isSome)
    (h : plan.course config source = .error m) : m.isLack = false := by
  unfold LoopPlan.hasSource at hplan
  unfold LoopPlan.course at h
  unfold LoopPlan.listed at hsource
  cases hkind : plan.kind with
  | list =>
    simp only [hkind] at hplan hsource h
    obtain ⟨v, rfl⟩ := Option.isSome_iff_exists.mp (hsource.trans hplan)
    cases h
  | pagination =>
    simp only [hkind] at hplan hsource h
    obtain ⟨v, rfl⟩ := Option.isSome_iff_exists.mp (hsource.trans hplan)
    simp only at h
    split at h
    · cases h
      rfl
    · cases h
  | count =>
    simp only [hkind] at hplan h
    obtain ⟨range, hrange⟩ := Option.isSome_iff_exists.mp hplan
    simp only [hrange] at h
    split at h
    · cases h
      rfl
    · cases h
  | condition =>
    simp only [hkind] at hplan h
    obtain ⟨test, htest⟩ := Option.isSome_iff_exists.mp hplan
    simp only [htest] at h
    cases h

/-- A plain effect is that of an action that holds no others. -/
theorem children?_of_plainEffect {a : Action} {x : Effect Unit} (h : plainEffect? s a = some x) :
    a.children? = none := by
  cases a with
  | loop | group => cases h
  | _ => rfl

/-- Only loops and groups raise it themselves that something is missing. -/
theorem raises_of_isLack {a : Action} (ha : a.children? = none) (hm : m.isLack = true) :
    a.raises m = false := by
  cases m with
  | unknownGroup | sourceNeeded | rangeNeeded | conditionNeeded =>
    cases a with
    | loop | group => cases ha
    | _ => rfl
  | _ => cases hm

/-- **An action that is not wrong for its type** fails for want of something only where it
holds no others, and a reply says so. -/
theorem handedIn_of_lack {a : Action} {inLoop : Bool} {depth : Nat} {strategy : Recovery}
    (hown : s.form.ownErrors ⟨a, inLoop⟩ = [])
    (h : Happens s (.effect depth strategy a) st es (.error (.action (.misuse m))) st')
    (hm : m.isLack = true) : a.children? = none ∧ .misuse m ∈ handedIn es := by
  generalize hr : (Except.error (.action (.misuse m)) : Except Failure Flow) = r at h
  cases h with
  | plainDone => cases hr
  | plainFailed hp hx =>
    obtain rfl := Failure.action.inj (Except.error.inj hr)
    rcases (tidy_plainEffect hp _ _ _ _ hx).2 m rfl with hraises | hmem
    · rw [raises_of_isLack (children?_of_plainEffect hp) hm] at hraises
      cases hraises
    · exact ⟨children?_of_plainEffect hp, hmem⟩
  | proceeded => cases hr
  | broke => cases hr
  | waited => split at hr <;> cases hr
  | groupUnknown hm' =>
    exact absurd hm' (membersOf_of_ownErrors hown)
  | grouped _ h => exact absurd hr.symm (h.ne_action nofun _)
  | loopMisused hsource hcourse =>
    obtain rfl := ActionError.misuse.inj (Failure.action.inj (Except.error.inj hr))
    rw [isLack_of_course (hasSource_of_ownErrors hown) (isSome_of_sourceOf hsource) hcourse] at hm
    cases hm
  | looped _ _ h => exact absurd hr.symm (h.ne_action nofun _)

end Lacks

/-- **No attempt among some events fails for want of something**: no loop and no group ever
does, whatever happens from its start on, and any other action only where a reply hands in
such a failure. -/
def LacksNothing (s : ChainSetting) (events : List Event) : Prop :=
  ∀ a n st, .remark (.attempt a n st) ∈ events →
    ∀ depth strategy es m st',
      (effect s (runDepth s depth) strategy a).Run st es (.error (.action (.misuse m))) st' →
      m.isLack = true → a.children? = none ∧ .misuse m ∈ handedIn es

/-- **Nothing is missing in the chain of a checked form.** Whatever the surroundings do, and
however deep its lists are nested, no attempt in the chain of a form without errors fails
because a group that it refers to, or what drives its loop, is missing. -/
theorem checked_form_lacks_nothing (s : ChainSetting) (hchecked : s.form.errors = [])
    (st : ChainState) (b : Behaviour) (before : List Event) :
    LacksNothing s ((execute s s.form.actions st).under b before).1 ∧
      ∀ depth inherited,
        LacksNothing s ((runDepth s depth inherited s.form.actions st).under b before).1 := by
  have hlists {depth : Nat} {inherited : Option Recovery} {es : List Event}
      {r : Except ChainError Flow} {st' : ChainState}
      (hrun : (runDepth s depth inherited s.form.actions).Run st es r st') :
      LacksNothing s es := by
    intro a n st₁ hmem depth strategy es m st₂ heffect hlack
    obtain ⟨inLoop, hv⟩ := visited_of_attempt hrun hmem
    exact handedIn_of_lack (Form.ownErrors_eq_nil hchecked hv)
      (happens_of_effect (listsKeep s depth) heffect) hlack
  refine ⟨?_, fun depth inherited => hlists (Script.run_under b _ before)⟩
  -- in front of the list there is only the remark that the chain starts
  have hrun := Script.run_under b (execute s s.form.actions st) before
  obtain ⟨es, hes, hrun⟩ := Script.run_remark.mp hrun
  obtain ⟨es₁, ⟨r, st'⟩, es₂, rfl, hlist, hend⟩ := Script.run_bind.mp hrun
  obtain ⟨rfl, -⟩ := Script.run_done.mp hend
  rw [hes]
  intro a n st₁ hmem
  exact hlists hlist a n st₁ (by simpa using hmem)

/-- A loop over two rows. -/
def eachRow : Action :=
  .loop { id := "each" } { kind := .list, source := some (.list [.text "a", .text "b"]) }
    [.proceed { id := "only" }]

/-- A reference to a group of the form. -/
def allRows : Action :=
  .group { id := "all" } (some "rows") []

/-- A form that repeats the members of a group. -/
def rowsForm : Form where
  actions := [allRows]
  groups := [{ id := "rows", actions := [eachRow] }]

/-- What happens in its list. -/
def rowsEvents : List Event :=
  ((runDepth { form := rowsForm } 2 none rowsForm.actions {}).under withoutUser []).1

/-- A form with a loop in a named group is without errors, and both are attempted. The group does
not fail for want of its members, nor the loop for want of its list. -/
theorem checked_rows_lack_nothing :
    rowsForm.errors = [] ∧ .remark (.attempt allRows 0 {}) ∈ rowsEvents ∧
      .remark (.attempt eachRow 0 {}) ∈ rowsEvents ∧
      ∀ depth strategy es st',
        let act := effect { form := rowsForm } (runDepth { form := rowsForm } depth) strategy
        ¬(act allRows).Run {} es (.error (.action (.misuse (.unknownGroup "rows")))) st' ∧
          ¬(act eachRow).Run {} es (.error (.action (.misuse (.sourceNeeded .list)))) st' := by
  have hchecked : rowsForm.errors = [] := by decide +kernel
  have hlacks : LacksNothing { form := rowsForm } rowsEvents :=
    (checked_form_lacks_nothing { form := rowsForm } hchecked {} withoutUser []).2 2 none
  have hgroup : .remark (.attempt allRows 0 {}) ∈ rowsEvents :=
    .tail _ (.tail _ (.head _))
  have hloop : .remark (.attempt eachRow 0 {}) ∈ rowsEvents :=
    .tail _ (.tail _ (.tail _ (.tail _ (.tail _ (.head _)))))
  refine ⟨hchecked, hgroup, hloop, fun depth strategy es st' => ⟨fun hrun => ?_, fun hrun => ?_⟩⟩
  · cases (hlacks _ _ _ hgroup _ _ _ _ _ hrun rfl).1
  · cases (hlacks _ _ _ hloop _ _ _ _ _ hrun rfl).1

end Chain

end FormChain
