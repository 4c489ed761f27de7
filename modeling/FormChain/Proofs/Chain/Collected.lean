import FormChain.Proofs.Chain.Checked
import FormChain.Proofs.Chain.Writing
import FormChain.Proofs.Form.References

/-!
# Where values are collected

To collect a value needs a loop that is running. The check of a form asks for a loop around
every such action, but it looks at an action once, and the members of a group can be run on
many ways. What makes the check right for most forms is that a chain with no frame on its
scope has come from the actions of the form through groups alone, and the check has followed
the same groups (`FormChain.Chain.insideLoop_or_outside_of_attempt`).

It is wrong for one sort of form, by its own reading of groups: a group that is referred to
inside a loop counts as the body of a loop, wherever else it is referred to. So an attempt
to collect a value fails for want of a loop only where it stands, outside of every loop, in a
group on both sides (`FormChain.Chain.collects_in_loops`). There it does fail, in a form in
which the check finds no error (`FormChain.Chain.checked_form_collects_outside`).
-/

namespace FormChain.Chain

section Standing

variable {s : ChainSetting} {depth : Nat} {inherited : Option Recovery}
  {st st' : ChainState} {es : List Event}

/-- The members that a group turns out to have stand outside of every loop if the group
does. -/
theorem outside_of_membersOf {head : Head} {id : Option String} {members actual : List Action}
    {named : Option Recovery} {a : Action} (h : s.form.Outside (.group head id members))
    (hm : membersOf s.form id members = .ok (actual, named)) (ha : a ∈ actual) :
    s.form.Outside a := by
  unfold membersOf at hm
  split at hm
  · obtain ⟨rfl, -⟩ := Prod.mk.inj (Except.ok.inj hm)
    exact h.member ha
  · split at hm
    · next hg =>
      obtain ⟨rfl, -⟩ := Prod.mk.inj (Except.ok.inj hm)
      exact h.named hg ha
    · cases hm

/-- **Whatever a chain attempts**, it attempts with a loop running or stands outside of every
loop. -/
theorem insideLoop_or_outside_of_attempt {r : Except ChainError Flow} {a : Action} {n : Nat}
    {st₁ : ChainState}
    (h : (runDepth s depth inherited s.form.actions).Run st es r st')
    (hmem : .remark (.attempt a n st₁) ∈ es) :
    st₁.scope.insideLoop = true ∨ s.form.Outside a := by
  let P (a : Action) (scope : Scope) : Prop := scope.insideLoop = true ∨ s.form.Outside a
  have htold : Tale s (.list s.form.actions) st.scope (toldOf es) := (happens_of_run h).told
  have hstart : Part.All P st.scope (.list s.form.actions) :=
    fun a ha => Or.inr (.direct (.here ha))
  refine htold.holds_of_attempt (P := P) ?_ ?_ hstart (mem_toldOf_of_remark hmem)
  · -- the body of a loop runs with the frame of an iteration
    rintro head plan body scope - f a -
    exact Or.inl rfl
  · rintro head id members actual named scope (hin | hout) hm a ha
    · exact Or.inl hin
    · exact Or.inr (outside_of_membersOf hout hm ha)

end Standing

/-- **Every value among some events is collected in a loop**: no attempt to collect one fails
for want of a loop, but for what stands outside of every loop in a group on both sides. -/
def CollectsInLoops (s : ChainSetting) (events : List Event) : Prop :=
  ∀ head spec n st, .remark (.attempt (.collectData head spec) n st) ∈ events →
    ∀ depth strategy es st',
      (effect s (runDepth s depth) strategy (.collectData head spec)).Run st es
        (.error (.action (.misuse .outsideLoop))) st' →
      ∃ id g, s.form.group? id = some g ∧ s.form.Straddles id ∧
        Action.Live false g.actions ⟨.collectData head spec, false⟩

/-- **In the chain of a checked form, values are collected in loops**, except in groups on both
sides. This holds whatever the surroundings do, and however deep its lists are nested. -/
theorem collects_in_loops (s : ChainSetting) (hchecked : s.form.errors = []) (st : ChainState)
    (b : Behaviour) (before : List Event) :
    CollectsInLoops s ((execute s s.form.actions st).under b before).1 ∧
      ∀ depth inherited,
        CollectsInLoops s ((runDepth s depth inherited s.form.actions st).under b before).1 := by
  have hlists {depth : Nat} {inherited : Option Recovery} {es : List Event}
      {r : Except ChainError Flow} {st' : ChainState}
      (hrun : (runDepth s depth inherited s.form.actions).Run st es r st') :
      CollectsInLoops s es := by
    intro head spec n st₁ hmem depth strategy es₁ st₂ heffect
    have hnone : st₁.scope.insideLoop = false := by
      cases happens_of_effect (listsKeep s depth) heffect with
      | plainFailed hp hx =>
        cases hp
        exact insideLoop_of_collectData hx
    rcases insideLoop_or_outside_of_attempt hrun hmem with hin | hout
    · rw [hnone] at hin
      cases hin
    · exact hout.straddles hchecked
  refine ⟨?_, fun depth inherited => hlists (Script.run_under b _ before)⟩
  -- in front of the list there is only the remark that the chain starts
  obtain ⟨es, r, st', hes, hlist, -⟩ :=
    run_execute (Script.run_under b (execute s s.form.actions st) before)
  rw [hes]
  intro head spec n st₁ hmem
  exact hlists hlist head spec n st₁ (by simpa using hmem)

/-! ### A group on both sides -/

/-- The collection of a text. -/
def gather : Action := .collectData { id := "gather" } { output := "all", content := "x" }

/-- A form whose only group collects a value. Its first action refers to the group, its
second one does so in a loop. -/
def bothSides : Form where
  actions := [.group { id := "once" } (some "keep") [],
    .loop { id := "loop" } { kind := .count, count := some { stop := 0 } }
      [.group { id := "often" } (some "keep") []]]
  groups := [{ id := "keep", actions := [gather] }]

/-- **The check finds no error in it**, as it finds the reference in the loop. -/
theorem errors_bothSides : bothSides.errors = [] := by
  have hlooped : bothSides.loopedGroups.contains "keep" = true := by
    refine (Form.contains_loopedGroups_iff rfl).mpr (.direct ?_)
    exact .tail _ (.head _)
  have hvisits : bothSides.visits = Action.visitsOf false bothSides.actions ++
      Action.visitsOf true [gather] := by
    rw [Form.visits, bothSides, List.flatMap_singleton]
    exact congrArg (_ ++ Action.visitsOf · _) hlooped
  rw [Form.errors, hvisits]
  decide

/-- **A form without errors can fail to collect a value**: its group is referred to in a loop,
but the first time it is run, it is outside of every loop. -/
theorem checked_form_collects_outside :
    bothSides.errors = [] ∧
      ((execute { form := bothSides } bothSides.actions {}).under withoutUser []).2.1 =
        .failed (.action "gather" "collectData" (.misuse .outsideLoop)) :=
  ⟨errors_bothSides, rfl⟩

/-- What fails in it stands in its group. -/
theorem bothSides_collects_in_loops :
    bothSides.errors = [] ∧ ∃ id g, bothSides.group? id = some g ∧ bothSides.Straddles id ∧
      Action.Live false g.actions ⟨gather, false⟩ := by
  let s : ChainSetting := { form := bothSides }
  refine ⟨errors_bothSides, ?_⟩
  -- the group is reached and attempted first, and then its member
  have hattempt : .remark (.attempt gather 0 {}) ∈
      ((execute s bothSides.actions {}).under withoutUser []).1 :=
    .tail _ (.tail _ (.tail _ (.tail _ (.tail _ (.tail _ (.head _))))))
  have hrun := Script.run_under withoutUser (effect s (runDepth s 0) .abort gather {}) []
  exact (collects_in_loops s errors_bothSides {} withoutUser []).1 _ _ 0 {} hattempt 0 .abort _ _
    hrun

end FormChain.Chain
