import FormChain.Proofs.Chain.Failure
import FormChain.Proofs.Chain.Nesting
import FormChain.Proofs.Form.Origin

/-!
# What a condition does

A condition *gates* an action (`FormChain.Chain.Gates`) if the chain goes on as without the
action wherever it comes to it and the condition, being tested, does not hold: the same is
seen, with the same end and in the same context, but for the files that were decoded for the
test. An action is *always tried*
(`FormChain.Chain.AlwaysTried`) if it is tried wherever the chain comes to it under a token that
is not cancelled.

What is written under the name `condition` gates every action of a form but the loops
(`FormChain.Chain.declared_condition_gates`). A loop takes it for its test, even if it is not
driven by one, and is always tried. So a list or a range is gone through although a filter is
written that does not hold (`FormChain.Chain.declared_condition_ignored`).
-/

namespace FormChain.Chain

open Json (Document)

/-- **A filter gates an action**: where it does not hold, the chain comes to the same as
without the action, behind the files that were decoded to test the filter. If there were none,
this is what it comes to without the action in the first place. -/
def Gates (F : Filter) (a : Action) : Prop :=
  ∀ (s : ChainSetting) (b : Behaviour) (depth : Nat) (inherited : Option Recovery)
    (rest : List Action) (st st₀ : ChainState) (before es : List Event),
    let reached := st.afterReply (lookOf b s before)
    let run := upshotOf (Step.sight b (runDepth s (depth + 1) inherited (a :: rest)) st before)
    reached.cancelled = false →
    Step.testSight b (reached.satisfies (Step.decode s) F) reached before = (es, false, st₀) →
    run = upshotOf (Step.behind es
        (Step.sight b (runDepth s (depth + 1) inherited rest) st₀ (before ++ es))) ∧
      (es = [] →
        run = upshotOf (Step.sight b (runDepth s (depth + 1) inherited rest) st before))

/-- **An action is always tried**: under a token that is not cancelled, its first attempt is
what is seen next. -/
def AlwaysTried (a : Action) : Prop :=
  ∀ (s : ChainSetting) (b : Behaviour) (depth : Nat) (inherited : Option Recovery)
    (rest : List Action) (st : ChainState) (before : List Event),
    (st.afterReply (lookOf b s before)).cancelled = false →
    (Step.sight b (runDepth s (depth + 1) inherited (a :: rest)) st before).1.head? =
      some (.remark (.attempt a 0 (st.afterReply (lookOf b s before))))

/-- A test for which nothing is decoded changes nothing. -/
theorem eq_of_testSight {s : ChainSetting} {b : Behaviour} {F : Filter} {held : Bool}
    {st st' : ChainState} {before : List Event}
    (h : Step.testSight b (st.satisfies (Step.decode s) F) st before = ([], held, st')) :
    st' = st := by
  have hrun : Tests s F st _ _ _ := Script.run_under b.bySight
    (st.satisfies (Step.decode s) F st) before
  have hdecodes := hrun.decodes
  obtain ⟨hseen, hresult⟩ := Prod.mk.inj h
  -- whatever is decoded is seen
  have hnone : ((st.satisfies (Step.decode s) F st).under b.bySight before).1 = [] := by
    refine List.eq_nil_iff_forall_not_mem.mpr fun e he => ?_
    obtain ⟨file, reply, rfl⟩ := hdecodes.exchange_of_mem he
    have hmem : Event.exchange s.token (.decode file) reply ∈ seenOf _ :=
      List.mem_filter.mpr ⟨he, rfl⟩
    rw [hseen] at hmem
    cases hmem
  rw [hnone, (congrArg Prod.snd hresult : _ = st')] at hdecodes
  cases hdecodes
  rfl

/-- **Its condition gates an action.** -/
theorem gates_of_condition {F : Filter} {a : Action} (h : a.head.condition = some F) :
    Gates F a := by
  intro s b depth inherited rest st st₀ before es reached run hgo hfalse
  have hunwanted : wantedSight b s a reached before = (es, false, st₀) := by
    rw [wantedSight, isWanted, h]
    exact hfalse
  have hrun : run = upshotOf (Step.behind es
      (Step.sight b (runDepth s (depth + 1) inherited rest) st₀ (before ++ es))) := by
    unfold run
    rw [runDepth, sight_performAll_cons, if_neg (Bool.eq_false_iff.mp hgo), hunwanted]
  refine ⟨hrun, ?_⟩
  rintro rfl
  obtain rfl := eq_of_testSight hfalse
  rw [hrun, List.append_nil, Step.behind_nil]
  cases rest with
  | nil => rfl
  | cons c more =>
    -- the look in front of the action is as good as that in front of the next one
    exact congrArg upshotOf (sight_performAll_again ..)

/-- A loop without a condition is always tried. -/
theorem alwaysTried_of_condition_eq_none {head : Head} {plan : LoopPlan} {body : List Action}
    (h : head.condition = none) : AlwaysTried (.loop head plan body) := by
  intro s b depth inherited rest st before hgo
  have hwanted (st : ChainState) : wantedSight b s (.loop head plan body) st before =
      ([], true, st) := by
    have hfree : (Action.loop head plan body).head.condition = none := h
    rw [wantedSight, isWanted, hfree]
    rfl
  rw [runDepth, sight_performAll_cons, if_neg (Bool.eq_false_iff.mp hgo), hwanted]
  generalize st.afterReply (lookOf b s before) = st
  have hseen : (Step.sight b (perform s (runDepth s depth) inherited (.loop head plan body)) st
      before).1.head? = some (.remark (.attempt (.loop head plan body) 0 st)) := by
    rw [perform, attempts.eq_def, Step.sight_bind]
    rfl
  dsimp only
  rw [Step.behind_nil, List.append_nil, Step.sight_bind]
  rcases hperform : Step.sight b (perform s (runDepth s depth) inherited (.loop head plan body)) st
    before with ⟨es, e | flow, st'⟩
  · rwa [hperform] at hseen
  · rw [hperform] at hseen
    change (es ++ _).head? = _
    rw [List.head?_append, hseen]
    rfl

/-- **What a condition does that is written in a form.** Every action of a form is read from
something that stands in the form; and whatever it is read from: if something stands there
under the name of a condition, it is a filter. It gates the action, if that is not a loop. But a
loop takes it for its test, and is always tried. -/
theorem declared_condition_gates {v : Value} {f : Form} (h : Form.ofValue v = .ok f) {u : Visit}
    (hu : u ∈ f.visits) :
    (∃ w, (Document.ofValue w).Within (.ofValue v) ∧ u.action.IsReadFrom (.ofValue w)) ∧
    ∀ w c, u.action.IsReadFrom (.ofValue w) → w.field? "condition" = some c → c ≠ .null →
      ∃ F : Filter, F.IsReadFrom (.ofValue c) ∧
        match u.action with
        | .loop head plan body => head.condition = none ∧ plan.test = some F ∧
            AlwaysTried (.loop head plan body)
        | a => a.head.condition = some F ∧ Gates F a := by
  constructor
  · obtain ⟨e, hin, hread⟩ := Form.exists_source_of_visit h hu
    obtain ⟨w, rfl⟩ := Document.exists_value_of_within hin rfl
    exact ⟨w, hin, hread⟩
  · intro w c hread hc hnull
    obtain ⟨F, hF, hdeclared⟩ := Action.declared_of_isReadFrom hread hc hnull
    refine ⟨F, hF, ?_⟩
    cases ha : u.action with
    | loop head plan body =>
      rw [ha] at hread hdeclared
      have hfree := Action.condition_loop_of_isReadFrom hread
      exact ⟨hfree, hdeclared, alwaysTried_of_condition_eq_none hfree⟩
    | _ =>
      rw [ha] at hdeclared
      exact ⟨hdeclared, gates_of_condition hdeclared⟩

/-- A pause is not made where its condition does not hold. -/
theorem unwanted_pause_not_made :
    let F : Filter := { property := some "mode", operator := some .hasValue }
    let a := Action.wait { id := "pause", condition := some F } 1000
    let f : Form := { actions := [a] }
    Form.ofValue f.toValue = .ok f ∧ ⟨a, false⟩ ∈ f.visits ∧
      upshotOf (Step.sight withoutUser (runDepth { form := f } 1 none [a]) {} []) =
        ([], .ok .next, ({} : ChainState).context) := by
  intro F a f
  have hF : F.Legible := .mk nofun nofun
  have ha : a.Legible := .wait ⟨nofun, fun c hc => Option.some.inj hc ▸ hF⟩ (by decide)
  have hf : f.Legible := ⟨nofun, fun c hc => List.mem_singleton.mp hc ▸ ha, nofun, nofun⟩
  have hread : a.IsReadFrom (.ofValue a.toValue) :=
    ⟨_, .value, ha.restores (Nat.lt_succ_self _) (Nat.le_refl _) .value nofun⟩
  refine ⟨hf.ofValue_toValue, List.mem_cons_self, ?_⟩
  obtain ⟨F', -, hcondition, hgates⟩ := (declared_condition_gates hf.ofValue_toValue
    (u := ⟨a, false⟩) List.mem_cons_self).2 a.toValue F.toValue hread
    (Action.field?_condition_toValue ha) F.toValue_ne_null
  obtain rfl : F = F' := Option.some.inj hcondition
  exact (hgates { form := f } withoutUser 0 none [] {} {} [] [] rfl rfl).1

/-- **A range is gone through although what is written under the name of a condition does not
hold.** The loop of this form stands behind a filter that does not hold in the state in which
the chain comes to it; what is seen is not what is seen of the list behind the loop. -/
theorem declared_condition_ignored :
    let F : Filter := { property := some "mode", operator := some .hasValue }
    let a := Action.loop { id := "each" }
      { kind := .count, count := some ⟨0, 0, 1⟩, test := some F }
      [.generateForm { id := "ask" } []]
    let f : Form := { actions := [a] }
    let s : ChainSetting := { form := f }
    let reached := ({} : ChainState).afterReply (lookOf withoutUser s [])
    Form.ofValue f.toValue = .ok f ∧ ⟨a, false⟩ ∈ f.visits ∧ a.IsReadFrom (.ofValue a.toValue) ∧
      a.toValue.field? "condition" = some F.toValue ∧ F.IsReadFrom (.ofValue F.toValue) ∧
      reached.cancelled = false ∧
      Step.testSight withoutUser (reached.satisfies (Step.decode s) F) reached [] =
        ([], false, reached) ∧
      upshotOf (Step.sight withoutUser (runDepth s 2 none [a]) {} []) ≠
        upshotOf (Step.sight withoutUser (runDepth s 2 none []) {} []) := by
  intro F a f s reached
  have hF : F.Legible := .mk nofun nofun
  have hask : (Action.generateForm { id := "ask" } []).Legible := .generateForm ⟨nofun, nofun⟩ nofun
  have hplan : LoopPlan.Legible { kind := .count, count := some ⟨0, 0, 1⟩, test := some F } := by
    refine ⟨nofun, fun r hr => ?_, fun c hc => Option.some.inj hc ▸ hF, nofun, nofun⟩
    obtain rfl := Option.some.inj hr
    exact ⟨by decide, by decide, by decide⟩
  have ha : a.Legible :=
    .loop ⟨nofun, nofun⟩ rfl hplan fun c hc => List.mem_singleton.mp hc ▸ hask
  have hf : f.Legible := ⟨nofun, fun c hc => List.mem_singleton.mp hc ▸ ha, nofun, nofun⟩
  have hread : a.IsReadFrom (.ofValue a.toValue) :=
    ⟨_, .value, ha.restores (Nat.lt_succ_self _) (Nat.le_refl _) .value nofun⟩
  have hreadF : F.IsReadFrom (.ofValue F.toValue) :=
    ⟨_, .value, hF.restores (Nat.lt_succ_self _) (Nat.le_refl _) .value nofun⟩
  refine ⟨hf.ofValue_toValue, List.mem_cons_self, hread,
    Action.field?_condition_toValue ha, hreadF, rfl, rfl, fun heq => ?_⟩
  have htried : AlwaysTried a := alwaysTried_of_condition_eq_none rfl
  have hhead := htried s withoutUser 1 none [] {} [] rfl
  have hevents := congrArg Prod.fst heq
  simp only [upshotOf] at hevents
  rw [hevents] at hhead
  cases hhead

end FormChain.Chain
