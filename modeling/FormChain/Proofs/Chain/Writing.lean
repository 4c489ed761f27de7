import FormChain.Proofs.Chain.Failure

/-!
# Who writes a variable

The variables of a chain are written by its actions, and an action writes one variable at most
(`FormChain.Action.output?`). Everything else that effects are made of spares them: reading,
the questions to the surroundings, and the answers of forms, which are no variables. So an effect
leaves a variable as it was if it is not the output of its action
(`FormChain.spares_plainEffect`), or if it fails.

Collecting is the one effect that looks at what the variable holds. It comes about exactly inside
of a loop, and then the variable holds what is made of its value and the one that is collected
(`FormChain.run_collectData`).
-/

namespace FormChain

/-! ### Collecting -/

/-- **The value that is collected** in a state: what the content means there. -/
def Collect.valueIn (c : Collect) (st : ChainState) : Value :=
  ((Template.expandValue st.environment c.content).run st.seed).1

/-- **To collect a value** comes about inside of a loop and nowhere else, and nothing happens
with it. Then the variable holds what is made of the value that it held in front, and of the one
that is collected. -/
theorem run_collectData {c : Collect} {st st' : ChainState} {es : List Event}
    {r : Except ActionError Unit} (h : (Effect.collectData c).Run st es r st') :
    es = [] ∧
      ((st.scope.insideLoop = false ∧ r = .error (.misuse .outsideLoop) ∧ st' = st) ∨
        (st.scope.insideLoop = true ∧ r = .ok () ∧
          st'.outputs = st.outputs.insert c.output
            (c.collected (st.outputs.get? c.output) (c.valueIn st)))) := by
  unfold Effect.collectData at h
  rw [Step.run_state_bind] at h
  cases hloop : st.scope.insideLoop with
  | false =>
    rw [hloop] at h
    obtain ⟨rfl, rfl, rfl⟩ := Step.run_throw_bind.mp h
    exact ⟨rfl, Or.inl ⟨rfl, rfl, rfl⟩⟩
  | true =>
    rw [hloop] at h
    have hdrawn := (Step.run_drawing_bind (f := (Template.expandValue · c.content))).mp h
    obtain ⟨rfl, rfl, rfl⟩ := Step.run_change.mp (Step.run_state_bind.mp hdrawn)
    exact ⟨rfl, Or.inr ⟨rfl, rfl, rfl⟩⟩

/-- Collecting fails only where no loop is running. -/
theorem insideLoop_of_collectData {c : Collect} {st st' : ChainState} {es : List Event}
    {e : ActionError} (h : (Effect.collectData c).Run st es (.error e) st') :
    st.scope.insideLoop = false := by
  rcases (run_collectData h).2 with ⟨hout, -, -⟩ | ⟨-, hok, -⟩
  · exact hout
  · cases hok

/-! ### What spares a variable -/

/-- A part of an effect that **spares a variable**: whatever it comes to, the variable holds what
it held before. -/
def Spares {α : Type} (v : String) (x : Effect α) : Prop :=
  ∀ st es r st', x.Run st es r st' → st'.outputs.get? v = st.outputs.get? v

section Parts

variable {v : String} {α β : Type}

/-- What only reads spares all variables. -/
theorem Reads.spares {own : Misuse → Bool} {x : Effect α} (hx : Reads own x) : Spares v x := by
  intro st es r st' h
  have hcontext := (hx _ _ _ _ h).1.context
  exact congrArg (·.outputs.get? v) hcontext

theorem spares_throw (e : ActionError) : Spares v (throw e : Effect α) := by
  intro st es r st' h
  obtain ⟨-, -, rfl⟩ := Step.run_throw.mp h
  rfl

theorem Spares.bind {x : Effect α} {f : α → Effect β} (hx : Spares v x)
    (hf : ∀ a, Spares v (f a)) : Spares v (x >>= f) := by
  intro st es r st' h
  rcases Step.run_bind.mp h with ⟨e, h₁, rfl⟩ | ⟨es₁, a, st₁, es₂, rfl, h₁, h₂⟩
  · exact hx _ _ _ _ h₁
  · exact (hf a _ _ _ _ h₂).trans (hx _ _ _ _ h₁)

/-- A question, and what is made of its answer. -/
theorem spares_ask {s : ChainSetting} {c : Call} (g : c.Answer → Except ActionError β) :
    Spares v ((Step.ask s c : Effect c.Answer) >>= fun a => Step.ofExcept (g a)) := by
  intro st es r st' h
  obtain ⟨reply, es', rfl, h'⟩ := Step.run_ask_bind.mp h
  obtain ⟨-, -, rfl⟩ := Step.run_ofExcept.mp h'
  rfl

/-- A change that is none of this variable. -/
theorem spares_change {g : ChainState → ChainState}
    (h : ∀ st, (g st).outputs.get? v = st.outputs.get? v) :
    Spares v (Step.change g : Effect Unit) := by
  intro st es r st' hrun
  obtain ⟨-, -, rfl⟩ := Step.run_change.mp hrun
  exact h st

/-- **All that effects are made of spares a variable** but for writing it. -/
theorem pervades_spares (s : ChainSetting) (v : String) : Pervades s (· ≠ v) (Spares v) where
  pure a := (reads_pure a : Reads (fun _ => false) _).spares
  throw _ := spares_throw _
  bind := Spares.bind
  state := (reads_state : Reads (fun _ => false) _).spares
  drawing g := (reads_drawing g : Reads (fun _ => false) _).spares
  ask _ _ := spares_ask _
  write _ hname := spares_change fun _ => Keyed.get?_insert_of_ne _ _ hname.symm
  answers _ _ := spares_change fun _ => rfl

end Parts

section Effects

variable {s : ChainSetting} {a : Action} {x : Effect Unit}

/-- **An effect writes the output of its action**, and no other variable. -/
theorem spares_plainEffect (h : Chain.plainEffect? s a = some x) {v : String}
    (hv : a.output? ≠ some v) : Spares v x :=
  Chain.pervades_plainEffect (pervades_spares s v) h fun _ hname hsame =>
    hv (hsame ▸ hname)

/-- **An effect that fails writes nothing.** -/
theorem outputs_eq_of_failed (h : Chain.plainEffect? s a = some x) {st st' : ChainState}
    {es : List Event} {e : ActionError} (hrun : x.Run st es (.error e) st') :
    st'.outputs = st.outputs :=
  congrArg (·.outputs) (tidy_plainEffect h _ _ _ _ hrun).1.context

end Effects

end FormChain
