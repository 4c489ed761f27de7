import FormChain.Chain.Run
import FormChain.Proofs.Chain.Context
import FormChain.Proofs.Condition.Testing

/-!
# What tests do in a chain

A condition that asks for the text of a file has it decoded. The decoder is the host's, and
takes its time; by the time it answers, the token may be cancelled, and the clock shows another
time. But that is all that a test does: files are decoded, one after another, and nothing else
happens (`FormChain.Decodes`). What the chain works on is left as it is
(`FormChain.Decodes.context_eq`).
-/

namespace FormChain

/-- **Files are decoded**, one after another. -/
inductive Decodes (s : ChainSetting) : ChainState → List Event → ChainState → Prop where
  /-- There is none any more. -/
  | ended (st : ChainState) : Decodes s st [] st
  /-- A file is decoded, and others are behind it. -/
  | decoded {st st' : ChainState} {file : Value} {es : List Event}
    (reply : Reply (.decode file)) :
    Decodes s (st.afterReply reply) es st' →
      Decodes s st (.exchange s.token (.decode file) reply :: es) st'

namespace Decodes

variable {s : ChainSetting} {st st₁ st' : ChainState} {es es' : List Event}

theorem append (h : Decodes s st es st₁) (h' : Decodes s st₁ es' st') :
    Decodes s st (es ++ es') st' := by
  induction h with
  | ended => exact h'
  | decoded reply _ ih => exact .decoded reply (ih h')

/-- **What is known of the token** is what was known, and what replies have told. -/
theorem cancelled_eq (h : Decodes s st es st') :
    st'.cancelled = (st.cancelled || es.any (·.tellsCancelled)) := by
  induction h with
  | ended => simp
  | decoded reply _ ih =>
    simp [ih, ChainState.afterReply, Event.tellsCancelled, Bool.or_assoc]

/-- **The context is left alone**, and the seed. -/
theorem context_eq (h : Decodes s st es st') : st'.context = st.context ∧ st'.seed = st.seed := by
  induction h with
  | ended => exact ⟨rfl, rfl⟩
  | decoded reply _ ih => exact ih

theorem scope_eq (h : Decodes s st es st') : st'.scope = st.scope :=
  congrArg ChainContext.scope h.context_eq.1

/-- All that happens is that files are decoded. -/
theorem exchange_of_mem (h : Decodes s st es st') {e : Event} (he : e ∈ es) :
    ∃ (file : Value) (reply : Reply (.decode file)),
      e = .exchange s.token (.decode file) reply := by
  induction h with
  | ended => cases he
  | decoded reply _ ih =>
    rcases List.mem_cons.mp he with rfl | he
    · exact ⟨_, reply, rfl⟩
    · exact ih he

/-- Nothing is remarked on. -/
@[simp] theorem remarksOf_eq (h : Decodes s st es st') : remarksOf es = [] := by
  refine List.filterMap_eq_nil_iff.mpr fun e he => ?_
  obtain ⟨file, reply, rfl⟩ := h.exchange_of_mem he
  rfl

theorem remark_notMem (h : Decodes s st es st') {r : Remark} : .remark r ∉ es := by
  intro hmem
  obtain ⟨file, reply, heq⟩ := h.exchange_of_mem hmem
  cases heq

/-- No attempt starts. -/
theorem startsAttempt_eq_false (h : Decodes s st es st') {e : Event} (he : e ∈ es) :
    e.startsAttempt = false := by
  obtain ⟨file, reply, rfl⟩ := h.exchange_of_mem he
  rfl

/-- **A frame on the scope** stays there. -/
theorem of_enter {f : Frame} (h : Decodes s (st.enter f) es st') :
    ∃ st₁, st' = st₁.enter f ∧ Decodes s st es st₁ := by
  generalize hst : st.enter f = start at h
  induction h generalizing st with
  | ended => exact ⟨st, hst.symm, .ended st⟩
  | decoded reply _ ih =>
    subst hst
    obtain ⟨st₁, rfl, h⟩ := @ih (st.afterReply reply) rfl
    exact ⟨st₁, rfl, .decoded reply h⟩

end Decodes

/-! ### Tests -/

/-- **Having files decoded passes on to tests.** -/
theorem passesOn_decodes (s : ChainSetting) :
    PassesOn (Step.decode s) fun {α} (x : Step.Test α) =>
      ∀ st es a st', Step.Test.Run x st es a st' → Decodes s st es st' where
  pure a st es b st' h := by
    obtain ⟨rfl, -, rfl⟩ := Step.Test.run_pure.mp h
    exact .ended _
  bind hx hf st es b st' h := by
    obtain ⟨es₁, a, st₁, es₂, rfl, h₁, h₂⟩ := Step.Test.run_bind.mp h
    exact (hx _ _ _ _ h₁).append (hf a _ _ _ _ h₂)
  decode file st es content st' h := by
    obtain ⟨reply, rfl, -, rfl⟩ := Step.run_decode.mp h
    exact .decoded reply (.ended _)

/-- A filter that asks for errors in a log. -/
def speaksOfError : Filter where
  property := some "log"
  operator := some .fileContains
  value := some (.text "error")

namespace Chain

/-- **Testing the condition of an action** decodes files, if it does anything. -/
theorem tested_isWanted {m : Type → Type} [Monad m] {decode : Value → m (Option String)}
    {P : {α : Type} → m α → Prop} (h : PassesOn decode P) (st : ChainState) (a : Action) :
    P (isWanted decode st a) := by
  unfold isWanted
  split
  · exact h.pure true
  · exact Filter.tested h _

/-- **A condition is tested** in a state: by what happens, whether it holds, and the state
behind it. -/
def Tests (s : ChainSetting) (f : Filter) (st : ChainState) (es : List Event) (held : Bool)
    (st' : ChainState) : Prop :=
  Step.Test.Run (st.satisfies (Step.decode s) f) st es held st'

/-- **The condition of an action is tested**, if it has one. -/
def Wants (s : ChainSetting) (a : Action) (st : ChainState) (es : List Event) (wanted : Bool)
    (st' : ChainState) : Prop :=
  Step.Test.Run (isWanted (Step.decode s) st a) st es wanted st'

variable {s : ChainSetting} {a : Action} {f : Filter} {st st' : ChainState} {es : List Event}
  {held : Bool}

theorem Tests.decodes (h : Tests s f st es held st') : Decodes s st es st' :=
  Filter.tested (passesOn_decodes s) f _ _ _ _ h

theorem Wants.decodes (h : Wants s a st es held st') : Decodes s st es st' :=
  tested_isWanted (passesOn_decodes s) st a _ _ _ _ h

end Chain

end FormChain
