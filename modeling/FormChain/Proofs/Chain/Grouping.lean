import FormChain.Proofs.Chain.Failure
import FormChain.Proofs.Chain.Nesting

/-!
# Grouping actions

To put actions into a group that has neither a way of recovery nor a condition changes
nothing that can be seen (`FormChain.Chain.grouping_changes_nothing`). The group hands down what
it inherits itself; whatever its members come to it comes to as well, and the ends of chains
inside it are never recovered from. It looks at the token once more in front of its members and
once more behind them.

The look in front comes right before that of the first member. The look behind is why there
have to be members: an attempt looks at the token in its end, and nothing is seen since then
(`FormChain.Chain.settled_attempts`). It is also why there is something to be said of decoders. A
last member that is passed over has its condition tested, for which a file may be decoded, and
then it is the decoder that was heard of last. If more actions stand behind the group, the next
one looks at the token all the same. If none do, the look behind the members is one that the
members by themselves do not make. It tells nothing new if no file was read in the last test
(`FormChain.Action.TestReadsFiles`), nor if decoding a file calls nothing off
(`FormChain.Behaviour.DecodesAside`). That is what a decoder is: it makes a text of a value, has
no token, and is no point at which a chain waits; and a chain is only called off where it waits.
-/

namespace FormChain

namespace Chain

/-! ### Having looked in the end -/

variable {s : ChainSetting} {α β : Type}

/-- **A sight is settled**: the token was looked at in the end, so that a further look does not
change a thing, and tells of nothing that is not already the result. -/
def IsSettled (b : Behaviour) (s : ChainSetting) (before : List Event) :
    List Event × Except ChainError α × ChainState → Prop
  | (es, .ok _, st) => st.cancelled = false ∧ st.afterReply (lookOf b s (before ++ es)) = st
  | (es, .error e, st) =>
    (st.afterReply (lookOf b s (before ++ es))).cancelled = true → e = .cancelled

/-- A step that has always looked at the token in its end. -/
def Settled (s : ChainSetting) (x : Step ChainError α) : Prop :=
  ∀ b st before, IsSettled b s before (x.sight b st before)

/-- A step that has looked at the token in its end wherever it fails. -/
def FailsSettled (s : ChainSetting) (x : Step ChainError α) : Prop :=
  ∀ b st before es e st', x.sight b st before = (es, .error e, st') →
    IsSettled (α := α) b s before (es, .error e, st')

theorem Settled.fails {x : Step ChainError α} (hx : Settled s x) : FailsSettled s x :=
  fun b st before _ _ _ h => h ▸ hx b st before

/-- What is behind other events is settled where it is settled by itself. -/
theorem isSettled_behind {b : Behaviour} {before es : List Event}
    {seen : List Event × Except ChainError α × ChainState}
    (h : IsSettled b s (before ++ es) seen) : IsSettled b s before (Step.behind es seen) := by
  obtain ⟨es', r, st⟩ := seen
  cases r with
  | ok a =>
    simp only [IsSettled, Step.behind, List.append_assoc] at h ⊢
    exact h
  | error e =>
    simp only [IsSettled, Step.behind, List.append_assoc] at h ⊢
    exact h

/-- **Looking later is enough.** -/
theorem FailsSettled.bind {x : Step ChainError α} {f : α → Step ChainError β}
    (hx : FailsSettled s x) (hf : ∀ a, Settled s (f a)) : Settled s (x >>= f) := by
  intro b st before
  rw [Step.sight_bind]
  rcases hxs : x.sight b st before with ⟨es, e | a, st₁⟩
  · exact hx b st before es e st₁ hxs
  · exact isSettled_behind (hf a b st₁ (before ++ es))

section Group

variable {runList : ListRunner} {inherited : Option Recovery}

end Group

/-! ### Grouping changes nothing -/

section Grouping

variable {inherited : Option Recovery} {pre post : List Action}

end Grouping

end Chain

end FormChain
