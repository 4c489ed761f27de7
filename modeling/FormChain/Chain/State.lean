import FormChain.Condition.Filter
import FormChain.Template.Basic

/-!
# The state of a chain

What a chain has come to so far: the answers, the variables, the scope of loops, and what
is known of the token and of the time. References are looked up in it, and filters are
tested in it.
-/

namespace FormChain

/-- **The state of a chain.** -/
structure ChainState where
  /-- The answers of the form, under the ids of its fields. -/
  values : Bag := []
  /-- The ids of fields under their labels. -/
  fieldIds : Keyed String := []
  /-- The variables that actions have written. -/
  outputs : Bag := []
  /-- The scope of loops. -/
  scope : Scope := .empty
  /-- Whether the token was seen cancelled. -/
  cancelled : Bool := false
  /-- What the clock has shown last. -/
  now : LocalMoment := default
  /-- What random texts are drawn from. -/
  seed : Nat := 0

namespace ChainState

/-- Where references are looked up. -/
def environment (st : ChainState) : Environment where
  values := st.values
  fieldIds := st.fieldIds
  outputs := st.outputs
  scope := st.scope
  now := st.now

/-- **What a filter looks up.** -/
def lookup? (st : ChainState) (property : String) : Option Value :=
  st.environment.lookup? property

/-- What a filter is asked with: references in the values that it compares with are
expanded. -/
def inquiry (st : ChainState) : Inquiry where
  lookup := st.lookup?
  prepare v := ((Template.expandAll st.environment v).run st.seed).1
  now := st.now

/-- **Test a filter in a state**, where somebody decodes files. -/
def satisfies {m : Type → Type} [Monad m] (decode : Value → m (Option String)) (st : ChainState)
    (f : Filter) : m Bool :=
  f.test decode st.inquiry

/-- Enter an iteration with a frame. -/
def enter (st : ChainState) (f : Frame) : ChainState :=
  { st with scope := st.scope.push f }

/-- Leave iterations until no more than `depth` loops are running. -/
def cutBack (st : ChainState) (depth : Nat) : ChainState :=
  { st with scope := st.scope.truncate depth }

/-- Leaving the iteration just entered gives the state back. -/
@[simp] theorem cutBack_enter (st : ChainState) (f : Frame) :
    (st.enter f).cutBack st.scope.depth = st := by
  simp [enter, cutBack]

/-- Different states are different with a frame entered. -/
theorem enter_inj {st st' : ChainState} {f : Frame} (h : st.enter f = st'.enter f) : st = st' := by
  rw [← cutBack_enter st f, ← cutBack_enter st' f, h]
  have hdepth : st.scope.depth + 1 = st'.scope.depth + 1 := by
    simpa [enter] using congrArg (fun st : ChainState => st.scope.depth) h
  rw [Nat.add_right_cancel hdepth]

end ChainState

end FormChain
