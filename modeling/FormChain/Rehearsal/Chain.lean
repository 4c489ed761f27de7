import FormChain.Chain.Run
import FormChain.Rehearsal.Schedule

/-!
# Rehearsing a chain

One chain by itself, without a session: its token is cancelled only as laid out.
-/

namespace FormChain

namespace Rehearsal

/-- How a rehearsed chain ends. -/
structure ChainEnd where
  /-- The outcome. -/
  outcome : Chain.Outcome
  /-- The state of the chain. -/
  state : ChainState

/-- Nobody moves a chain behind the user's back here. -/
def noJob : JobScript Unit := fun _ => .done ()

/-- **Rehearse the chain of a form**, with answers and outputs to start from. -/
def chain (form : Form) (config : Config) (canLaunch : Bool) (values outputs : Bag) (w : World) :
    Option ChainEnd × World :=
  let setting : ChainSetting := { form, config, canLaunch }
  let state : ChainState := { values, fieldIds := form.idsByLabel, outputs, now := w.now }
  let (r, _, w) := play noJob maxTurns maxRequests (Chain.execute setting form.actions state) {} w
  (r.map fun (outcome, state) => ⟨outcome, state⟩, w)

end Rehearsal

end FormChain
