import FormChain.Proofs.Script.Run
import Mathlib.Data.List.Forall2

/-!
# Scripts that differ in their remarks

Remarks tell of a script, and nobody answers them. So two scripts that ask the same, go on
alike upon every reply and come to the same result are the same to their surroundings, even
if they do not say the same about it. They are *alike* (`FormChain.Script.Alike`) when in
addition the remarks correspond, one by one, in some given way; how they may differ is up to
whoever compares two scripts.

What the scripts have in common shows under surroundings that do not listen to remarks
(`FormChain.Behaviour.deaf`). Under these, alike scripts end with the same result, and what
happens is the same, event by event, but for the remarks (`FormChain.Script.Alike.under`).
-/

namespace FormChain

/-! ### Surroundings that do not listen -/

/-- The questions among events, with their replies. -/
def exchangesOf (es : List Event) : List Event :=
  es.filter (·.remark?.isNone)

@[simp] theorem exchangesOf_append (es es' : List Event) :
    exchangesOf (es ++ es') = exchangesOf es ++ exchangesOf es' :=
  List.filter_append ..

@[simp] theorem exchangesOf_remark (r : Remark) : exchangesOf [.remark r] = [] := rfl

/-- **Surroundings that do not listen to remarks.** -/
def Behaviour.deaf (b : Behaviour) : Behaviour :=
  fun before => b (exchangesOf before)

/-! ### Alike scripts -/

/-- **The same event**, but for a remark. -/
inductive Event.Alike (R : Remark → Remark → Prop) : Event → Event → Prop where
  /-- Remarks that correspond. -/
  | remark {r r' : Remark} : R r r' → Alike R (.remark r) (.remark r')
  /-- The same question with the same reply. -/
  | exchange (token : Token) (c : Call) (reply : Reply c) :
    Alike R (.exchange token c reply) (.exchange token c reply)

namespace Script

variable {R : Remark → Remark → Prop} {α β : Type}

/-- **The same script**, but for its remarks. -/
inductive Alike (R : Remark → Remark → Prop) : Script α → Script α → Prop where
  /-- Both end with the same result. -/
  | done (a : α) : Alike R (.done a) (.done a)
  /-- Both make a remark. -/
  | remark {r r' : Remark} {next next' : Script α} :
    R r r' → Alike R next next' → Alike R (.remark r next) (.remark r' next')
  /-- Both ask the same, and go on alike upon each reply. -/
  | ask {token : Token} {c : Call} {next next' : Reply c → Script α} :
    (∀ reply, Alike R (next reply) (next' reply)) →
    Alike R (.ask token c next) (.ask token c next')

/-- A script is like itself, where a remark corresponds to itself. -/
theorem Alike.refl (hR : ∀ r, R r r) (x : Script α) : Alike R x x := by
  induction x with
  | done a => exact .done a
  | remark r next ih => exact .remark (hR r) ih
  | ask token c next ih => exact .ask ih

/-- **What is put together** of alike scripts is alike. -/
theorem Alike.bind {x y : Script α} {f g : α → Script β} (hx : Alike R x y)
    (hf : ∀ a, Alike R (f a) (g a)) : Alike R (x.bind f) (y.bind g) := by
  induction hx with
  | done a => exact hf a
  | remark hr _ ih => exact .remark hr ih
  | ask _ ih => exact .ask ih

/-- **Nobody can tell alike scripts apart** who does not listen to remarks: they come to the same
result, and what happens is the same but for the remarks. -/
theorem Alike.under {x y : Script α} (h : Alike R x y) (b : Behaviour)
    {before before' : List Event} (hbefore : exchangesOf before = exchangesOf before') :
    (x.under b.deaf before).2 = (y.under b.deaf before').2 ∧
      List.Forall₂ (Event.Alike R) (x.under b.deaf before).1 (y.under b.deaf before').1 := by
  induction h generalizing before before' with
  | done a => exact ⟨rfl, .nil⟩
  | @remark r r' _ _ hr _ ih =>
    have hmore : exchangesOf (before ++ [.remark r]) = exchangesOf (before' ++ [.remark r']) := by
      simpa using hbefore
    obtain ⟨hresult, hevents⟩ := ih hmore
    exact ⟨hresult, .cons (.remark hr) hevents⟩
  | @ask token c next next' _ ih =>
    have hreply : b.deaf before token c = b.deaf before' token c := by
      rw [Behaviour.deaf, Behaviour.deaf, hbefore]
    have hmore : exchangesOf (before ++ [.exchange token c (b.deaf before token c)]) =
        exchangesOf (before' ++ [.exchange token c (b.deaf before token c)]) := by
      rw [exchangesOf_append, exchangesOf_append, hbefore]
    obtain ⟨hresult, hevents⟩ := ih _ hmore
    simp only [Script.under, ← hreply]
    exact ⟨hresult, .cons (.exchange ..) hevents⟩

end Script

/-! ### Alike steps -/

namespace Step

variable {R : Remark → Remark → Prop} {ε δ α β : Type} {x y : Step ε α}

/-- **The same step**, but for its remarks. -/
def Alike (R : Remark → Remark → Prop) (x y : Step ε α) : Prop :=
  ∀ st, Script.Alike R (x st) (y st)

theorem Alike.refl (hR : ∀ r, R r r) (x : Step ε α) : Alike R x x :=
  fun st => .refl hR (x st)

theorem Alike.remark {f g : ChainState → Remark} (h : ∀ st, R (f st) (g st)) :
    Alike R (Step.remark f : Step ε Unit) (Step.remark g) :=
  fun st => .remark (h st) (.done _)

/-- **What is put together** of alike steps is alike. -/
theorem Alike.bind {f g : α → Step ε β} (hx : Alike R x y) (hf : ∀ a, Alike R (f a) (g a)) :
    Alike R (x >>= f) (y >>= g) := by
  refine fun st => (hx st).bind ?_
  rintro ⟨e | a, st'⟩
  · exact .done _
  · exact hf a st'

/-- A step behind the same one. -/
theorem Alike.after (hR : ∀ r, R r r) (x : Step ε α) {f g : α → Step ε β}
    (hf : ∀ a, Alike R (f a) (g a)) : Alike R (x >>= f) (x >>= g) :=
  (refl hR x).bind hf

/-- Alike steps have alike outcomes. -/
theorem Alike.outcome (hx : Alike R x y) :
    Alike R (Step.outcome x : Step δ _) (Step.outcome y) :=
  fun st => (hx st).bind fun _ => .done _

end Step

end FormChain
