import FormChain.Proofs.Chain.Context
import FormChain.Proofs.Chain.Rules

/-!
# What is seen of a chain

Two lists of actions that do the same need not go through the same events. The one may look
at the token once more than the other, or come to a group that the other does without; but
nobody who is asked something learns of that. What is *seen* of a chain
(`FormChain.Event.isSeen`) is every question but a mere look, and with it the iterations of
loops and the attempts of all actions but groups, so that between any two of these the token
can be cancelled.

Surroundings that *go by sight* (`FormChain.Behaviour.bySight`) reply by what was seen before.
So they reply alike to looks with nothing seen in between, and to have looked twice is to
have looked once. What is seen under such surroundings, and the result, is the *sight* of a
script (`FormChain.Script.sight`); it is that of its parts, one behind the other
(`FormChain.Step.sight_bind`).
-/

namespace FormChain

/-! ### What is seen -/

/-- **Whether an event is seen.** -/
def Event.isSeen : Event → Bool
  | .exchange _ .look _ => false
  | .remark (.reached ..) => false
  | .remark (.attempt (.group ..) ..) => false
  | _ => true

/-- What is seen of some events. -/
def seenOf (es : List Event) : List Event :=
  es.filter (·.isSeen)

@[simp] theorem seenOf_nil : seenOf [] = [] := rfl

@[simp] theorem seenOf_append (es es' : List Event) :
    seenOf (es ++ es') = seenOf es ++ seenOf es' :=
  List.filter_append ..

@[simp] theorem seenOf_seenOf (es : List Event) : seenOf (seenOf es) = seenOf es := by
  simp [seenOf]

/-- **What is in the vault** is told by what is seen. -/
theorem MemoryVault.behind_seenOf (m : MemoryVault) (es : List Event) :
    m.behind (seenOf es) = m.behind es := by
  induction es generalizing m with
  | nil => rfl
  | cons e es ih =>
    rw [seenOf, List.filter_cons]
    split
    · exact ih (m.after e)
    · next hunseen =>
      -- only requests to the vault change it, and they are seen
      have hsame : m.after e = m := by
        cases e with
        | remark r => rfl
        | exchange token c reply =>
          cases c with
          | look => rfl
          | _ => exact absurd rfl hunseen
      rw [behind_cons, hsame]
      exact ih m

/-- **The surroundings that reply by what was seen.** -/
def Behaviour.bySight (b : Behaviour) : Behaviour :=
  fun before => b (seenOf before)

/-! ### The sight of a script -/

namespace Script

variable {α β : Type} {b : Behaviour}

/-- **The sight of a script**: what is seen of it where the surroundings go by sight, and the
result. -/
def sight (b : Behaviour) (x : Script α) (before : List Event) : List Event × α :=
  (seenOf (x.under b.bySight before).1, (x.under b.bySight before).2)

theorem sight_done (a : α) (before : List Event) : (done a).sight b before = ([], a) := rfl

/-- What was not seen before makes no difference. -/
theorem sight_congr (x : Script α) {before before' : List Event}
    (h : seenOf before = seenOf before') : x.sight b before = x.sight b before' := by
  induction x generalizing before before' with
  | done a => rfl
  | remark r next ih =>
    have hnext : next.sight b (before ++ [.remark r]) = next.sight b (before' ++ [.remark r]) :=
      ih (by simp [h])
    obtain ⟨hes, ha⟩ := Prod.mk.inj hnext
    refine Prod.ext ?_ ha
    change seenOf ([.remark r] ++ _) = seenOf ([.remark r] ++ _)
    rw [seenOf_append, seenOf_append, hes]
  | ask token c next ih =>
    have hreply : b.bySight before token c = b.bySight before' token c := by
      simp only [Behaviour.bySight, h]
    have hnext : (next (b.bySight before token c)).sight b
          (before ++ [.exchange token c (b.bySight before token c)]) =
        (next (b.bySight before token c)).sight b
          (before' ++ [.exchange token c (b.bySight before token c)]) :=
      ih _ (by simp [h])
    obtain ⟨hes, ha⟩ := Prod.mk.inj hnext
    rw [sight, under, sight, under, ← hreply]
    refine Prod.ext ?_ ha
    change seenOf ([.exchange ..] ++ _) = seenOf ([.exchange ..] ++ _)
    rw [seenOf_append, seenOf_append, hes]

/-- **The sight of two scripts put together.** -/
theorem sight_bind (x : Script α) (f : α → Script β) (before : List Event) :
    (x.bind f).sight b before =
      ((x.sight b before).1 ++
          ((f (x.sight b before).2).sight b (before ++ (x.sight b before).1)).1,
        ((f (x.sight b before).2).sight b (before ++ (x.sight b before).1)).2) := by
  have hbehind : (f (x.under b.bySight before).2).sight b
        (before ++ (x.under b.bySight before).1) =
      (f (x.under b.bySight before).2).sight b
        (before ++ seenOf (x.under b.bySight before).1) :=
    sight_congr _ (by simp)
  obtain ⟨hes, ha⟩ := Prod.mk.inj hbehind
  simp only [sight, under_bind, seenOf_append, hes, ha]

end Script

/-! ### The sight of a step -/

namespace Step

variable {ε δ α β : Type} {b : Behaviour} {st : ChainState} {before : List Event}

/-- The sight of a step from a state on. -/
abbrev sight (b : Behaviour) (x : Step ε α) (st : ChainState) (before : List Event) :
    List Event × Except ε α × ChainState :=
  (x st).sight b before

/-- More in front of a sight. -/
def behind (es : List Event) (seen : List Event × Except ε α × ChainState) :
    List Event × Except ε α × ChainState :=
  (es ++ seen.1, seen.2)

@[simp] theorem behind_nil (seen : List Event × Except ε α × ChainState) :
    behind [] seen = seen := rfl

/-- **The sight of one step behind another.** -/
theorem sight_bind (x : Step ε α) (f : α → Step ε β) :
    sight b (x >>= f) st before =
      match sight b x st before with
      | (es, .ok a, st₁) => behind es (sight b (f a) st₁ (before ++ es))
      | (es, .error e, st₁) => (es, .error e, st₁) := by
  change ((x st).bind _).sight b before = _
  rw [Script.sight_bind]
  rcases hx : sight b x st before with ⟨es, e | a, st₁⟩
  · simp only [sight] at hx
    simp only [hx, Script.sight_done, List.append_nil]
  · simp only [sight] at hx
    simp only [hx]
    rfl

theorem sight_outcome (x : Step ε α) :
    sight b (outcome x : Step δ _) st before =
      ((sight b x st before).1, .ok (sight b x st before).2.1, (sight b x st before).2.2) := by
  change ((x st).bind _).sight b before = _
  rw [Script.sight_bind]
  simp only [Script.sight_done, List.append_nil]

theorem sight_mapError (f : ε → δ) (x : Step ε α) :
    sight b (mapError f x) st before =
      ((sight b x st before).1, (sight b x st before).2.1.mapError f,
        (sight b x st before).2.2) := by
  change ((x st).bind _).sight b before = _
  rw [Script.sight_bind]
  simp only [Script.sight_done, List.append_nil]

/-- The sight of a test from a state on. -/
abbrev testSight (b : Behaviour) (x : Test α) (st : ChainState) (before : List Event) :
    List Event × α × ChainState :=
  (x st).sight b before

/-- A test does not fail, and what follows goes on with what it comes to. -/
theorem sight_ofTest_bind (x : Test α) (k : α → Step ε β) :
    sight b (ofTest x >>= k) st before =
      behind (testSight b x st before).1
        (sight b (k (testSight b x st before).2.1) (testSight b x st before).2.2
          (before ++ (testSight b x st before).1)) := by
  have hsight : sight b (ofTest x : Step ε α) st before =
      ((testSight b x st before).1, .ok (testSight b x st before).2.1,
        (testSight b x st before).2.2) := by
    change ((x st).bind _).sight b before = _
    rw [Script.sight_bind]
    simp only [Script.sight_done, List.append_nil]
  rw [sight_bind, hsight]

theorem sight_state_bind (k : ChainState → Step ε β) :
    sight b (state >>= k) st before = sight b (k st) st before := rfl

/-- A remark that is not seen. -/
theorem sight_remark_bind {r : ChainState → Remark} (k : Unit → Step ε β)
    (h : (Event.remark (r st)).isSeen = false) :
    sight b (remark r >>= k) st before = sight b (k ()) st before := by
  have hunseen : seenOf [.remark (r st)] = [] := by simp [seenOf, h]
  rw [sight_bind]
  change behind (seenOf [.remark (r st)])
    (sight b (k ()) st (before ++ seenOf [.remark (r st)])) = _
  rw [hunseen, List.append_nil, behind_nil]

end Step

namespace Chain

variable {b : Behaviour} {s : ChainSetting} {st : ChainState} {before : List Event}

/-! ### Looks and lists -/

/-- The reply of surroundings that go by sight to a look. -/
def lookOf (b : Behaviour) (s : ChainSetting) (before : List Event) : Reply .look :=
  b (seenOf before) s.token .look

/-- **A look at the token** is not seen, and what follows depends on its reply. -/
theorem sight_checkToken_bind {β : Type} (k : Unit → Step ChainError β) :
    Step.sight b (checkToken s >>= k) st before =
      if (st.afterReply (lookOf b s before)).cancelled then
        ([], .error .cancelled, st.afterReply (lookOf b s before))
      else Step.sight b (k ()) (st.afterReply (lookOf b s before)) before := by
  have hlook : Step.sight b (checkToken s) st before =
      if (st.afterReply (lookOf b s before)).cancelled then
        ([], .error .cancelled, st.afterReply (lookOf b s before))
      else ([], .ok (), st.afterReply (lookOf b s before)) := by
    rw [checkToken, Step.sight_bind]
    change Step.behind [] (Step.sight b stopIfCancelled (st.afterReply (lookOf b s before))
      (before ++ [])) = _
    rw [stopIfCancelled, Step.sight_state_bind]
    split <;> rfl
  rw [Step.sight_bind, hlook]
  cases (st.afterReply (lookOf b s before)).cancelled with
  | true => rfl
  | false => simp

/-- To have looked again is to have looked once. -/
@[simp] theorem afterReply_afterReply {c : Call} (reply : Reply c) :
    (st.afterReply reply).afterReply reply = st.afterReply reply := by
  simp [ChainState.afterReply]

/-- **The sight of the condition of an action**: the files that are decoded, whether the action
is wanted, and the state behind the test. -/
def wantedSight (b : Behaviour) (s : ChainSetting) (a : Action) (st : ChainState)
    (before : List Event) : List Event × Bool × ChainState :=
  Step.testSight b (isWanted (Step.decode s) st a) st before

/-- **The sight of a list of actions**: that of the condition of the first action, that of the
action, if it is wanted, and that of the others behind it. -/
theorem sight_performAll_cons (runList : ListRunner) (inherited : Option Recovery) (a : Action)
    (rest : List Action) :
    Step.sight b (performAll s runList inherited (a :: rest)) st before =
      if (st.afterReply (lookOf b s before)).cancelled then
        ([], .error .cancelled, st.afterReply (lookOf b s before))
      else match wantedSight b s a (st.afterReply (lookOf b s before)) before with
        | (es, true, st₀) => Step.behind es (Step.sight b (perform s runList inherited a >>= fun
            | .leave => pure .leave
            | .next => performAll s runList inherited rest) st₀ (before ++ es))
        | (es, false, st₀) =>
          Step.behind es (Step.sight b (performAll s runList inherited rest) st₀ (before ++ es)) := by
  rw [performAll, sight_checkToken_bind]
  split
  · rfl
  · rw [Step.sight_remark_bind _ rfl, Step.sight_state_bind, Step.sight_ofTest_bind, wantedSight]
    rcases Step.testSight b (isWanted (Step.decode s) (st.afterReply (lookOf b s before)) a)
      (st.afterReply (lookOf b s before)) before with ⟨es, held, st₀⟩
    cases held <;> rfl

/-- Right behind a look, a list with at least one action goes on as it would in front of it. -/
theorem sight_performAll_again (runList : ListRunner) (inherited : Option Recovery) (a : Action)
    (rest : List Action) :
    Step.sight b (performAll s runList inherited (a :: rest))
        (st.afterReply (lookOf b s before)) before =
      Step.sight b (performAll s runList inherited (a :: rest)) st before := by
  rw [sight_performAll_cons, sight_performAll_cons, afterReply_afterReply]

end Chain

end FormChain
