import FormChain.Proofs.Chain.Counting
import FormChain.Proofs.Chain.Scope

/-!
# The iterations of a loop

A loop runs its body in rounds. What happens in a loop is taken apart into them by
`FormChain.Chain.Rounds`: in front of each round comes a look at the token, and a test, for which
files may be decoded. Then the frame of the iteration goes on the scope and the body runs, and
behind it the frame comes off. The next round starts where this one has come to.

Which rounds there are is then a matter of their frames alone. A loop over elements has one
round for each of them, in their order, as far as its cap allows
(`FormChain.Chain.RoundsOver`); the elements are those of its source when it starts
(`FormChain.LoopPlan.layout?`). A loop under a condition has rounds as long as the cap allows
and the condition, with the frame of the round on the scope, holds (`FormChain.Chain.RoundsWhile`).

Main statement: whatever the surroundings do, the rounds of every loop are among these, and they
are all of these unless a body breaks off, fails or is called off
(`FormChain.Chain.loop_goes_round`).
-/

namespace FormChain

/-! ### What loops go over -/

/-- **What a loop goes over**, once its source is known. -/
structure Layout where
  /-- The elements, in their order. -/
  elements : List Value
  /-- What the frame of an iteration binds besides its element and its number. -/
  more : Nat → List (String × Value)

/-- What the frame of a page binds besides the page and its number. -/
def LoopPlan.pageNumbers (size : Nat) (items : List Value) (k : Nat) : List (String × Value) :=
  [(LoopVariable.totalName, .ofNat items.length),
    (LoopVariable.currentPageName, .ofNat (k + 1)),
    (LoopVariable.pageSizeName, .ofNat size),
    (LoopVariable.totalPageName, .ofNat (LoopPlan.pages size items).length)]

/-- **What the loop of a plan goes over.** A counting loop counts its integers, but not
further than one over its cap. A loop under a condition goes over nothing. -/
def LoopPlan.layout? (p : LoopPlan) (config : Config) (source : Option Value) : Option Layout :=
  match p.kind with
  | .list => source.map fun v =>
    ⟨v.toItems, fun _ => [(LoopVariable.totalName, .ofNat v.toItems.length)]⟩
  | .count => p.count.map fun r =>
    ⟨r.all.map .ofInt, fun _ =>
      [(LoopVariable.totalName, .ofNat (min r.all.length (p.cap config + 1)))]⟩
  | .pagination => source.map fun v =>
    let size := p.pageSize.getD LoopPlan.defaultPageSize
    ⟨(LoopPlan.pages size v.toItems).map .list, LoopPlan.pageNumbers size v.toItems⟩
  | .condition => none

namespace LoopPlan

variable {p : LoopPlan} {config : Config} {source : Option Value}

/-- **The frames of a loop over elements**, one by one. -/
theorem getElem?_framesFrom {more : Nat → List (String × Value)} {i k : Nat}
    {vs : List Value} : (p.framesFrom more i vs)[k]? =
      vs[k]?.map fun v => p.frame (i + k) (some v) (more (i + k)) := by
  induction vs generalizing i k with
  | nil => rfl
  | cons v rest ih =>
    rw [framesFrom]
    cases k with
    | zero => rfl
    | succ k =>
      rw [List.getElem?_cons_succ, List.getElem?_cons_succ, ih, Nat.add_right_comm, Nat.add_assoc]

theorem length_framesFrom {more : Nat → List (String × Value)} {i : Nat} {vs : List Value} :
    (p.framesFrom more i vs).length = vs.length := by
  induction vs generalizing i with
  | nil => rfl
  | cons v rest ih => rw [framesFrom, List.length_cons, List.length_cons, ih]

/-- The first frames of a loop are those of its first elements. -/
theorem take_framesFrom {more : Nat → List (String × Value)} {i n : Nat} {vs : List Value} :
    (p.framesFrom more i vs).take n = p.framesFrom more i (vs.take n) := by
  induction vs generalizing i n with
  | nil => simp [framesFrom]
  | cons v rest ih =>
    cases n with
    | zero => rfl
    | succ n => rw [framesFrom, List.take_succ_cons, List.take_succ_cons, framesFrom, ih]

/-- **A loop that has its frames laid out goes over elements**; where it counts, it lays out
all that it may run over. -/
theorem layout_of_course {fs : List Frame}
    (hint : p.kind = .count → ∀ r, p.count = some r → r.IsInt64)
    (h : p.course config source = .ok (.frames fs)) :
    ∃ l, p.layout? config source = some l ∧
      fs.take (p.cap config) = (p.framesFrom l.more 0 l.elements).take (p.cap config) := by
  unfold course at h
  unfold layout?
  cases hkind : p.kind with
  | list =>
    simp only [hkind] at h
    split at h
    · cases h
    · obtain rfl := LoopCourse.frames.inj (Except.ok.inj h)
      exact ⟨_, rfl, rfl⟩
  | pagination =>
    simp only [hkind] at h
    split at h
    · cases h
    · split at h
      · cases h
      · obtain rfl := LoopCourse.frames.inj (Except.ok.inj h)
        exact ⟨_, rfl, rfl⟩
  | count =>
    simp only [hkind] at h
    split at h
    · cases h
    · next r hcount =>
      split at h
      · cases h
      · obtain rfl := LoopCourse.frames.inj (Except.ok.inj h)
        refine ⟨_, congrArg (Option.map _) hcount, ?_⟩
        -- one integer more than the loop runs over is laid out
        rw [itemFrames, CountRange.integers_eq (hint hkind r hcount), List.map_take,
          List.length_take, List.length_map, ← take_framesFrom, List.take_take, Nat.min_comm (p.cap config + 1),
          Nat.min_eq_left (Nat.le_succ _)]
  | condition =>
    simp only [hkind] at h
    split at h <;> cases h

/-- A loop that goes on while a test holds goes over nothing. -/
theorem layout_of_test {test : Filter} (h : p.course config source = .ok (.whileHolds test)) :
    p.layout? config source = none ∧ p.test = some test := by
  unfold course at h
  unfold layout?
  cases hkind : p.kind with
  | condition =>
    simp only [hkind] at h
    split at h
    · cases h
    · next htest =>
      obtain rfl := LoopCourse.whileHolds.inj (Except.ok.inj h)
      exact ⟨rfl, htest⟩
  | list | count | pagination =>
    simp only [hkind] at h
    split at h
    · cases h
    · first | cases h | (split at h <;> cases h)

end LoopPlan

namespace Chain

/-! ### Rounds -/

/-- **One execution of the body of a loop.** -/
structure Round where
  /-- The state in which the token has just been looked at. -/
  seen : ChainState
  /-- What happens in the test. -/
  tested : List Event
  /-- The state in front of the body, still without the frame. -/
  front : ChainState
  /-- The frame of the iteration. -/
  frame : Frame
  /-- What happens in the body. -/
  events : List Event
  /-- How the body ends. -/
  ending : Except ChainError Flow
  /-- The state behind the body, which still has the frame. -/
  behind : ChainState

namespace Round

/-- The state that the body starts in. -/
def start (x : Round) : ChainState :=
  x.front.enter x.frame

/-- The state behind the round, without the frame. -/
def close (x : Round) : ChainState :=
  x.behind.cutBack x.front.scope.depth

/-- What happens in front of the body, in the round of some number. -/
def opening (x : Round) (plan : LoopPlan) (k : Nat) : List Event :=
  x.tested ++ [.remark (.iteration plan k x.start)]

/-- **A round comes behind a look at the token**: a test has files decoded, if it does anything,
and then the body is carried out. -/
structure Comes (s : ChainSetting) (run : Step ChainError Flow) (st : ChainState) (x : Round) :
    Prop where
  /-- The token is looked at. -/
  seen : x.seen = st
  /-- It is not cancelled. -/
  goes : st.cancelled = false
  /-- There is a test. -/
  tested : Decodes s st x.tested x.front
  /-- The body is carried out. -/
  run : run.Run x.start x.events x.ending x.behind

end Round

/-- **What happens in a loop**, from the round of some number on, where `run` carries out the
body. -/
inductive Rounds (s : ChainSetting) (plan : LoopPlan) (run : Step ChainError Flow) :
    Nat → ChainState → List Event → List Round → Except Failure Flow → ChainState → Prop where
  /-- There is no further round. -/
  | spent {k : Nat} {st : ChainState} : Rounds s plan run k st [] [] (.ok .next) st
  /-- That there is no further round shows behind a look at the token, in a test. -/
  | spentBehind {k : Nat} {st st' : ChainState} {es : List Event} (look : Reply .look) :
    (st.afterReply look).cancelled = false → Decodes s (st.afterReply look) es st' →
    Rounds s plan run k st (looked s look :: es) [] (.ok .next) st'
  /-- The chain is called off in front of a round. -/
  | calledOff {k : Nat} {st : ChainState} (look : Reply .look) :
    (st.afterReply look).cancelled = true →
    Rounds s plan run k st [looked s look] [] (.error (.chain .cancelled)) (st.afterReply look)
  /-- The body fails, or is called off. -/
  | failed {k : Nat} {st : ChainState} {x : Round} {e : ChainError} (look : Reply .look) :
    x.Comes s run (st.afterReply look) → x.ending = .error e →
    Rounds s plan run k st (looked s look :: (x.opening plan k ++ x.events)) [x]
      (.error (.chain e)) x.close
  /-- The body leaves the loop. -/
  | left {k : Nat} {st : ChainState} {x : Round} (look : Reply .look) :
    x.Comes s run (st.afterReply look) → x.ending = .ok .leave →
    Rounds s plan run k st (looked s look :: (x.opening plan k ++ x.events)) [x] (.ok .next) x.close
  /-- The loop goes on behind a round. -/
  | wentOn {k : Nat} {st st' : ChainState} {x : Round} {rounds : List Round} {es : List Event}
    {r : Except Failure Flow} (look : Reply .look) :
    x.Comes s run (st.afterReply look) → x.ending = .ok .next →
    Rounds s plan run (k + 1) x.close es rounds r st' →
    Rounds s plan run k st (looked s look :: (x.opening plan k ++ (x.events ++ es))) (x :: rounds) r
      st'

/-- **A loop is undisturbed** if no execution of its body breaks off, fails or is called off,
and neither is the loop itself between two of them. -/
def Undisturbed (rounds : List Round) (r : Except Failure Flow) : Prop :=
  r = .ok .next ∧ ∀ x ∈ rounds, x.ending = .ok .next

theorem undisturbed_cons {x : Round} {rounds : List Round} {r : Except Failure Flow} :
    Undisturbed (x :: rounds) r ↔ x.ending = .ok .next ∧ Undisturbed rounds r := by
  simp only [Undisturbed, List.forall_mem_cons]
  tauto

theorem not_undisturbed_of_error {rounds : List Round} {e : Failure} :
    ¬ Undisturbed rounds (.error e) :=
  fun h => nomatch h.1

theorem not_undisturbed_of_left {x : Round} {rounds : List Round} {r : Except Failure Flow}
    (hx : x ∈ rounds) (hleft : x.ending = .ok .leave) : ¬ Undisturbed rounds r :=
  fun h => nomatch hleft.symm.trans (h.2 x hx)

/-! ### Loops as rounds -/

section Loops

variable {s : ChainSetting} {runList : ListRunner} {strategy : Recovery} {plan : LoopPlan}
  {body : List Action}

/-- **A round and what follows it.** Either the round is the last one and disturbs the loop, or
the loop goes on, and something is known of its remaining rounds. -/
theorem rounds_of_body {k : Nat} {f : Frame} {st st₀ st₁ st' : ChainState}
    {es₀ es₁ es₂ : List Event} {r₁ : Except ChainError Flow} {r : Except Failure Unit}
    {next : Step Failure Unit}
    {P : ChainState → List Event → List Round → Except Failure Flow → Prop}
    (look : Reply .look) (hc : (st.afterReply look).cancelled = false)
    (hd : Decodes s (st.afterReply look) es₀ st₀)
    (hb : (runList (some strategy) body).Run (st₀.enter f) es₁ r₁ st₁)
    (hk : (Step.ofExcept (r₁.mapError .chain) >>= fun flow =>
      match flow with
      | .leave => pure ()
      | .next => next).Run (st₁.cutBack (st.afterReply look).scope.depth) es₂ r st')
    (ih : ∀ {st es r}, next.Run st es r st' → ∃ rounds,
      Rounds s plan (runList (some strategy) body) (k + 1) st es rounds (r.map fun _ => .next)
        st' ∧ P st es rounds (r.map fun _ => .next)) :
    ∃ x rounds, x.seen = st.afterReply look ∧ x.tested = es₀ ∧ x.front = st₀ ∧ x.frame = f ∧
      Rounds s plan (runList (some strategy) body) k st
        (looked s look :: (es₀ ++ .remark (.iteration plan k (st₀.enter f)) :: (es₁ ++ es₂)))
        (x :: rounds) (r.map fun _ => .next) st' ∧
      (rounds = [] ∧ ¬ Undisturbed [x] (r.map fun _ => .next) ∨
        P x.close es₂ rounds (r.map fun _ => .next)) := by
  let x : Round := ⟨st.afterReply look, es₀, st₀, f, es₁, r₁, st₁⟩
  have hx : x.Comes s (runList (some strategy) body) (st.afterReply look) := ⟨rfl, hc, hd, hb⟩
  have hopening (es : List Event) : es₀ ++ .remark (.iteration plan k (st₀.enter f)) :: es =
      x.opening plan k ++ es := (List.append_assoc _ [_] es).symm
  have hdepth : (st.afterReply look).scope.depth = x.front.scope.depth := by rw [hd.scope_eq]
  rw [hopening]
  rw [hdepth] at hk
  rcases r₁ with e | _ | _
  · simp only [mapError_error, Step.run_ofExcept_bind, reduceCtorEq, false_and, exists_false,
      or_false, Except.error.injEq] at hk
    obtain ⟨_, rfl, rfl, rfl, rfl⟩ := hk
    rw [List.append_nil]
    exact ⟨x, [], rfl, rfl, rfl, rfl, .failed look hx rfl,
      Or.inl ⟨rfl, not_undisturbed_of_error⟩⟩
  · simp only [mapError_ok, Step.run_ofExcept_bind, reduceCtorEq, false_and, exists_false,
      false_or, Except.ok.injEq, exists_eq_left'] at hk
    obtain ⟨rounds, hrounds, hP⟩ := ih hk
    exact ⟨x, rounds, rfl, rfl, rfl, rfl, .wentOn look hx rfl hrounds, Or.inr hP⟩
  · simp only [mapError_ok, Step.run_ofExcept_bind, reduceCtorEq, false_and, exists_false,
      false_or, Except.ok.injEq, exists_eq_left', Step.run_pure] at hk
    obtain ⟨rfl, rfl, rfl⟩ := hk
    rw [List.append_nil]
    exact ⟨x, [], rfl, rfl, rfl, rfl, .left look hx rfl,
      Or.inl ⟨rfl, not_undisturbed_of_left List.mem_cons_self rfl⟩⟩

/-- **A loop over frames** has rounds with these frames, in their order, and with all of them
where it is undisturbed. -/
theorem rounds_of_overFrames {k : Nat} {fs : List Frame} {st st' : ChainState}
    {es : List Event} {r : Except Failure Unit}
    (h : (overFrames s runList strategy plan body k fs).Run st es r st') :
    ∃ rounds, Rounds s plan (runList (some strategy) body) k st es rounds
        (r.map fun _ => .next) st' ∧
      rounds.map (·.frame) <+: fs ∧ (∀ x ∈ rounds, x.tested = []) ∧
      (Undisturbed rounds (r.map fun _ => .next) → rounds.length = fs.length) := by
  induction fs generalizing k st es r with
  | nil =>
    obtain ⟨rfl, rfl, rfl⟩ := Step.run_pure.mp h
    exact ⟨[], .spent, List.nil_prefix, List.forall_mem_nil _, fun _ => rfl⟩
  | cons f rest ih =>
    unfold overFrames at h
    obtain ⟨look, ⟨hc, rfl, rfl, rfl⟩ | ⟨hc, es', rfl, hi⟩⟩ :=
      (guards_checkToken.mapError Failure.chain).run_bind.mp h
    · exact ⟨[], .calledOff look hc, List.nil_prefix, List.forall_mem_nil _,
        fun hall => absurd hall not_undisturbed_of_error⟩
    · simp only [iterate, bind_assoc, Step.run_state_bind, Step.run_change_bind,
        Step.run_remark_bind, Step.run_outcome_bind] at hi
      obtain ⟨_, rfl, es₁, r₁, st₁, es₂, rfl, hb, hk⟩ := hi
      obtain ⟨x, rounds, -, htested, -, rfl, hrounds, hrest⟩ := rounds_of_body
        (P := fun _ _ rounds r => rounds.map (·.frame) <+: rest ∧ (∀ x ∈ rounds, x.tested = []) ∧
          (Undisturbed rounds r → rounds.length = rest.length)) look hc (.ended _) hb hk ih
      refine ⟨x :: rounds, hrounds, ?_⟩
      rcases hrest with ⟨rfl, hdisturbed⟩ | ⟨hframes, huntested, hall⟩
      · exact ⟨by simp, List.forall_mem_singleton.mpr htested, fun hall => absurd hall hdisturbed⟩
      · refine ⟨by simpa using hframes, List.forall_mem_cons.mpr ⟨htested, huntested⟩, fun h => ?_⟩
        rw [List.length_cons, List.length_cons, hall (undisturbed_cons.mp h).2]

/-- Where a further round would start, behind some rounds. -/
def closing (st : ChainState) (rounds : List Round) : ChainState :=
  (rounds.getLast?.map (·.close)).getD st

theorem closing_cons {st : ChainState} {x : Round} {rounds : List Round} :
    closing st (x :: rounds) = closing x.close rounds := by
  cases rounds with
  | nil => rfl
  | cons y more =>
    have hne : y :: more ≠ [] := List.cons_ne_nil y more
    rw [closing, closing, List.getLast?_cons_cons, List.getLast?_eq_some_getLast hne]
    rfl

/-- **The test of a loop holds** in front of a round. -/
def Held (s : ChainSetting) (test : Filter) (x : Round) : Prop :=
  Tests s test (x.seen.enter x.frame) x.tested true (x.front.enter x.frame)

/-- **A loop ends with its test**, which does not hold with the frame of a further round: that is
the last thing that happens. -/
def EndsWithTest (s : ChainSetting) (test : Filter) (f : Frame) (st : ChainState)
    (es : List Event) (st' : ChainState) : Prop :=
  ∃ front look tested, es = front ++ looked s look :: tested ∧
    (st.afterReply look).cancelled = false ∧
    Tests s test ((st.afterReply look).enter f) tested false (st'.enter f)

/-- Something in front of a loop that ends with its test. -/
theorem EndsWithTest.behind {test : Filter} {f : Frame} {st st' : ChainState} {es : List Event}
    (h : EndsWithTest s test f st es st') (before : List Event) :
    EndsWithTest s test f st (before ++ es) st' := by
  obtain ⟨front, look, tested, rfl, hgoes, htest⟩ := h
  exact ⟨before ++ front, look, tested, (List.append_assoc ..).symm, hgoes, htest⟩

/-- **A loop under a test** has no more rounds than it may have. The test holds in front of each of
them, and where the loop is undisturbed, it does not hold in front of a further one, if the loop may
have one more. -/
theorem rounds_of_whileHolds {test : Filter} {left k : Nat} {st st' : ChainState}
    {es : List Event} {r : Except Failure Unit}
    (h : (whileHolds s runList strategy plan body test left k).Run st es r st') :
    ∃ rounds, Rounds s plan (runList (some strategy) body) k st es rounds
        (r.map fun _ => .next) st' ∧
      rounds.length ≤ left ∧
      rounds.map (·.frame) = (List.range' k rounds.length).map (plan.frame · none []) ∧
      (∀ x ∈ rounds, Held s test x) ∧
      (Undisturbed rounds (r.map fun _ => .next) → rounds.length = left ∨
        EndsWithTest s test (plan.frame (k + rounds.length) none []) (closing st rounds) es
          st') := by
  induction left generalizing k st es r with
  | zero =>
    obtain ⟨rfl, rfl, rfl⟩ := Step.run_pure.mp h
    exact ⟨[], .spent, Nat.le_refl _, rfl, List.forall_mem_nil _, fun _ => Or.inl rfl⟩
  | succ left ih =>
    unfold whileHolds at h
    obtain ⟨look, ⟨hc, rfl, rfl, rfl⟩ | ⟨hc, es', rfl, hi⟩⟩ :=
      (guards_checkToken.mapError Failure.chain).run_bind.mp h
    · exact ⟨[], .calledOff look hc, Nat.zero_le _, rfl, List.forall_mem_nil _,
        fun hall => absurd hall not_undisturbed_of_error⟩
    · simp only [Step.run_state_bind, Step.run_change_bind] at hi
      obtain ⟨es₀, held, tested, es₁, rfl, ht, hi⟩ := Step.run_ofTest_bind.mp hi
      obtain ⟨st₀, rfl, hdecodes⟩ := Tests.decodes ht |>.of_enter
      cases held with
      | true =>
        simp only [if_true, Step.run_remark_bind, Step.run_outcome_bind, Step.run_change_bind]
          at hi
        obtain ⟨_, rfl, es₁, r₁, st₁, es₂, rfl, hb, hk⟩ := hi
        obtain ⟨x, rounds, hseen, htested, hfront, hframe, hrounds, hrest⟩ := rounds_of_body
          (P := fun st es rounds r => rounds.length ≤ left ∧
            rounds.map (·.frame) = (List.range' (k + 1) rounds.length).map
              (plan.frame · none []) ∧
            (∀ x ∈ rounds, Held s test x) ∧
            (Undisturbed rounds r → rounds.length = left ∨
              EndsWithTest s test (plan.frame (k + 1 + rounds.length) none [])
                (closing st rounds) es st'))
          look hc hdecodes hb hk ih
        have hheld : Held s test x := by
          rw [Held, hseen, htested, hfront, hframe]
          exact ht
        refine ⟨x :: rounds, hrounds, ?_⟩
        rcases hrest with ⟨rfl, hdisturbed⟩ | ⟨hlength, hframes, hrest, hended⟩
        · exact ⟨by simp, by simp [hframe], List.forall_mem_singleton.mpr hheld,
            fun hall => absurd hall hdisturbed⟩
        · refine ⟨Nat.succ_le_succ hlength, ?_, List.forall_mem_cons.mpr ⟨hheld, hrest⟩,
            fun hall => ?_⟩
          · rw [List.map_cons, hframe, hframes, List.length_cons, List.range'_succ, List.map_cons]
          · rw [List.length_cons, ← Nat.add_assoc, Nat.add_right_comm, Nat.add_right_cancel_iff,
              closing_cons]
            refine (hended (undisturbed_cons.mp hall).2).imp id fun hended => ?_
            have hbehind := hended.behind (looked s look :: (es₀ ++
              .remark (.iteration plan k (st₀.enter (plan.frame k none []))) :: es₁))
            simpa only [List.cons_append, List.append_assoc] using hbehind
      | false =>
        -- the frame comes off again, and the scope is what it was
        obtain ⟨rfl, rfl, rfl⟩ := Step.run_change.mp hi
        rw [List.append_nil, ← hdecodes.scope_eq, ChainState.cutBack_enter]
        exact ⟨[], .spentBehind look hc hdecodes, Nat.zero_le _, rfl, List.forall_mem_nil _,
          fun _ => Or.inr ⟨[], look, es₀, rfl, hc, ht⟩⟩

end Loops

/-! ### Every loop -/

/-- **The rounds of a loop over elements**: one for each element, as far as the cap allows. -/
structure RoundsOver (plan : LoopPlan) (cap : Nat) (l : Layout) (rounds : List Round)
    (undisturbed : Prop) : Prop where
  /-- The frame of a round is the one for its number and the element of this number. -/
  frame : ∀ k x, rounds[k]? = some x →
    ∃ v, l.elements[k]? = some v ∧ x.frame = plan.frame k (some v) (l.more k)
  /-- There is no test. -/
  untested : ∀ x ∈ rounds, x.tested = []
  /-- There is no round beyond the elements, and none beyond the cap. -/
  length_le : rounds.length ≤ min l.elements.length cap
  /-- Without a disturbance there are all the others. -/
  length_eq : undisturbed → rounds.length = min l.elements.length cap

/-- **The rounds of a loop under a test**, from a state up to that behind it. -/
structure RoundsWhile (s : ChainSetting) (plan : LoopPlan) (cap : Nat) (test : Filter)
    (st : ChainState) (es : List Event) (rounds : List Round) (after : ChainState)
    (undisturbed : Prop) : Prop where
  /-- The frame of a round is the one for its number. -/
  frame : rounds.map (·.frame) = (List.range rounds.length).map (plan.frame · none [])
  /-- The test holds, with this frame on the scope and behind all that the earlier rounds did. -/
  holds : ∀ x ∈ rounds, Held s test x
  /-- There is no round beyond the cap. -/
  length_le : rounds.length ≤ cap
  /-- Without a disturbance, the rounds end with the cap, or as the test does not hold with the
  frame of the next one on the scope. -/
  ended : undisturbed → rounds.length = cap ∨
    EndsWithTest s test (plan.frame rounds.length none []) (closing st rounds) es after

section Every

variable {s : ChainSetting} {plan : LoopPlan} {rounds : List Round}

/-- The iterations of a loop. -/
def iterations (s : ChainSetting) (runList : ListRunner) (strategy : Recovery) (plan : LoopPlan)
    (body : List Action) : LoopCourse → Step Failure Unit
  | .frames fs => overFrames s runList strategy plan body 0 (fs.take (plan.cap s.config))
  | .whileHolds test => whileHolds s runList strategy plan body test (plan.cap s.config) 0

/-- **A loop takes its source, and then has its iterations.** -/
theorem run_loop {runList : ListRunner} {strategy : Recovery} {body : List Action}
    {st st' : ChainState} {es : List Event} {r : Except Failure Flow}
    (h : (loop s runList strategy plan body).Run st es r st') :
    ∃ source st₁, (sourceOf plan).Run st [] (.ok source) st₁ ∧
      ∀ course, plan.course s.config source = .ok course → ∃ r', r = r'.map (fun _ => .next) ∧
        (iterations s runList strategy plan body course).Run st₁ es r' st' := by
  unfold loop at h
  rcases Step.run_bind.mp h with ⟨e, h₁, rfl⟩ | ⟨es₁, source, st₁, es₂, rfl, h₁, h₂⟩
  · obtain ⟨r', hr, hx⟩ := Step.run_mapError.mp h₁
    -- expanding the source does not fail
    obtain ⟨-, ⟨source, rfl⟩, -⟩ := run_sourceOf hx
    cases hr
  · obtain ⟨r', hr, hx⟩ := Step.run_mapError.mp h₁
    obtain ⟨rfl, ⟨source', rfl⟩, -⟩ := run_sourceOf hx
    obtain rfl := Except.ok.inj hr
    refine ⟨source, st₁, hx, fun course hcourse => ?_⟩
    rw [hcourse] at h₂
    cases course with
    | frames fs => exact Step.run_bind_pure.mp h₂
    | whileHolds test => exact Step.run_bind_pure.mp h₂

/-- The frame of a round under a test is the one for its number. -/
theorem RoundsWhile.frame_eq {cap k : Nat} {test : Filter} {st after : ChainState}
    {es : List Event} {undisturbed : Prop} {x : Round}
    (h : RoundsWhile s plan cap test st es rounds after undisturbed) (hx : rounds[k]? = some x) :
    x.frame = plan.frame k none [] := by
  have hat : (rounds.map (·.frame))[k]? = some x.frame := by rw [List.getElem?_map, hx]; rfl
  obtain ⟨hk, -⟩ := List.getElem?_eq_some_iff.mp hx
  rw [h.frame, List.getElem?_map, List.getElem?_range hk] at hat
  exact (Option.some.inj hat).symm

/-- Rounds with the first of some frames are rounds over what these were laid out for. -/
theorem roundsOver_of_prefix {cap : Nat} {l : Layout} {fs : List Frame} {undisturbed : Prop}
    (hfs : fs.take cap = (plan.framesFrom l.more 0 l.elements).take cap)
    (hframes : rounds.map (·.frame) <+: fs.take cap) (huntested : ∀ x ∈ rounds, x.tested = [])
    (hall : undisturbed → rounds.length = (fs.take cap).length) :
    RoundsOver plan cap l rounds undisturbed := by
  have hlength : (fs.take cap).length = min l.elements.length cap := by
    rw [hfs, List.length_take, LoopPlan.length_framesFrom, Nat.min_comm]
  rw [hlength] at hall
  refine ⟨fun k x hx => ?_, huntested, ?_, hall⟩
  · obtain ⟨hk, rfl⟩ := List.getElem?_eq_some_iff.mp hx
    have hat := List.prefix_iff_getElem?.mp hframes k (by rwa [List.length_map])
    rw [List.getElem_map, hfs, LoopPlan.take_framesFrom, LoopPlan.getElem?_framesFrom,
      Nat.zero_add] at hat
    obtain ⟨v, hv, hframe⟩ := Option.map_eq_some_iff.mp hat
    rw [List.getElem?_take] at hv
    split at hv
    · exact ⟨v, hv, hframe.symm⟩
    · cases hv
  · rw [← hlength, ← List.length_map (fun x : Round => x.frame)]
    exact hframes.length_le

/-- The rounds of a loop start in its scope, where its body gives the scope back. -/
theorem Rounds.scope_eq {run : Step ChainError Flow} {k : Nat} {st st' : ChainState}
    {es : List Event} {r : Except Failure Flow} (h : Rounds s plan run k st es rounds r st')
    (hrun : ∀ {st es r st'}, run.Run st es r st' → st'.scope = st.scope) :
    ∀ x ∈ rounds, x.front.scope = st.scope := by
  induction h with
  | spent | spentBehind | calledOff => exact List.forall_mem_nil _
  | failed look hx | left look hx => exact List.forall_mem_singleton.mpr hx.tested.scope_eq
  | wentOn look hx _ _ ih =>
    refine List.forall_mem_cons.mpr ⟨hx.tested.scope_eq, fun y hy => (ih y hy).trans ?_⟩
    exact (scope_cutBack_of_enter rfl (hrun hx.run)).trans hx.tested.scope_eq

/-- **The rounds of a loop**, given its source. -/
theorem rounds_of_loop {depth : Nat} {strategy : Recovery} {body : List Action}
    {source : Option Value} {course : LoopCourse} {st st₁ st' : ChainState} {es : List Event}
    {r : Except Failure Unit} (hint : plan.kind = .count → ∀ r, plan.count = some r → r.IsInt64)
    (hsource : (sourceOf plan).Run st [] (.ok source) st₁)
    (hcourse : plan.course s.config source = .ok course)
    (h : (iterations s (runDepth s depth) strategy plan body course).Run st₁ es r st') :
    ∃ rounds, Rounds s plan (runDepth s depth (some strategy) body) 0 st₁ es rounds
        (r.map fun _ => .next) st' ∧
      (∀ x ∈ rounds, x.start.scope = st.scope.push x.frame) ∧
      match plan.layout? s.config source with
      | some l => RoundsOver plan (plan.cap s.config) l rounds
          (Undisturbed rounds (r.map fun _ => .next))
      | none => ∃ test, plan.test = some test ∧ RoundsWhile s plan (plan.cap s.config) test st₁ es
          rounds st' (Undisturbed rounds (r.map fun _ => .next)) := by
  -- the body gives the scope back, so every round starts in that of the loop
  have hscope {rounds : List Round} (hrounds : Rounds s plan
      (runDepth s depth (some strategy) body) 0 st₁ es rounds (r.map fun _ => .next) st') :
      ∀ x ∈ rounds, x.start.scope = st.scope.push x.frame := by
    intro x hx
    have hfront := hrounds.scope_eq (fun h => (happens_of_run h).scope_eq) x hx
    rw [scope_sourceOf hsource] at hfront
    rw [Round.start, ChainState.enter, hfront]
  cases course with
  | frames fs =>
    obtain ⟨rounds, hrounds, hframes, huntested, hall⟩ := rounds_of_overFrames h
    obtain ⟨l, hl, hfs⟩ := LoopPlan.layout_of_course hint hcourse
    refine ⟨rounds, hrounds, hscope hrounds, ?_⟩
    rw [hl]
    exact roundsOver_of_prefix hfs hframes huntested hall
  | whileHolds test =>
    obtain ⟨rounds, hrounds, hlength, hframes, hheld, hended⟩ := rounds_of_whileHolds h
    obtain ⟨hl, htest⟩ := LoopPlan.layout_of_test hcourse
    refine ⟨rounds, hrounds, hscope hrounds, ?_⟩
    rw [hl]
    rw [← List.range_eq_range'] at hframes
    rw [Nat.zero_add] at hended
    exact ⟨test, htest, ⟨hframes, hheld, hlength, hended⟩⟩

end Every

/-- **Loops go round as they are laid out.** Under every behaviour of the surroundings, what
happens in a loop is a row of rounds, each with the frame of its iteration on the scope of the
loop, which are as many as there is something to go over and the cap allows. -/
theorem loop_goes_round (s : ChainSetting) (depth : Nat) (strategy : Recovery) (head : Head)
    (plan : LoopPlan) (body : List Action) (hint : ∀ r, plan.count = some r → r.IsInt64)
    (st : ChainState) (b : Behaviour) (before : List Event) :
    let run := (effect s (runDepth s depth) strategy (.loop head plan body) st).under b before
    let cap := plan.cap s.config
    ∃ source st₁, (sourceOf plan).Run st [] (.ok source) st₁ ∧
      ∀ course, plan.course s.config source = .ok course → ∃ rounds,
        Rounds s plan (runDepth s depth (some strategy) body) 0 st₁ run.1 rounds run.2.1 run.2.2 ∧
        (∀ x ∈ rounds, x.start.scope = st.scope.push x.frame) ∧
        match plan.layout? s.config source with
        | some l => RoundsOver plan cap l rounds (Undisturbed rounds run.2.1)
        | none => ∃ test, plan.test = some test ∧
          RoundsWhile s plan cap test st₁ run.1 rounds run.2.2 (Undisturbed rounds run.2.1) := by
  have hrun := Script.run_under b
    (effect s (runDepth s depth) strategy (.loop head plan body) st) before
  generalize (effect s (runDepth s depth) strategy (.loop head plan body) st).under b before =
    run at hrun
  obtain ⟨events, result, after⟩ := run
  obtain ⟨source, st₁, hsource, hloop⟩ := run_loop hrun
  refine ⟨source, st₁, hsource, fun course hcourse => ?_⟩
  obtain ⟨r, rfl, hcourse'⟩ := hloop course hcourse
  exact rounds_of_loop (fun _ => hint) hsource hcourse hcourse'

/-- A loop that counts from one to three and may have two rounds goes over the three numbers. -/
theorem counting_goes_round :
    let upToThree : CountRange := { start := 1, stop := 3, step := 1 }
    let plan : LoopPlan := { kind := .count, count := some upToThree, maxIterations := some 2 }
    let body := [Action.proceed { id := "on" }]
    let s : ChainSetting := { form := {} }
    let run := (effect s (runDepth s 1) .abort (.loop { id := "twice" } plan body) {}).under
      withoutUser []
    (∀ r, plan.count = some r → r.IsInt64) ∧ run.2.1 = .ok .next ∧ ∃ rounds,
      Rounds s plan (runDepth s 1 (some .abort) body) 0 {} run.1 rounds run.2.1 run.2.2 ∧
      RoundsOver plan 2 ⟨[.ofInt 1, .ofInt 2, .ofInt 3], fun _ => [("total", .ofNat 3)]⟩ rounds
        (Undisturbed rounds run.2.1) := by
  intro upToThree plan body s
  have hint : ∀ r, plan.count = some r → r.IsInt64 := by
    rintro _ ⟨⟩
    exact ⟨by decide, by decide⟩
  have hresult : ((effect s (runDepth s 1) .abort (.loop { id := "twice" } plan body) {}).under
      withoutUser []).2.1 = .ok .next := rfl
  obtain ⟨source, st₁, hsource, hrounds⟩ :=
    loop_goes_round s 1 .abort { id := "twice" } plan body hint {} withoutUser []
  generalize (effect s (runDepth s 1) .abort (.loop { id := "twice" } plan body) {}).under
    withoutUser [] = run at hresult hrounds ⊢
  obtain ⟨-, hnone, rfl⟩ := Step.run_pure.mp hsource
  obtain rfl := Except.ok.inj hnone
  obtain ⟨rounds, hrounds, -, hover⟩ := hrounds _ rfl
  exact ⟨hint, hresult, rounds, hrounds, hover⟩

end Chain

end FormChain
