import FormChain.Proofs.Chain.Failure
import FormChain.Proofs.Script.Likeness

/-!
# Counting loops as loops over lists

A counting loop lays out its integers before the first iteration, and then runs like a loop
over a list. So it could as well be written with the integers as a list
(`FormChain.LoopPlan.listing`): nobody whom the chain asks something could tell, and the
chain would come to the same.

That is true of ranges that are not longer than the loop may run, and by one more
(`FormChain.Chain.counting_goes_as_listing`). A longer range is cut off behind one integer more
than the loop has iterations, which is enough to run, but not enough to say how long the range
is: in each iteration the name `total` is bound to the length of what was laid out, and not to
that of the range (`FormChain.Chain.counting_cuts_total`). A loop over the list of all integers
has the same cap and yet counts all of them.
-/

namespace FormChain

/-! ### Ranges -/

namespace CountRange

variable {r : CountRange}

/-- The integer that is some steps behind the start. -/
def nth (r : CountRange) (k : Nat) : Int := r.start + k * r.step

/-- How many integers a range has. -/
def size (r : CountRange) : Nat :=
  if 0 < r.step then ((r.stop - r.start) / r.step + 1).toNat
  else if r.step < 0 then ((r.start - r.stop) / -r.step + 1).toNat
  else 0

/-- **All integers of a range**: the start, the start and one step, and so on up to the end,
which is included. -/
def all (r : CountRange) : List Int :=
  (List.range r.size).map r.nth

/-- Whether the ends of a range are integers of 64 bits. -/
def IsInt64 (r : CountRange) : Prop :=
  (Decimal.minInt64 ≤ r.start ∧ r.start ≤ Decimal.maxInt64) ∧
    Decimal.minInt64 ≤ r.stop ∧ r.stop ≤ Decimal.maxInt64

theorem nth_succ (k : Nat) : r.nth (k + 1) = r.nth k + r.step := by
  simp only [nth, Int.natCast_add, Int.natCast_one, Int.add_mul, Int.one_mul]
  omega

/-- A range goes up to its end, or down to it. -/
theorem reaches_iff {n : Int} :
    r.reaches n = true ↔ 0 < r.step ∧ n ≤ r.stop ∨ r.step < 0 ∧ r.stop ≤ n := by
  simp [reaches]

/-- A multiple is within a distance just if the factor is within their quotient. -/
theorem lt_size_iff {step distance : Int} (hstep : 0 < step) (k : Nat) :
    k < (distance / step + 1).toNat ↔ k * step ≤ distance := by
  rw [← Int.le_ediv_iff_mul_le hstep]
  omega

/-- **A range goes on for as many steps as it has integers.** -/
theorem reaches_nth_iff (k : Nat) : r.reaches (r.nth k) = true ↔ k < r.size := by
  rw [reaches_iff, nth, size]
  rcases Int.lt_trichotomy r.step 0 with hneg | hzero | hpos
  · rw [if_neg (by omega), if_pos hneg, lt_size_iff (by omega), Int.mul_neg]
    omega
  · rw [if_neg (by omega), if_neg (by omega)]
    omega
  · rw [if_pos hpos, lt_size_iff hpos]
    omega

/-- An integer belongs to a range if it is some steps behind the start, and not past the
end. -/
theorem mem_all {n : Int} : n ∈ r.all ↔ ∃ k, n = r.nth k ∧ r.reaches n = true := by
  simp only [all, List.mem_map, List.mem_range]
  constructor
  · rintro ⟨k, hk, rfl⟩
    exact ⟨k, rfl, (reaches_nth_iff k).mpr hk⟩
  · rintro ⟨k, rfl, hk⟩
    exact ⟨k, (reaches_nth_iff k).mp hk, rfl⟩

/-- The integers of a range lie between its ends, so they are of 64 bits if these are. -/
theorem int64_of_reaches (h : r.IsInt64) {k : Nat} (hreaches : r.reaches (r.nth k) = true) :
    Decimal.minInt64 ≤ r.nth k ∧ r.nth k ≤ Decimal.maxInt64 := by
  obtain ⟨⟨hstart, hstart'⟩, hstop, hstop'⟩ := h
  rw [reaches_iff] at hreaches
  rcases hreaches with ⟨hpos, hle⟩ | ⟨hneg, hle⟩
  · have hbehind : 0 ≤ k * r.step := Int.mul_nonneg (Int.natCast_nonneg k) (by omega)
    simp only [nth] at hle ⊢
    omega
  · have hbehind : 0 ≤ k * -r.step := Int.mul_nonneg (Int.natCast_nonneg k) (by omega)
    rw [Int.mul_neg] at hbehind
    simp only [nth] at hle ⊢
    omega

/-- **What is laid out of a range** from some step on. That the next integer might not be one of
64 bits makes no difference, since then the range has no further one. -/
theorem integersFrom_nth (h : r.IsInt64) (room k : Nat) :
    r.integersFrom room (r.nth k) = ((List.range' k (r.size - k)).map r.nth).take room := by
  induction room generalizing k with
  | zero => simp [integersFrom]
  | succ room ih =>
    rw [integersFrom]
    split
    case isFalse hpast =>
      have hsize : r.size - k = 0 := by
        have hle := mt (reaches_nth_iff k).mpr hpast
        omega
      rw [hsize]
      rfl
    case isTrue hreaches =>
      obtain ⟨rest, hrest⟩ : ∃ rest, r.size - k = rest + 1 := by
        have hlt := (reaches_nth_iff k).mp hreaches
        exact ⟨r.size - k - 1, by omega⟩
      have hrest' : r.size - (k + 1) = rest := by omega
      rw [hrest, List.range'_succ, List.map_cons, List.take_succ_cons, ← hrest', ← ih (k + 1),
        nth_succ]
      dsimp only
      split
      · rfl
      · next hover =>
        -- a next integer beyond 64 bits is past the end
        have hpast : ¬ r.reaches (r.nth (k + 1)) = true := by
          intro hnext
          obtain ⟨hlow, hhigh⟩ := int64_of_reaches h hnext
          rw [nth_succ] at hlow hhigh
          simp [hlow, hhigh] at hover
        rw [nth_succ] at hpast
        cases room with
        | zero => rfl
        | succ room => rw [integersFrom, if_neg hpast]

/-- **What is laid out of a range** are its first integers, no more than one over the cap. -/
theorem integers_eq (h : r.IsInt64) (cap : Nat) : r.integers cap = r.all.take (cap + 1) := by
  have hstart : r.nth 0 = r.start := by simp [nth]
  have hfrom := integersFrom_nth h (cap + 1) 0
  rw [hstart, Nat.sub_zero, ← List.range_eq_range'] at hfrom
  exact hfrom

end CountRange

/-! ### The list of a counting loop -/

/-- **The plan of a loop over integers**: that of a counting loop, with the integers as its
list. -/
def LoopPlan.listing (p : LoopPlan) (ns : List Int) : LoopPlan :=
  { p with kind := .list, count := none, source := some (.list (ns.map .ofInt)) }

namespace LoopPlan

variable (p : LoopPlan)

/-- Whether a loop counts or goes through a list, its frames are the same. -/
theorem itemFrames_listing (hkind : p.kind = .count) (ns : List Int) (items : List Value) :
    (p.listing ns).itemFrames items = p.itemFrames items := by
  have hvariables : (p.listing ns).loopVariables = p.loopVariables := by
    simp only [loopVariables, listing, hkind]
    rfl
  have hframe (i : Nat) (item : Option Value) (more : List (String × Value)) :
      (p.listing ns).frame i item more = p.frame i item more := by
    rw [frame, frame, hvariables]
    rfl
  have hframes (more : Nat → List (String × Value)) (i : Nat) :
      (p.listing ns).framesFrom more i items = p.framesFrom more i items := by
    induction items generalizing i with
    | nil => rfl
    | cons v rest ih => rw [framesFrom, framesFrom, hframe, ih]
  exact hframes _ 0

end LoopPlan

/-- Integers have no texts in them to expand. -/
theorem expandAll_integers (e : Environment) (ns : List Int) :
    Template.expandAll e (.list (ns.map .ofInt)) = pure (.list (ns.map .ofInt)) := by
  have hitems : Template.expandItems e (ns.map .ofInt) = pure (ns.map .ofInt) := by
    induction ns with
    | nil => rfl
    | cons n rest ih =>
      rw [List.map_cons, Template.expandItems, ih]
      rfl
  rw [Template.expandAll, hitems]
  rfl

namespace Chain

/-! ### Alike loops -/

/-- **Remarks on one action and on another** in its place, and on their plans. -/
inductive Recast (a a' : Action) (p p' : LoopPlan) : Remark → Remark → Prop where
  /-- A remark on something else. -/
  | same (r : Remark) : Recast a a' p p' r r
  /-- The chain has come to them. -/
  | reached (st : ChainState) : Recast a a' p p' (.reached a st) (.reached a' st)
  /-- They are attempted. -/
  | attempt (before : Nat) (st : ChainState) :
    Recast a a' p p' (.attempt a before st) (.attempt a' before st)
  /-- They have an iteration, in the same state with the same frame. -/
  | iteration (index : Nat) (st : ChainState) :
    Recast a a' p p' (.iteration p index st) (.iteration p' index st)

section Alike

variable {s : ChainSetting} {runList : ListRunner} {a a' : Action} {p p' : LoopPlan}
  {body : List Action} {strategy : Recovery}

/-- Iterations with the same frames are alike. -/
theorem alike_overFrames (index : Nat) (fs : List Frame) :
    Step.Alike (Recast a a' p p') (overFrames s runList strategy p body index fs)
      (overFrames s runList strategy p' body index fs) := by
  induction fs generalizing index with
  | nil => exact .refl .same _
  | cons f rest ih =>
    have hiterate : Step.Alike (Recast a a' p p') (iterate runList strategy p index body f)
        (iterate runList strategy p' index body f) :=
      .after .same _ fun _ => .after .same _ fun _ =>
        (Step.Alike.remark fun st => .iteration index st).bind fun _ => .refl .same _
    refine .after .same _ fun _ => hiterate.bind fun flow => ?_
    cases flow with
    | leave => exact .refl .same _
    | next => exact ih (index + 1)

/-- What is made of alike attempts is alike, where the two actions go by the same name. -/
theorem alike_settle (hid : a.id = a'.id) (htype : a.typeName = a'.typeName)
    {again again' : Option (Step ChainError Flow)}
    (hagain : Option.Rel (Step.Alike (Recast a a' p p')) again again')
    (r : Except Failure Flow) :
    Step.Alike (Recast a a' p p') (settle strategy a again r) (settle strategy a' again' r) := by
  have hfailed (e : ActionError) : Step.Alike (Recast a a' p p')
      (throw (failed a e) : Step ChainError Flow) (throw (failed a' e)) := by
    rw [failed, failed, hid, htype]
    exact .refl .same _
  rcases r with (e | e) | flow
  · cases e with
    | dismissed => exact .refl .same _
    | _ =>
      cases strategy with
      | skip => exact .refl .same _
      | abort => exact hfailed _
      | retry =>
        cases hagain with
        | none => exact hfailed _
        | some hagain => exact hagain
  · exact .refl .same _
  · exact .refl .same _

/-- The attempts of alike effects are alike. -/
theorem alike_attempts (hid : a.id = a'.id) (htype : a.typeName = a'.typeName)
    {act act' : Step Failure Flow} (hact : Step.Alike (Recast a a' p p') act act')
    (left before : Nat) :
    Step.Alike (Recast a a' p p') (attempts s strategy a act left before)
      (attempts s strategy a' act' left before) := by
  induction left generalizing before with
  | zero =>
    rw [attempts, attempts]
    refine (Step.Alike.remark fun st => .attempt before st).bind fun _ => ?_
    refine hact.outcome.bind fun r => .after .same _ fun _ => ?_
    exact alike_settle hid htype .none r
  | succ left ih =>
    rw [attempts, attempts]
    refine (Step.Alike.remark fun st => .attempt before st).bind fun _ => ?_
    refine hact.outcome.bind fun r => .after .same _ fun _ => ?_
    exact alike_settle hid htype (.some (.after .same _ fun _ => ih (before + 1))) r

/-- **A list with an action in it** is like the list with another one in its place, where the two
start alike and have alike effects. -/
theorem alike_performAll (hhead : a.head = a'.head) (htype : a.typeName = a'.typeName)
    (hact : ∀ strategy, Step.Alike (Recast a a' p p') (effect s runList strategy a)
      (effect s runList strategy a'))
    (inherited : Option Recovery) (pre post : List Action) :
    Step.Alike (Recast a a' p p') (performAll s runList inherited (pre ++ a :: post))
      (performAll s runList inherited (pre ++ a' :: post)) := by
  have hid : a.id = a'.id := by rw [Action.id, Action.id, hhead]
  have hstrategy : strategyOf inherited a = strategyOf inherited a' := by
    rw [strategyOf, strategyOf, hhead]
  have hwanted (st : ChainState) :
      isWanted (Step.decode s) st a = isWanted (Step.decode s) st a' := by
    rw [isWanted, isWanted, hhead]
  induction pre with
  | nil =>
    have hperform : Step.Alike (Recast a a' p p') (perform s runList inherited a)
        (perform s runList inherited a') := by
      rw [perform, perform, hstrategy]
      exact alike_attempts hid htype (hact _) _ 0
    rw [List.nil_append, List.nil_append, performAll, performAll]
    refine .after .same _ fun _ => (Step.Alike.remark fun st => .reached st).bind fun _ => ?_
    refine .after .same _ fun st => ?_
    rw [hwanted]
    refine .after .same _ fun wanted => ?_
    split
    · refine hperform.bind fun flow => ?_
      cases flow <;> exact .refl .same _
    · exact .refl .same _
  | cons c rest ih =>
    rw [List.cons_append, List.cons_append, performAll, performAll]
    refine .after .same _ fun _ => .after .same _ fun _ => .after .same _ fun st => ?_
    refine .after .same _ fun wanted => ?_
    split
    · refine .after .same _ fun flow => ?_
      cases flow with
      | leave => exact .refl .same _
      | next => exact ih
    · exact ih

end Alike

/-! ### Counting and listing -/

section Counting

variable {s : ChainSetting} {p : LoopPlan} {r : CountRange} {ns : List Int}
  {runList : ListRunner} {strategy : Recovery} {body : List Action}

/-- A loop whose frames are laid out runs over them. -/
theorem loop_of_frames {source : Option Value} {fs : List Frame}
    (hsource : sourceOf p = pure source) (hcourse : p.course s.config source = .ok (.frames fs)) :
    loop s runList strategy p body =
      overFrames s runList strategy p body 0 (fs.take (p.cap s.config)) >>= fun _ =>
        pure .next := by
  have hpure : (Step.mapError Failure.action (pure source) : Step Failure (Option Value)) =
      pure source := rfl
  rw [loop, hsource, hpure, pure_bind, hcourse]

/-- The list of a loop over integers is what is written. -/
theorem sourceOf_listing :
    sourceOf (p.listing ns) = pure (some (.list (ns.map .ofInt))) := by
  have hlisted : (p.listing ns).listed = some (.list (ns.map .ofInt)) := rfl
  have hexpand : (Step.expandAll (.list (ns.map .ofInt)) : Effect Value) =
      pure (.list (ns.map .ofInt)) := by
    funext st
    rw [Step.expandAll, Step.drawing, expandAll_integers]
    rfl
  rw [sourceOf, hlisted]
  dsimp only
  rw [hexpand, pure_bind]

/-- **A counting loop runs like one over the integers that it lays out.** -/
theorem alike_counting (hkind : p.kind = .count) (hcount : p.count = some r) (hstep : r.step ≠ 0)
    (hns : r.integers (p.cap s.config) = ns) (a a' : Action) :
    Step.Alike (Recast a a' p (p.listing ns)) (loop s runList strategy p body)
      (loop s runList strategy (p.listing ns) body) := by
  have hsource : sourceOf p = pure none := by
    have hlisted : p.listed = none := by rw [LoopPlan.listed, hkind]
    rw [sourceOf, hlisted]
  have hcourse : p.course s.config none = .ok (.frames (p.itemFrames (ns.map .ofInt))) := by
    rw [LoopPlan.course, hkind]
    simp only [hcount, if_neg hstep, hns]
  have hcourse' : (p.listing ns).course s.config (some (.list (ns.map .ofInt))) =
      .ok (.frames (p.itemFrames (ns.map .ofInt))) := by
    rw [← LoopPlan.itemFrames_listing p hkind ns]
    rfl
  rw [loop_of_frames hsource hcourse, loop_of_frames sourceOf_listing hcourse']
  exact (alike_overFrames 0 _).bind fun _ => .refl .same _

end Counting

/-- **One list of actions goes as another**, but for remarks: surroundings that do not listen to
these give both the same replies, and see the same questions and the same result. -/
def GoesAs (s : ChainSetting) (R : Remark → Remark → Prop) (actions actions' : List Action) :
    Prop :=
  ∀ depth inherited st b before,
    let run := (runDepth s depth inherited actions st).under (Behaviour.deaf b) before
    let run' := (runDepth s depth inherited actions' st).under (Behaviour.deaf b) before
    run.2 = run'.2 ∧ List.Forall₂ (Event.Alike R) run.1 run'.1

/-- **A counting loop goes as the loop over some integers**, whatever stands in front of it and
behind it. -/
def GoesAsListing (s : ChainSetting) (head : Head) (p : LoopPlan) (body : List Action)
    (ns : List Int) : Prop :=
  ∀ pre post, GoesAs s
    (Recast (.loop head p body) (.loop head (p.listing ns) body) p (p.listing ns))
    (pre ++ .loop head p body :: post) (pre ++ .loop head (p.listing ns) body :: post)

/-- **A counting loop goes as the loop over the list of its integers.** These are the first ones
of its range, at most one more than it has iterations; where the range has no more than that,
they are all of them. -/
theorem counting_goes_as_listing (s : ChainSetting) (head : Head) (p : LoopPlan)
    (body : List Action) (r : CountRange) (hkind : p.kind = .count) (hcount : p.count = some r)
    (hstep : r.step ≠ 0) (hint : r.IsInt64) :
    GoesAsListing s head p body (r.all.take (p.cap s.config + 1)) ∧
      (r.all.length ≤ p.cap s.config + 1 → GoesAsListing s head p body r.all) := by
  have hlisting (ns : List Int) (hns : r.integers (p.cap s.config) = ns) :
      GoesAsListing s head p body ns := by
    intro pre post depth inherited st b before
    refine Script.Alike.under ?_ b rfl
    cases depth with
    | zero => exact .refl .same _
    | succ depth =>
      have hhead : (Action.loop head p body).head = (Action.loop head (p.listing ns) body).head :=
        rfl
      exact alike_performAll hhead rfl (fun strategy => alike_counting hkind hcount hstep hns _ _)
        inherited pre post st
  have hintegers : r.integers (p.cap s.config) = r.all.take (p.cap s.config + 1) :=
    CountRange.integers_eq hint _
  refine ⟨hlisting _ hintegers, fun hlength => hlisting _ ?_⟩
  rw [hintegers, List.take_of_length_le hlength]

/-- A loop that counts down from two to zero goes as one over these numbers. -/
theorem countdown_goes_as_listing :
    let down : CountRange := { start := 2, stop := 0, step := -1 }
    down.IsInt64 ∧ GoesAsListing { form := {} } { id := "down" }
      { kind := .count, count := some down } [.proceed { id := "on" }] [2, 1, 0] := by
  intro down
  have hint : down.IsInt64 := ⟨by decide, by decide⟩
  exact ⟨hint, (counting_goes_as_listing _ _ _ _ down rfl rfl (by decide) hint).2 (by decide)⟩

/-! ### Longer ranges -/

/-- What `total` is bound to in the iterations among some events. -/
def totalsOf (es : List Event) : List (Option Value) :=
  (remarksOf es).filterMap fun
    | .iteration _ _ st => some (st.scope.get? LoopVariable.totalName)
    | _ => none

/-- **A counting loop does not say how long its range is**, where that is longer than the loop may
run. Of the numbers from zero to nine it lays out two for its only iteration, and takes that
for the total; the loop over their list has one iteration as well, and a total of ten. -/
theorem counting_cuts_total :
    let digits : CountRange := { start := 0, stop := 9, step := 1 }
    let p : LoopPlan := { kind := .count, count := some digits, maxIterations := some 1 }
    let s : ChainSetting := { form := {} }
    let run (p : LoopPlan) :=
      ((runDepth s 2 none [.loop { id := "once" } p []] {}).under withoutUser []).1
    totalsOf (run p) = [some (.ofNat 2)] ∧
      totalsOf (run (p.listing digits.all)) = [some (.ofNat 10)] :=
  ⟨rfl, rfl⟩

end Chain

end FormChain
