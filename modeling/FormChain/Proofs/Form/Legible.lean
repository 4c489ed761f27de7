import FormChain.Proofs.Form.Reading

/-!
# Forms that can be told in writing

Not every form can be told in writing: a number may be too large for the language, a value
that is set may be `null`, which is written for what is not set, and a loop has no place for a
condition of its own. `FormChain.Form.Legible` says that nothing of this is in a form, nor in
any of its filters, fields, actions and groups.

Main statement: whatever form is read is legible (`FormChain.Form.legible_of_ofValue`).
-/

namespace FormChain

open Decode

/-! ### Filters and fields -/

/-- The filter and all filters in it can be told in writing. -/
inductive Filter.Legible : Filter → Prop where
  | mk {f : Filter} (value : ∀ v ∈ f.value, v.IsGiven)
      (conditions : ∀ c ∈ f.conditions, Filter.Legible c) : Filter.Legible f

/-- The field can be told in writing. -/
structure Field.Legible (f : Field) : Prop where
  /-- So can its default. -/
  default : ∀ v ∈ f.default, v.IsGiven
  /-- So can its choices. -/
  options : ∀ v ∈ f.options, v.WellFormed
  /-- So can its condition. -/
  condition : ∀ c ∈ f.condition, c.Legible

/-! ### Actions -/

/-- The numbers of a way of recovery are in range. -/
def Recovery.Legible : Recovery → Prop
  | abort | skip => True
  | retry n delay => n ≤ Decimal.maxNat32 ∧ ∀ ms ∈ delay, ms ≤ Decimal.maxNat64

/-- The start of an action can be told in writing. -/
structure Head.Legible (h : Head) : Prop where
  /-- So can the way of recovery. -/
  recovery : ∀ r ∈ h.recovery, r.Legible
  /-- So can the condition. -/
  condition : ∀ c ∈ h.condition, c.Legible

/-- The integers of a range fit. -/
structure CountRange.Legible (r : CountRange) : Prop where
  /-- The first. -/
  start : IsInt64 r.start
  /-- The last. -/
  stop : IsInt64 r.stop
  /-- The distance. -/
  step : IsInt64 r.step

/-- The plan of a loop can be told in writing. -/
structure LoopPlan.Legible (p : LoopPlan) : Prop where
  /-- So can the list. -/
  source : ∀ v ∈ p.source, v.IsGiven
  /-- So can the range. -/
  count : ∀ r ∈ p.count, r.Legible
  /-- So can the test. -/
  test : ∀ c ∈ p.test, c.Legible
  /-- The size of a page is in range. -/
  pageSize : ∀ n ∈ p.pageSize, n ≤ Decimal.maxNat64
  /-- The number of iterations is in range. -/
  maxIterations : ∀ n ∈ p.maxIterations, n ≤ Decimal.maxNat32

/-- The action and all actions in it can be told in writing, for each type in its own way. A loop
has no condition besides its test. -/
inductive Action.Legible : Action → Prop where
  | createFile {head : Head} {spec : CreateFile} (hhead : head.Legible) :
      Action.Legible (.createFile head spec)
  | insertText {head : Head} {spec : InsertText} (hhead : head.Legible) :
      Action.Legible (.insertText head spec)
  | textTransform {head : Head} {spec : TextTransform} (hhead : head.Legible) :
      Action.Legible (.textTransform head spec)
  | ai {head : Head} {spec : Prompt} (hhead : head.Legible) :
      Action.Legible (.ai head spec)
  | collectData {head : Head} {spec : Collect} (hhead : head.Legible) :
      Action.Legible (.collectData head spec)
  | loop {head : Head} {plan : LoopPlan} {body : List Action} (hhead : head.Legible)
      (hfree : head.condition = none) (hplan : plan.Legible)
      (hbody : ∀ a ∈ body, Action.Legible a) : Action.Legible (.loop head plan body)
  | proceed {head : Head} (hhead : head.Legible) : Action.Legible (.proceed head)
  | leave {head : Head} (hhead : head.Legible) : Action.Legible (.leave head)
  | suggest {head : Head} {spec : Suggest} (hhead : head.Legible)
      (hoptions : spec.options.WellFormed) : Action.Legible (.suggest head spec)
  | generateForm {head : Head} {fields : List Field} (hhead : head.Legible)
      (hfields : ∀ f ∈ fields, f.Legible) : Action.Legible (.generateForm head fields)
  | button {head : Head} {path : String} {mode : ButtonMode} (hhead : head.Legible) :
      Action.Legible (.button head path mode)
  | wait {head : Head} {duration : Nat} (hhead : head.Legible)
      (hduration : duration ≤ Decimal.maxNat64) : Action.Legible (.wait head duration)
  | group {head : Head} {groupId : Option String} {members : List Action}
      (hhead : head.Legible) (hmembers : ∀ a ∈ members, Action.Legible a) :
      Action.Legible (.group head groupId members)

/-! ### Forms -/

/-- The group can be told in writing. -/
structure ActionGroup.Legible (g : ActionGroup) : Prop where
  /-- So can the way of recovery. -/
  recovery : ∀ r ∈ g.recovery, r.Legible
  /-- So can the members. -/
  actions : ∀ a ∈ g.actions, a.Legible

/-- **A form that can be told in writing.** -/
structure Form.Legible (f : Form) : Prop where
  /-- So can the fields. -/
  fields : ∀ x ∈ f.fields, x.Legible
  /-- So can the actions. -/
  actions : ∀ a ∈ f.actions, a.Legible
  /-- So can the groups. -/
  groups : ∀ g ∈ f.groups, g.Legible
  /-- The seconds of the cut-off are in range. -/
  timeout : ∀ t ∈ f.timeout, t.seconds ≤ Decimal.maxNat64

/-! ### Whatever is read is legible -/

section Reads

variable {parts : Parts}

theorem Filter.ensures_reading {inner : Decoder Filter} (h : Ensures inner Filter.Legible) :
    (Filter.reading inner).Ensures parts Filter.Legible := by
  refine (Reading.ensures_first ?_).skip.skip.skip
    |>.ap (Reading.ensures_given_option ensures_option_anyValue)
    |>.skip
    |>.ap (Reading.ensures_given_list h)
  intro id kind property operator value hvalue junction conditions hconditions
  exact ⟨hvalue, hconditions⟩

theorem Filter.ensures_decode : (depth : Nat) → Ensures (Filter.decode depth) Filter.Legible
  | 0 => nofun
  | depth + 1 => ensures_record fun _ => Filter.ensures_reading (Filter.ensures_decode depth)

theorem Field.ensures_decode (depth : Nat) : Ensures (Field.decode depth) Field.Legible := by
  refine ensures_record fun parts => ?_
  refine (Reading.ensures_first ?_).skip.skip.skip
    |>.ap (Reading.ensures_given_option ensures_option_anyValue)
    |>.ap (Reading.ensures_given_list ensures_anyValue)
    |>.ap (Reading.ensures_given_option (Filter.ensures_decode depth).option)
  intro id label kind required default hdefault options hoptions condition hcondition
  exact ⟨hdefault, hoptions, hcondition⟩

theorem Recovery.ensures_reading : Recovery.retryReading.Ensures parts Recovery.Legible := by
  refine (Reading.ensures_needed _ _ (ensures_natural _ _)).map ?_
    |>.ap (Reading.ensures_given_option (ensures_natural _ _).option)
  intro n hn delay hdelay
  exact ⟨hn, hdelay⟩

theorem Recovery.ensures_decode : Ensures Recovery.decode Recovery.Legible := by
  intro src d r hr
  -- of the ways of recovery only a retry has numbers
  obtain ⟨t, _, hr⟩ := exists_of_bind_eq_ok hr
  cases ht : t.tag <;> simp only [ht] at hr
  case abort =>
    obtain ⟨_, _, hr⟩ := exists_of_bind_eq_ok hr
    obtain rfl := Except.ok.inj hr
    trivial
  case skip =>
    obtain ⟨_, _, hr⟩ := exists_of_bind_eq_ok hr
    obtain rfl := Except.ok.inj hr
    trivial
  case retry =>
    cases hparts : t.parts <;> simp only [hparts] at hr
    case fields => exact Recovery.ensures_reading _ _ _ (run_of_readFields hr)
    case items => exact Recovery.ensures_reading _ _ _ (run_of_readItems hr)

theorem Head.ensures_reading (depth : Nat) :
    (Head.reading (Filter.decode depth)).Ensures parts Head.Legible := by
  refine (Reading.ensures_first ?_).skip
    |>.ap (Reading.ensures_given_option Recovery.ensures_decode.option)
    |>.ap (Reading.ensures_given_option (Filter.ensures_decode depth).option)
  intro id title recovery hrecovery condition hcondition
  exact ⟨hrecovery, hcondition⟩

/-- Where no field is called `condition`, an action has none. -/
theorem Head.ensures_condition_eq_none (depth : Nat)
    {fields : List (Except Json.SyntaxFault String × Json.Document)} {stop : Option Json.Stop}
    (h : fieldsNamed "condition" 0 fields = []) :
    (Head.reading (Filter.decode depth)).Ensures (.fields fields stop)
      fun head => head.condition = none := by
  refine (Reading.ensures_first ?_).skip.skip |>.ap (Reading.ensures_given_absent h)
  intro id title recovery condition hcondition
  exact hcondition

theorem CountRange.ensures_decode : Ensures CountRange.decode CountRange.Legible := by
  refine ensures_record fun parts => ?_
  refine (Reading.ensures_given ensures_int64 ?_).map ?_
    |>.ap (Reading.ensures_needed _ _ ensures_int64)
    |>.ap (Reading.ensures_given ensures_int64 ?_)
  · decide
  · intro start hstart stop hstop step hstep
    exact ⟨hstart, hstop, hstep⟩
  · decide

theorem LoopPlan.ensures_reading (depth : Nat) :
    (LoopPlan.reading (Filter.decode depth)).Ensures parts LoopPlan.Legible := by
  refine Reading.ensures_first ?_
    |>.ap (Reading.ensures_given_option ensures_option_anyValue)
    |>.ap (Reading.ensures_given_option CountRange.ensures_decode.option)
    |>.ap (Reading.ensures_given_option (Filter.ensures_decode depth).option)
    |>.ap (Reading.ensures_given_option (ensures_natural _ _).option)
    |>.ap (Reading.ensures_given_option (ensures_natural _ _).option)
    |>.skip.skip
  intro kind source hsource count hcount test htest pageSize hpageSize maxIterations
    hmaxIterations itemAlias indexAlias
  exact ⟨hsource, hcount, htest, hpageSize, hmaxIterations⟩

/-- What is made of the fields of a type makes a legible action of every legible start;
where the type has a `condition` of its own, of every legible start without condition. -/
theorem Action.ensures_reading (depth : Nat) {inner : Decoder Action}
    (h : Ensures inner Action.Legible) (t : ActionTag) :
    (Action.reading depth inner t).Ensures parts fun make =>
      ∀ head : Head, head.Legible → (t = .loop → head.condition = none) →
        (make head).Legible := by
  cases t with
  | createFile =>
    refine (Reading.ensures_first ?_).skip.skip.skip.skip
    intro _ _ _ _ _ head hhead _
    exact .createFile hhead
  | insertText =>
    refine (Reading.ensures_first ?_).skip.skip.skip.skip
    intro _ _ _ _ _ head hhead _
    exact .insertText hhead
  | textTransform =>
    refine (Reading.ensures_first ?_).skip.skip
    intro _ _ _ head hhead _
    exact .textTransform hhead
  | ai =>
    refine (Reading.ensures_first ?_).skip.skip.skip
    intro _ _ _ _ head hhead _
    exact .ai hhead
  | collectData =>
    refine (Reading.ensures_first ?_).skip.skip.skip.skip
    intro _ _ _ _ _ head hhead _
    exact .collectData hhead
  | loop =>
    refine (LoopPlan.ensures_reading depth).map ?_ |>.ap (Reading.ensures_given_list h)
    intro plan hplan body hbody head hhead hfree
    exact .loop hhead (hfree rfl) hplan hbody
  | proceed => exact Reading.ensures_pure fun head hhead _ => .proceed hhead
  | leave => exact Reading.ensures_pure fun head hhead _ => .leave hhead
  | suggest =>
    refine Reading.ensures_first ?_
      |>.ap (Reading.ensures_needed _ _ ensures_anyValue)
      |>.skip
    intro _ options hoptions _ head hhead _
    exact .suggest hhead hoptions
  | generateForm =>
    refine (Reading.ensures_needed _ _ (Field.ensures_decode depth).list).map ?_
    intro fields hfields head hhead _
    exact .generateForm hhead hfields
  | button =>
    refine (Reading.ensures_first ?_).skip
    intro _ _ head hhead _
    exact .button hhead
  | wait =>
    refine (Reading.ensures_needed _ _ (ensures_natural _ _)).map ?_
    intro duration hduration head hhead _
    exact .wait hhead hduration
  | group =>
    refine Reading.ensures_first ?_ |>.ap (Reading.ensures_given_list h)
    intro groupId members hmembers head hhead _
    exact .group hhead hmembers

/-- A loop takes the field `condition` for its own. -/
theorem contains_condition_names_loop (depth : Nat) (inner : Decoder Action) :
    (Action.reading depth inner .loop).names.contains "condition" = true := rfl

/-- **An action is made of two parts**: of what its type takes from the fields behind the tag,
and of a start from the fields that are left. -/
theorem Action.parts_of_decode {depth : Nat} {src : Source} {d : Json.Document} {a : Action}
    (h : Action.decode depth src d = .ok a) :
    ∃ depth' t fields others make head,
      depth = depth' + 1 ∧ (∃ stop, d = .object fields stop) ∧
      splitTag "type" tag src none fields = .ok (some t, others) ∧
      (Action.reading depth' (Action.decode depth') t).run .buffered (.fields others none) 0 =
        .ok make ∧
      (Head.reading (Filter.decode depth')).run .buffered (.fields (fieldsBeyond
        (Action.reading depth' (Action.decode depth') t).names others) none) 0 = .ok head ∧
      a = make head := by
  cases depth with
  | zero => cases h
  | succ depth =>
    obtain ⟨⟨t, parts⟩, ht, h⟩ := exists_of_bind_eq_ok h
    cases parts with
    | items ds stop => cases h
    | fields others stop =>
      obtain ⟨make, hmake, hrest⟩ := exists_of_bind_eq_ok h
      obtain ⟨head, hhead, hend⟩ := exists_of_bind_eq_ok hrest
      obtain ⟨fields, stop', hd, hsplit⟩ := object_of_tagged ht
      exact ⟨depth, t, fields, others, make, head, rfl, ⟨stop', hd⟩, hsplit,
        run_of_readFields hmake, run_of_readFields hhead, (Except.ok.inj hend).symm⟩

theorem Action.ensures_decode (depth : Nat) : Ensures (Action.decode depth) Action.Legible := by
  intro src d a ha
  induction depth generalizing src d a with
  | zero => cases ha
  | succ depth ih =>
    obtain ⟨_, t, fields, others, make, head, hdepth, -, -, hmake, hhead, rfl⟩ :=
      Action.parts_of_decode ha
    obtain rfl := Nat.succ.inj hdepth
    refine Action.ensures_reading depth ih t _ _ make hmake head
      (Head.ensures_reading depth _ _ head hhead) fun hloop => ?_
    -- a loop leaves nothing under the name of a condition for its start
    refine Head.ensures_condition_eq_none depth ?_ _ _ head hhead
    refine Fields.fieldsNamed_fieldsBeyond ?_ 0 others
    rw [hloop, contains_condition_names_loop]

theorem ActionGroup.ensures_decode (depth : Nat) :
    Ensures (ActionGroup.decode depth) ActionGroup.Legible := by
  refine ensures_record fun parts => ?_
  refine (Reading.ensures_first ?_).skip
    |>.ap (Reading.ensures_given_option Recovery.ensures_decode.option)
    |>.ap (Reading.ensures_given_list (Action.ensures_decode depth))
  intro id name recovery hrecovery actions hactions
  exact ⟨hrecovery, hactions⟩

theorem Timeout.ensures_decode : Ensures Timeout.decode (·.seconds ≤ Decimal.maxNat64) := by
  refine ensures_record fun parts => ?_
  refine Reading.ensures_first ?_ |>.ap (Reading.ensures_needed _ _ (ensures_natural _ _))
  intro enabled seconds hseconds
  exact hseconds

theorem Form.ensures_decode (depth : Nat) : Ensures (Form.decode depth) Form.Legible := by
  refine ensures_record fun parts => ?_
  refine (Reading.ensures_first ?_).skip
    |>.ap (Reading.ensures_given_list (Field.ensures_decode depth))
    |>.ap (Reading.ensures_given_list (Action.ensures_decode depth))
    |>.ap (Reading.ensures_given_list (ActionGroup.ensures_decode depth))
    |>.skip.skip
    |>.ap (Reading.ensures_given_option Timeout.ensures_decode.option)
  intro id name fields hfields actions hactions groups hgroups inBackground quiet timeout htimeout
  exact ⟨hfields, hactions, hgroups, htimeout⟩

end Reads

/-- **Whatever form is read can be told in writing.** -/
theorem Form.legible_of_ofValue {v : Value} {f : Form} (h : Form.ofValue v = .ok f) :
    f.Legible :=
  Form.ensures_decode _ _ _ f h

end FormChain
