import FormChain.Proofs.Form.Legible

/-!
# Forms that are written and read again

What is written of a form is read as the same form, if the form can be told in writing
(`FormChain.Form.Legible`); and whatever is read can be. So reading, writing and reading again
ends where the first reading ended (`FormChain.Form.ofValue_toValue_ofValue`).

The way goes up from filters to forms, with one lemma for each record. Filters and actions
contain others of their kind: their lemmas are by induction on what makes them legible, for
every number of levels that the reader may go down, provided that the value is not as deep as
that (`FormChain.Filter.Legible.restores`, `FormChain.Action.Legible.restores`).

An action is written as one record, but read in two parts, of which the second is looked for
among the fields that the first does not take. No name is in both parts except `condition`,
which a loop takes for its test; that a loop has no other condition is what makes the two parts
come apart again (`FormChain.Action.get?_ownFields`, `FormChain.Action.contains_names`).
-/

namespace FormChain

open Decode

variable {room depth : Nat}

/-! ### Filters and fields -/

theorem Filter.listToValues_eq_map (fs : List Filter) :
    Filter.listToValues fs = fs.map Filter.toValue := by
  induction fs with
  | nil => rfl
  | cons f rest ih => rw [Filter.listToValues, ih, List.map_cons]

theorem Filter.toValue_ne_null (f : Filter) : f.toValue ≠ .null := by
  cases f
  nofun

/-- The name of an operator is read as the operator, also where it is unknown. -/
theorem Filter.restores_operatorName (o : Operator) :
    Restores room Filter.reading.operatorName (.ofWord o) o := by
  intro _ src _
  change (text src (.text (Spelled.word o))).map Operator.ofName = .ok o
  simp [text, Except.map, Operator.ofName]

/-- **A filter is restored from its value** by all who go deep enough. -/
theorem Filter.Legible.restores {f : Filter} (h : f.Legible) (hroom : room < depth) :
    Restores room (Filter.decode depth) f.toValue f := by
  induction h generalizing room depth with
  | @mk f hvalue _ ih =>
    obtain ⟨id, kind, property, operator, value, junction, conditions⟩ := f
    -- who may go down no level reads no filter; the filters inside take one level less
    obtain ⟨depth, rfl⟩ := Nat.exists_eq_succ_of_ne_zero (Nat.ne_zero_of_lt hroom)
    rw [Filter.toValue, Filter.listToValues_eq_map]
    refine restores_record fun hdeep => ?_
    have hconditions := fun c hc => ih c hc (Nat.lt_of_lt_of_le hdeep (Nat.le_of_lt_succ hroom))
    have hword (o : Operator) : Value.ofWord o ≠ .null := nofun
    exact (Reading.restores_setText (by simp)).map
      |>.ap (Reading.restores_given (by simp) (restores_word kind))
      |>.ap (Reading.restores_setText (by simp))
      |>.ap (Reading.restores_whenSet (by simp) hword fun o _ => restores_operatorName o)
      |>.ap (Reading.restores_setValue (by simp) hvalue)
      |>.ap (Reading.restores_given (by simp) (restores_word junction))
      |>.ap (Reading.restores_whenAny (by simp) hconditions)

/-- **A field is restored from its value** by all who go deep enough. -/
theorem Field.Legible.restores {f : Field} (h : f.Legible) (hroom : room < depth) :
    Restores room (Field.decode depth) f.toValue f := by
  refine restores_record fun hdeep => ?_
  have hcondition := fun c hc => (h.condition c hc).restores (Nat.lt_trans hdeep hroom)
  exact (Reading.restores_needed (by simp) (restores_text f.id)).map
    |>.ap (Reading.restores_needed (by simp) (restores_text f.label))
    |>.ap (Reading.restores_given (by simp) (restores_word f.kind))
    |>.ap (Reading.restores_given (by simp) (restores_bool f.required))
    |>.ap (Reading.restores_setValue (by simp) h.default)
    |>.ap (Reading.restores_anyValues (by simp) h.options)
    |>.ap (Reading.restores_whenSet (by simp) Filter.toValue_ne_null hcondition)

/-! ### Parts of actions -/

theorem Recovery.toValue_ne_null (r : Recovery) : r.toValue ≠ .null := by
  cases r <;> nofun

/-- **A way of recovery is restored from its value.** -/
theorem Recovery.Legible.restores {r : Recovery} (h : r.Legible) :
    Restores room Recovery.decode r.toValue r := by
  intro _ src hsrc
  unfold Recovery.decode Recovery.toValue
  cases r with
  | abort =>
    rw [tagged_ofFields (t := RecoveryTag.abort) hsrc Fields.get?_ofList_always]
    rfl
  | skip =>
    rw [tagged_ofFields (t := RecoveryTag.skip) hsrc Fields.get?_ofList_always]
    rfl
  | retry n delay =>
    have ht : (Fields.ofList (always "strategy" (.text "retry") ++
        always "maxRetries" (.ofNat n) ++ whenSet "retryDelayMs" (delay.map .ofNat))).get?
          "strategy" = some (.ofWord RecoveryTag.retry) := by
      simp
      rfl
    rw [tagged_ofFields hsrc ht]
    refine readFields_documents ?_ nofun
    exact (Reading.restores_needed (by simp) (restores_natural h.1)).map
      |>.ap (Reading.restores_setNatural (by simp) h.2)

/-- What is found among the fields that are written of the start of an action. -/
@[simp] theorem Head.get?_toFields {name : String} (h : Head) :
    (Fields.ofList h.toFields).get? name =
      if name = "condition" then h.condition.map Filter.toValue
      else if name = "errorHandling" then h.recovery.map Recovery.toValue
      else if name = "title" then h.title.map .text
      else if name = "id" then some (.text h.id) else none := by
  simp only [Head.toFields, Fields.get?_ofList_append, Fields.get?_ofList_always,
    Fields.get?_ofList_whenSet]
  by_cases hcondition : name = "condition"
  · simp [hcondition]
  by_cases hrecovery : name = "errorHandling"
  · simp [hrecovery]
  by_cases htitle : name = "title"
  · simp [htitle]
  · simp [hcondition, hrecovery, htitle]

/-- The start of an action is restored from its fields, whatever else is there. -/
theorem Head.Legible.restores {head : Head} {fs : Fields} (h : head.Legible)
    (hdeep : fs.height < depth) (hid : fs.get? "id" = some (.text head.id))
    (htitle : fs.get? "title" = head.title.map .text)
    (hrecovery : fs.get? "errorHandling" = head.recovery.map Recovery.toValue)
    (hcondition : fs.get? "condition" = head.condition.map Filter.toValue) :
    (Head.reading (Filter.decode depth)).Restores fs head := by
  have hfilter := fun c hc => (h.condition c hc).restores hdeep
  exact (Reading.restores_needed hid (restores_text head.id)).map
    |>.ap (Reading.restores_setText htitle)
    |>.ap (Reading.restores_whenSet hrecovery Recovery.toValue_ne_null fun r hr =>
      (h.recovery r hr).restores)
    |>.ap (Reading.restores_whenSet hcondition Filter.toValue_ne_null hfilter)

theorem CountRange.toValue_ne_null (r : CountRange) : r.toValue ≠ .null := nofun

theorem CountRange.Legible.restores {r : CountRange} (h : r.Legible) :
    Restores room CountRange.decode r.toValue r := by
  refine restores_record fun _ => ?_
  exact (Reading.restores_given (by simp) (restores_int64 h.start)).map
    |>.ap (Reading.restores_needed (by simp) (restores_int64 h.stop))
    |>.ap (Reading.restores_given (by simp) (restores_int64 h.step))

/-! ### Actions -/

namespace Action

/-- The type of an action, as a tag. -/
def tag : Action → ActionTag
  | createFile .. => .createFile
  | insertText .. => .insertText
  | textTransform .. => .textTransform
  | ai .. => .ai
  | collectData .. => .collectData
  | loop .. => .loop
  | proceed .. => .proceed
  | leave .. => .leave
  | suggest .. => .suggest
  | generateForm .. => .generateForm
  | button .. => .button
  | wait .. => .wait
  | group .. => .group

theorem word_tag (a : Action) : Spelled.word a.tag = a.typeName := by
  cases a <;> rfl

theorem listToValues_eq_map (as : List Action) : listToValues as = as.map toValue := by
  induction as with
  | nil => rfl
  | cons a rest ih => rw [listToValues, ih, List.map_cons, toValue]

/-- The fields that are written of an action. -/
def fields (a : Action) : Fields :=
  Fields.ofList (always "type" (.text a.typeName) ++ a.head.toFields ++ a.ownFields)

/-- The fields that are left of an action when its type is known. -/
def rest (a : Action) : Fields :=
  a.fields.without ["type"]

/-- **What is found behind the type**: what the type wrote, else what the start wrote. -/
@[simp] theorem get?_rest {name : String} (a : Action) :
    a.rest.get? name = if name = "type" then none else
      ((Fields.ofList a.ownFields).get? name).or ((Fields.ofList a.head.toFields).get? name) := by
  rw [rest, fields, Fields.get?_without]
  by_cases h : name = "type" <;> simp [h]

/-- No type writes what stands in front of it, but for the condition of a loop. -/
theorem get?_ownFields (a : Action) :
    (Fields.ofList a.ownFields).get? "type" = none ∧
      (Fields.ofList a.ownFields).get? "id" = none ∧
      (Fields.ofList a.ownFields).get? "title" = none ∧
      (Fields.ofList a.ownFields).get? "errorHandling" = none ∧
      (a.tag ≠ .loop → (Fields.ofList a.ownFields).get? "condition" = none) := by
  cases a <;> simp [ownFields, LoopPlan.toFields, tag]

/-- No type takes what belongs to the start, but for the condition of a loop. -/
theorem contains_names (inner : Decoder Action) (t : ActionTag) :
    (reading depth inner t).names.contains "id" = false ∧
      (reading depth inner t).names.contains "title" = false ∧
      (reading depth inner t).names.contains "errorHandling" = false ∧
      (reading depth inner t).names.contains "condition" = decide (t = .loop) := by
  cases t <;> exact ⟨rfl, rfl, rfl, rfl⟩

/-- **The start of an action is restored** from the fields that its type does not take. -/
theorem restores_head {a : Action} (hhead : a.head.Legible)
    (hfree : a.tag = .loop → a.head.condition = none) (hdeep : a.rest.height < depth)
    (inner : Decoder Action) :
    (Head.reading (Filter.decode depth)).Restores
      (a.rest.without (reading depth inner a.tag).names) a.head := by
  obtain ⟨-, hid, htitle, hrecovery, hcondition⟩ := a.get?_ownFields
  obtain ⟨nid, ntitle, nrecovery, ncondition⟩ := @contains_names depth inner a.tag
  refine hhead.restores (Nat.lt_of_le_of_lt Fields.height_without_le hdeep) ?_ ?_ ?_ ?_
  · rw [Fields.get?_without, nid]
    simp [hid]
  · rw [Fields.get?_without, ntitle]
    simp [htitle]
  · rw [Fields.get?_without, nrecovery]
    simp [hrecovery]
  · rw [Fields.get?_without, ncondition]
    -- a loop takes the name for its test, and then its start must do without a condition
    by_cases hloop : a.tag = .loop
    · simp [hloop, hfree hloop]
    · simp [hloop, hcondition hloop]

/-- **An action is restored from its value** if what its type takes is restored from the fields
behind the type. -/
theorem restores_of_rest {a : Action} (hhead : a.head.Legible)
    (hfree : a.tag = .loop → a.head.condition = none) (hroom : room < depth)
    (hrest : ∀ n, a.rest.height < n → ∃ make,
      (reading n (decode n) a.tag).Restores a.rest make ∧ make a.head = a) :
    Restores room (decode depth) a.toValue a := by
  intro hheight src hsrc
  obtain ⟨depth, rfl⟩ := Nat.exists_eq_succ_of_ne_zero (Nat.ne_zero_of_lt hroom)
  have hdeep : a.rest.height < depth :=
    Nat.lt_of_le_of_lt Fields.height_without_le
      (Nat.lt_of_lt_of_le hheight (Nat.le_of_lt_succ hroom))
  have htag : a.fields.get? "type" = some (.ofWord a.tag) := by
    simp [fields, a.get?_ownFields.1, Value.ofWord, word_tag]
  have htagged : tagged "type" "internally tagged enum Action" Decode.tag src
      (.ofValue a.toValue) = .ok ⟨a.tag, .fields a.rest.documents none⟩ :=
    tagged_ofFields hsrc htag
  -- first what the type takes, then the start from the fields that are left
  obtain ⟨make, hmake, heq⟩ := hrest depth hdeep
  have hstart := restores_head hhead hfree hdeep (decode depth)
  have hbuffered : Source.buffered ≠ .text := nofun
  simp only [decode, htagged, readFields_documents hmake hbuffered, Fields.fieldsBeyond_documents,
    readFields_documents hstart hbuffered, ok_bind]
  exact congrArg Except.ok heq

/-- The plan of a loop is restored from the fields behind the type. -/
theorem restores_plan {head : Head} {plan : LoopPlan} {body : List Action} (h : plan.Legible)
    (hfree : head.condition = none) (hdeep : (loop head plan body).rest.height < depth) :
    (LoopPlan.reading (Filter.decode depth)).Restores (loop head plan body).rest plan := by
  have htest := fun c hc => (h.test c hc).restores hdeep
  -- the one name under which the start would be found as well
  have hcondition : (loop head plan body).rest.get? "condition" = plan.test.map Filter.toValue := by
    simp [ownFields, LoopPlan.toFields, Action.head, hfree]
  exact (Reading.restores_needed (by simp [ownFields, LoopPlan.toFields])
      (restores_word plan.kind)).map
    |>.ap (Reading.restores_setValue (by simp [ownFields, LoopPlan.toFields]) h.source)
    |>.ap (Reading.restores_whenSet (by simp [ownFields, LoopPlan.toFields])
      CountRange.toValue_ne_null fun r hr => (h.count r hr).restores)
    |>.ap (Reading.restores_whenSet hcondition Filter.toValue_ne_null htest)
    |>.ap (Reading.restores_setNatural (by simp [ownFields, LoopPlan.toFields]) h.pageSize)
    |>.ap (Reading.restores_setNatural (by simp [ownFields, LoopPlan.toFields]) h.maxIterations)
    |>.ap (Reading.restores_setText (by simp [ownFields, LoopPlan.toFields]))
    |>.ap (Reading.restores_setText (by simp [ownFields, LoopPlan.toFields]))

/-- **An action is restored from its value** by all who go deep enough. -/
theorem Legible.restores {a : Action} (h : a.Legible) (hroom : room < depth) :
    Restores room (decode depth) a.toValue a := by
  induction h generalizing room depth with
  | @createFile head spec hhead =>
    refine restores_of_rest hhead nofun hroom fun n _ => ?_
    exact ⟨_, (Reading.restores_given (by simp [ownFields]) (restores_text spec.folder)).map
      |>.ap (Reading.restores_needed (by simp [ownFields]) (restores_text spec.fileName))
      |>.ap (Reading.restores_given (by simp [ownFields]) (restores_text spec.content))
      |>.ap (Reading.restores_given (by simp [ownFields]) (restores_word spec.conflict))
      |>.ap (Reading.restores_setText (by simp [ownFields])), rfl⟩
  | @insertText head spec hhead =>
    refine restores_of_rest hhead nofun hroom fun n _ => ?_
    exact ⟨_, (Reading.restores_needed (by simp [ownFields]) (restores_text spec.filePath)).map
      |>.ap (Reading.restores_needed (by simp [ownFields]) (restores_text spec.content))
      |>.ap (Reading.restores_given (by simp [ownFields]) (restores_word spec.position))
      |>.ap (Reading.restores_setText (by simp [ownFields]))
      |>.ap (Reading.restores_given (by simp [ownFields]) (restores_bool spec.createIfMissing)),
      rfl⟩
  | @textTransform head spec hhead =>
    refine restores_of_rest hhead nofun hroom fun n _ => ?_
    exact ⟨_, (Reading.restores_needed (by simp [ownFields]) (restores_text spec.source)).map
      |>.ap (Reading.restores_needed (by simp [ownFields]) (restores_word spec.transform))
      |>.ap (Reading.restores_needed (by simp [ownFields]) (restores_text spec.output)), rfl⟩
  | @ai head spec hhead =>
    refine restores_of_rest hhead nofun hroom fun n _ => ?_
    exact ⟨_, (Reading.restores_needed (by simp [ownFields]) (restores_text spec.prompt)).map
      |>.ap (Reading.restores_setText (by simp [ownFields]))
      |>.ap (Reading.restores_setText (by simp [ownFields]))
      |>.ap (Reading.restores_setText (by simp [ownFields])), rfl⟩
  | @collectData head spec hhead =>
    refine restores_of_rest hhead nofun hroom fun n _ => ?_
    exact ⟨_, (Reading.restores_needed (by simp [ownFields]) (restores_text spec.output)).map
      |>.ap (Reading.restores_needed (by simp [ownFields]) (restores_text spec.content))
      |>.ap (Reading.restores_given (by simp [ownFields]) (restores_word spec.kind))
      |>.ap (Reading.restores_given (by simp [ownFields]) (restores_word spec.mode))
      |>.ap (Reading.restores_setText (by simp [ownFields])), rfl⟩
  | @loop head plan body hhead hfree hplan _ ih =>
    refine restores_of_rest hhead (fun _ => hfree) hroom fun n hdeep => ?_
    have hbody := fun a ha => ih a ha hdeep
    exact ⟨_, (restores_plan hplan hfree hdeep).map
      |>.ap (Reading.restores_given (by simp [ownFields, listToValues_eq_map])
        (Restores.list hbody)), rfl⟩
  | @proceed head hhead =>
    refine restores_of_rest hhead nofun hroom fun n _ => ?_
    exact ⟨_, Reading.restores_pure, rfl⟩
  | @leave head hhead =>
    refine restores_of_rest hhead nofun hroom fun n _ => ?_
    exact ⟨_, Reading.restores_pure, rfl⟩
  | @suggest head spec hhead hoptions =>
    refine restores_of_rest hhead nofun hroom fun n _ => ?_
    exact ⟨_, (Reading.restores_setText (by simp [ownFields])).map
      |>.ap (Reading.restores_needed (by simp [ownFields]) (restores_anyValue hoptions))
      |>.ap (Reading.restores_needed (by simp [ownFields]) (restores_text spec.output)), rfl⟩
  | @generateForm head fields hhead hfields =>
    refine restores_of_rest hhead nofun hroom fun n hdeep => ?_
    have hlist := fun f hf => (hfields f hf).restores hdeep
    exact ⟨_, (Reading.restores_needed (by simp [ownFields]) (Restores.list hlist)).map, rfl⟩
  | @button head path mode hhead =>
    refine restores_of_rest hhead nofun hroom fun n _ => ?_
    exact ⟨_, (Reading.restores_needed (by simp [ownFields]) (restores_text path)).map
      |>.ap (Reading.restores_given (by simp [ownFields]) (restores_word mode)), rfl⟩
  | @wait head duration hhead hduration =>
    refine restores_of_rest hhead nofun hroom fun n _ => ?_
    exact ⟨_, (Reading.restores_needed (by simp [ownFields]) (restores_natural hduration)).map,
      rfl⟩
  | @group head groupId members hhead _ ih =>
    refine restores_of_rest hhead nofun hroom fun n hdeep => ?_
    have hmembers := fun a ha => ih a ha hdeep
    exact ⟨_, (Reading.restores_setText (by simp [ownFields])).map
      |>.ap (Reading.restores_given (by simp [ownFields, listToValues_eq_map])
        (Restores.list hmembers)), rfl⟩

end Action

/-! ### Forms -/

theorem ActionGroup.Legible.restores {g : ActionGroup} (h : g.Legible) (hroom : room < depth) :
    Restores room (ActionGroup.decode depth) g.toValue g := by
  refine restores_record fun hdeep => ?_
  have hactions := fun a ha => (h.actions a ha).restores (Nat.lt_trans hdeep hroom)
  exact (Reading.restores_needed (by simp) (restores_text g.id)).map
    |>.ap (Reading.restores_setText (by simp))
    |>.ap (Reading.restores_whenSet (by simp) Recovery.toValue_ne_null fun r hr =>
      (h.recovery r hr).restores)
    |>.ap (Reading.restores_given (by simp [Action.listToValues_eq_map]) (Restores.list hactions))

theorem Timeout.toValue_ne_null (t : Timeout) : t.toValue ≠ .null := nofun

theorem Timeout.restores {t : Timeout} (h : t.seconds ≤ Decimal.maxNat64) :
    Restores room Timeout.decode t.toValue t := by
  refine restores_record fun _ => ?_
  exact (Reading.restores_given (by simp) (restores_bool t.enabled)).map
    |>.ap (Reading.restores_needed (by simp) (restores_natural h))

/-- **A form is restored from its value** by all who go deep enough. -/
theorem Form.Legible.restores {f : Form} (h : f.Legible) (hroom : room < depth) :
    Restores room (Form.decode depth) f.toValue f := by
  refine restores_record fun hdeep => ?_
  have hfields := fun x hx => (h.fields x hx).restores (Nat.lt_trans hdeep hroom)
  have hactions := fun a ha => (h.actions a ha).restores (Nat.lt_trans hdeep hroom)
  have hgroups := fun g hg => (h.groups g hg).restores (Nat.lt_trans hdeep hroom)
  exact (Reading.restores_setText (by simp)).map
    |>.ap (Reading.restores_setText (by simp))
    |>.ap (Reading.restores_given (by simp) (Restores.list hfields))
    |>.ap (Reading.restores_given (by simp [Action.listToValues_eq_map]) (Restores.list hactions))
    |>.ap (Reading.restores_whenAny (by simp) hgroups)
    |>.ap (Reading.restores_given (by simp) (restores_bool f.inBackground))
    |>.ap (Reading.restores_given (by simp) (restores_bool f.quiet))
    |>.ap (Reading.restores_whenSet (by simp) Timeout.toValue_ne_null fun t ht =>
      Timeout.restores (h.timeout t ht))

/-- **A form that can be told in writing is read as it was written.** -/
theorem Form.Legible.ofValue_toValue {f : Form} (h : f.Legible) :
    Form.ofValue f.toValue = .ok f :=
  h.restores (Nat.lt_succ_self _) (Nat.le_refl _) .value nofun

/-- A form is read as it was written just where it can be told in writing. -/
theorem Form.ofValue_toValue_iff {f : Form} : Form.ofValue f.toValue = .ok f ↔ f.Legible :=
  ⟨Form.legible_of_ofValue, Form.Legible.ofValue_toValue⟩

/-- **Reading, writing and reading again.** Whatever value a form is read from, by the names of
its fields or by their order, with settings left out or `null`, with fields nobody asks for and
with unknown operators: what is written of the form is read as the same form. -/
theorem Form.ofValue_toValue_ofValue (v : Value) :
    (Form.ofValue v >>= fun f => Form.ofValue f.toValue) = Form.ofValue v := by
  cases h : Form.ofValue v with
  | error e => rfl
  | ok f => exact (Form.legible_of_ofValue h).ofValue_toValue

example : ((Form.ofValue (.ofFields [
    ("fields", .list [.ofFields [("id", .text "a"), ("label", .text "A"), ("condition",
      .ofFields [("property", .text "b"), ("operator", .text "Resembles"), ("value", .null)])]]),
    ("actions", .list [.ofFields [("type", .text "loop"), ("id", .text "l"),
      ("loopType", .text "list"), ("condition", .ofFields []),
      ("actions", .list [.ofFields [("type", .text "break"), ("id", .text "b")]])]])])).map
    fun f => (f.fields.length, f.actions.map (·.typeName))).toOption =
      some (1, ["loop"]) := by
  decide +kernel

end FormChain
