import FormChain.Form.Basic

/-!
# Writing forms

The value that describes a form: what `Form.ofValue` reads. Settings that are not set
are left out, and so are the groups of a form without groups, the choices of a field
without choices and the filters of a filter without filters; everything else is
written, also where it is what reading would assume.
-/

namespace FormChain

namespace Value

/-- A word as a value. -/
def ofWord {α : Type} [Spelled α] (a : α) : Value :=
  .text (Spelled.word a)

end Value

/-- A field of a record that is always written. -/
def always (name : String) (v : Value) : List (String × Value) :=
  [(name, v)]

/-- A field of a record that is written when it is set. -/
def whenSet (name : String) (v : Option Value) : List (String × Value) :=
  v.toList.map (name, ·)

/-- A field of a record that is written when its list is not empty. -/
def whenAny (name : String) (vs : List Value) : List (String × Value) :=
  if vs.isEmpty then [] else [(name, .list vs)]

/-! ### Filters -/

mutual

/-- **The value of a filter.** -/
def Filter.toValue : Filter → Value
  | ⟨id, kind, property, operator, value, junction, conditions⟩ =>
    .ofFields (
      whenSet "id" (id.map .text) ++ always "type" (.ofWord kind) ++
      whenSet "property" (property.map .text) ++ whenSet "operator" (operator.map .ofWord) ++
      whenSet "value" value ++ always "relation" (.ofWord junction) ++
      whenAny "conditions" (Filter.listToValues conditions))

/-- The values of filters. -/
def Filter.listToValues : List Filter → List Value
  | [] => []
  | f :: rest => f.toValue :: Filter.listToValues rest

end

/-! ### Fields -/

/-- The value of a field. -/
def Field.toValue (f : Field) : Value :=
  .ofFields (
    always "id" (.text f.id) ++ always "label" (.text f.label) ++
    always "type" (.ofWord f.kind) ++ always "required" (.bool f.required) ++
    whenSet "defaultValue" f.default ++ whenAny "options" f.options ++
    whenSet "condition" (f.condition.map Filter.toValue))

/-! ### Actions -/

/-- The value of a way of recovery. -/
def Recovery.toValue : Recovery → Value
  | abort => .ofFields (always "strategy" (.text "abort"))
  | skip => .ofFields (always "strategy" (.text "skip"))
  | retry n delay =>
    .ofFields (always "strategy" (.text "retry") ++ always "maxRetries" (.ofNat n) ++
      whenSet "retryDelayMs" (delay.map .ofNat))

/-- The fields of the start of an action. -/
def Head.toFields (h : Head) : List (String × Value) :=
  always "id" (.text h.id) ++ whenSet "title" (h.title.map .text) ++
  whenSet "errorHandling" (h.recovery.map Recovery.toValue) ++
  whenSet "condition" (h.condition.map Filter.toValue)

/-- The value of a range. -/
def CountRange.toValue (r : CountRange) : Value :=
  .ofFields (always "start" (.ofInt r.start) ++ always "end" (.ofInt r.stop) ++
    always "step" (.ofInt r.step))

/-- The fields of a loop other than its body. -/
def LoopPlan.toFields (p : LoopPlan) : List (String × Value) :=
  always "loopType" (.ofWord p.kind) ++ whenSet "listSource" p.source ++
  whenSet "count" (p.count.map CountRange.toValue) ++
  whenSet "condition" (p.test.map Filter.toValue) ++
  whenSet "pageSize" (p.pageSize.map .ofNat) ++
  whenSet "maxIterations" (p.maxIterations.map .ofNat) ++
  whenSet "itemVariable" (p.itemAlias.map .text) ++
  whenSet "indexVariable" (p.indexAlias.map .text)

mutual

/-- The fields of an action behind its type and its start. -/
def Action.ownFields : Action → List (String × Value)
  | .createFile _ s =>
    always "folder" (.text s.folder) ++ always "fileName" (.text s.fileName) ++
    always "content" (.text s.content) ++ always "conflict" (.ofWord s.conflict) ++
    whenSet "outputVariable" (s.output.map .text)
  | .insertText _ s =>
    always "filePath" (.text s.filePath) ++ always "content" (.text s.content) ++
    always "position" (.ofWord s.position) ++ whenSet "heading" (s.heading.map .text) ++
    always "createIfMissing" (.bool s.createIfMissing)
  | .textTransform _ s =>
    always "source" (.text s.source) ++ always "transform" (.ofWord s.transform) ++
    always "outputVariable" (.text s.output)
  | .ai _ s =>
    always "prompt" (.text s.prompt) ++ whenSet "systemPrompt" (s.systemPrompt.map .text) ++
    whenSet "model" (s.model.map .text) ++ whenSet "outputVariable" (s.output.map .text)
  | .collectData _ s =>
    always "outputVariable" (.text s.output) ++ always "content" (.text s.content) ++
    always "variableType" (.ofWord s.kind) ++ always "storageMode" (.ofWord s.mode) ++
    whenSet "separator" (s.separator.map .text)
  | .loop _ plan body => plan.toFields ++ always "actions" (.list (Action.listToValues body))
  | .proceed _ => []
  | .leave _ => []
  | .suggest _ s =>
    whenSet "placeholder" (s.placeholder.map .text) ++ always "options" s.options ++
    always "outputVariable" (.text s.output)
  | .generateForm _ fields => always "fields" (.list (fields.map Field.toValue))
  | .button _ path mode => always "formPath" (.text path) ++ always "mode" (.ofWord mode)
  | .wait _ duration => always "durationMs" (.ofNat duration)
  | .group _ groupId members =>
    whenSet "groupId" (groupId.map .text) ++
    always "actions" (.list (Action.listToValues members))

/-- The values of actions. -/
def Action.listToValues : List Action → List Value
  | [] => []
  | a :: rest =>
    .ofFields (always "type" (.text a.typeName) ++ a.head.toFields ++ a.ownFields) ::
      Action.listToValues rest

end

/-- **The value of an action.** -/
def Action.toValue (a : Action) : Value :=
  .ofFields (always "type" (.text a.typeName) ++ a.head.toFields ++ a.ownFields)

/-! ### Forms -/

/-- The value of a group of actions. -/
def ActionGroup.toValue (g : ActionGroup) : Value :=
  .ofFields (always "id" (.text g.id) ++ whenSet "name" (g.name.map .text) ++
    whenSet "errorHandling" (g.recovery.map Recovery.toValue) ++
    always "actions" (.list (Action.listToValues g.actions)))

/-- The value of the cut-off of a submission. -/
def Timeout.toValue (t : Timeout) : Value :=
  .ofFields (always "enabled" (.bool t.enabled) ++
    always "thresholdSeconds" (.ofNat t.seconds))

/-- **The value of a form.** -/
def Form.toValue (f : Form) : Value :=
  .ofFields (
    whenSet "id" (f.id.map .text) ++ whenSet "name" (f.name.map .text) ++
    always "fields" (.list (f.fields.map Field.toValue)) ++
    always "actions" (.list (Action.listToValues f.actions)) ++
    whenAny "actionGroups" (f.groups.map ActionGroup.toValue) ++
    always "runInBackground" (.bool f.inBackground) ++
    always "suppressSuccessNotice" (.bool f.quiet) ++
    whenSet "timeout" (f.timeout.map Timeout.toValue))

end FormChain
