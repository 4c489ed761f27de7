import FormChain.Form.Basic
import FormChain.Form.Decode
import FormChain.Json.Reader

/-!
# Reading forms

The decoders of filters, fields, actions and forms, one `Reading` a record. Filters and
actions contain others of their kind, so their decoders take the number of levels they
may go down; a document is never deeper than its height, which is what `Form.ofValue`
and `Form.ofText` allow.

An action is a tagged record of two parts: what its type asks for and the `Head` that
all actions have. The head is looked for among the fields that the type does not take;
the fields of the type are complained about first.
-/

namespace FormChain

open Json (Document)
open Decode

/-! ### Filters -/

/-- A filter, given the decoder for filters inside it. -/
def Filter.reading (inner : Decoder Filter) : Reading Filter :=
  Filter.mk
    <$> given "id" (option text) none
    <*> given "type" word .leaf
    <*> given "property" (option text) none
    <*> given "operator" (option operatorName) none
    <*> given "value" (option anyValue) none
    <*> given "relation" word .all
    <*> given "conditions" (list inner) []
where
  /-- The name of an operator; any text is one. -/
  operatorName : Decoder Operator := fun src d => (text src d).map Operator.ofName

/-- **Decode a filter**, at most `depth` levels deep. -/
def Filter.decode : (depth : Nat) → Decoder Filter
  | 0 => fun _ _ => .error (.badJson .nestedTooDeeply)
  | depth + 1 => record "struct Filter" (Filter.reading (Filter.decode depth))

/-! ### Fields -/

/-- A field, given the decoder for filters. -/
def Field.reading (filter : Decoder Filter) : Reading Field :=
  Field.mk
    <$> needed "struct FormField" 7 "id" text
    <*> needed "struct FormField" 7 "label" text
    <*> given "type" word .text
    <*> given "required" bool false
    <*> given "defaultValue" (option anyValue) none
    <*> given "options" (list anyValue) []
    <*> given "condition" (option filter) none

/-- Decode a field. -/
def Field.decode (depth : Nat) : Decoder Field :=
  record "struct FormField" (Field.reading (Filter.decode depth))

/-! ### What to do on failure -/

/-- The ways of recovery, as tags. -/
inductive RecoveryTag where
  /-- See `Recovery.abort`. -/
  | abort
  /-- See `Recovery.skip`. -/
  | skip
  /-- See `Recovery.retry`. -/
  | retry
  deriving DecidableEq, Repr

instance : Spelled RecoveryTag where
  table := [("abort", .abort), ("skip", .skip), ("retry", .retry)]
  word
    | .abort => "abort"
    | .skip => "skip"
    | .retry => "retry"
  lookup_word a := by cases a <;> rfl

/-- The numbers of a retry. -/
def Recovery.retryReading : Reading Recovery :=
  Recovery.retry
    <$> needed "struct variant ErrorHandling::Retry" 2 "maxRetries" nat32
    <*> given "retryDelayMs" (option nat64) none

/-- Nothing is asked for behind the tag of a plain way of recovery. -/
def noParts : Parts → Except Complaint Unit
  | .fields _ _ => .ok ()
  | .items ds stop => endOfItems .buffered 0 ds stop

/-- Decode a way of recovery. -/
def Recovery.decode : Decoder Recovery := fun src d => do
  let t ← tagged "strategy" "internally tagged enum ErrorHandling" tag src d
  match (t.tag : RecoveryTag) with
  | .abort => do
    noParts t.parts
    return .abort
  | .skip => do
    noParts t.parts
    return .skip
  | .retry =>
    match t.parts with
    | .fields fields stop => readFields Recovery.retryReading .buffered fields stop
    | .items ds stop => readItems Recovery.retryReading .buffered ds stop

/-! ### Actions -/

/-- The types of actions, as tags. -/
inductive ActionTag where
  /-- See `Action.createFile`. -/
  | createFile
  /-- See `Action.insertText`. -/
  | insertText
  /-- See `Action.textTransform`. -/
  | textTransform
  /-- See `Action.ai`. -/
  | ai
  /-- See `Action.collectData`. -/
  | collectData
  /-- See `Action.loop`. -/
  | loop
  /-- See `Action.proceed`. -/
  | proceed
  /-- See `Action.leave`. -/
  | leave
  /-- See `Action.suggest`. -/
  | suggest
  /-- See `Action.generateForm`. -/
  | generateForm
  /-- See `Action.button`. -/
  | button
  /-- See `Action.wait`. -/
  | wait
  /-- See `Action.group`. -/
  | group
  deriving DecidableEq, Repr

instance : Spelled ActionTag where
  table := [("createFile", .createFile), ("insertText", .insertText),
    ("textTransform", .textTransform), ("ai", .ai), ("collectData", .collectData),
    ("loop", .loop), ("continue", .proceed), ("break", .leave), ("suggestModal", .suggest),
    ("generateForm", .generateForm), ("button", .button), ("wait", .wait),
    ("group", .group)]
  word
    | .createFile => "createFile"
    | .insertText => "insertText"
    | .textTransform => "textTransform"
    | .ai => "ai"
    | .collectData => "collectData"
    | .loop => "loop"
    | .proceed => "continue"
    | .leave => "break"
    | .suggest => "suggestModal"
    | .generateForm => "generateForm"
    | .button => "button"
    | .wait => "wait"
    | .group => "group"
  lookup_word a := by cases a <;> rfl

/-- How a record is called in complaints. -/
def ActionTag.recordName : ActionTag → String
  | createFile => "struct CreateFileAction"
  | insertText => "struct InsertTextAction"
  | textTransform => "struct TextTransformAction"
  | ai => "struct AiAction"
  | collectData => "struct CollectDataAction"
  | loop => "struct LoopAction"
  | proceed => "struct ContinueAction"
  | leave => "struct BreakAction"
  | suggest => "struct SuggestModalAction"
  | generateForm => "struct GenerateFormAction"
  | button => "struct ButtonAction"
  | wait => "struct WaitAction"
  | group => "struct GroupAction"

/-- The start of an action, given the decoder for filters. -/
def Head.reading (filter : Decoder Filter) : Reading Head :=
  Head.mk
    <$> needed "" 0 "id" text
    <*> given "title" (option text) none
    <*> given "errorHandling" (option Recovery.decode) none
    <*> given "condition" (option filter) none

/-- A field of an action that must be there. -/
def must {α : Type} (name : String) (dec : Decoder α) : Reading α :=
  needed "" 0 name dec

/-- A range of integers. -/
def CountRange.decode : Decoder CountRange :=
  record "struct CountRange"
    (CountRange.mk
      <$> given "start" int64 0
      <*> needed "struct CountRange" 3 "end" int64
      <*> given "step" int64 1)

/-- The fields of a loop other than its body. -/
def LoopPlan.reading (filter : Decoder Filter) : Reading LoopPlan :=
  LoopPlan.mk
    <$> must "loopType" word
    <*> given "listSource" (option anyValue) none
    <*> given "count" (option CountRange.decode) none
    <*> given "condition" (option filter) none
    <*> given "pageSize" (option size) none
    <*> given "maxIterations" (option nat32) none
    <*> given "itemVariable" (option text) none
    <*> given "indexVariable" (option text) none

/-- What the type of an action asks for, given the decoders for filters and for actions
inside it. -/
def Action.reading (depth : Nat) (inner : Decoder Action) : ActionTag → Reading (Head → Action)
  | .createFile =>
    (fun folder fileName content conflict output head =>
      .createFile head ⟨folder, fileName, content, conflict, output⟩)
      <$> given "folder" text ""
      <*> must "fileName" text
      <*> given "content" text ""
      <*> given "conflict" word .rename
      <*> given "outputVariable" (option text) none
  | .insertText =>
    (fun filePath content position heading create head =>
      .insertText head ⟨filePath, content, position, heading, create⟩)
      <$> must "filePath" text
      <*> must "content" text
      <*> given "position" word .bottom
      <*> given "heading" (option text) none
      <*> given "createIfMissing" bool false
  | .textTransform =>
    (fun source transform output head => .textTransform head ⟨source, transform, output⟩)
      <$> must "source" text
      <*> must "transform" word
      <*> must "outputVariable" text
  | .ai =>
    (fun prompt systemPrompt model output head =>
      .ai head ⟨prompt, systemPrompt, model, output⟩)
      <$> must "prompt" text
      <*> given "systemPrompt" (option text) none
      <*> given "model" (option text) none
      <*> given "outputVariable" (option text) none
  | .collectData =>
    (fun output content kind mode separator head =>
      .collectData head ⟨output, content, kind, mode, separator⟩)
      <$> must "outputVariable" text
      <*> must "content" text
      <*> given "variableType" word .string
      <*> given "storageMode" word .append
      <*> given "separator" (option text) none
  | .loop =>
    (fun plan body head => .loop head plan body)
      <$> LoopPlan.reading (Filter.decode depth)
      <*> given "actions" (list inner) []
  | .proceed => pure .proceed
  | .leave => pure .leave
  | .suggest =>
    (fun placeholder options output head => .suggest head ⟨placeholder, options, output⟩)
      <$> given "placeholder" (option text) none
      <*> must "options" anyValue
      <*> must "outputVariable" text
  | .generateForm =>
    (fun fields head => .generateForm head fields)
      <$> must "fields" (list (Field.decode depth))
  | .button =>
    (fun path mode head => .button head path mode)
      <$> must "formPath" text
      <*> given "mode" word .submit
  | .wait =>
    (fun duration head => .wait head duration)
      <$> must "durationMs" nat64
  | .group =>
    (fun groupId members head => .group head groupId members)
      <$> given "groupId" (option text) none
      <*> given "actions" (list inner) []

/-- The fields whose names are not among `names`. -/
def fieldsBeyond (names : List String)
    (fields : List (Except Json.SyntaxFault String × Document)) :
    List (Except Json.SyntaxFault String × Document) :=
  fields.filter fun
    | (.ok k, _) => !names.contains k
    | (.error _, _) => true

/-- **Decode an action**, at most `depth` levels deep. -/
def Action.decode : (depth : Nat) → Decoder Action
  | 0 => fun _ _ => .error (.badJson .nestedTooDeeply)
  | depth + 1 => fun src d => do
    let t ← tagged "type" "internally tagged enum Action" tag src d
    match t.parts with
    | .items _ _ => .error (.wrongType .list (ActionTag.recordName t.tag))
    | .fields fields _ => do
      let own := Action.reading depth (Action.decode depth) t.tag
      let make ← readFields own .buffered fields none
      let head ← readFields (Head.reading (Filter.decode depth)) .buffered
        (fieldsBeyond own.names fields) none
      return make head

/-! ### Forms -/

/-- Decode a group of actions. -/
def ActionGroup.decode (depth : Nat) : Decoder ActionGroup :=
  record "struct ActionGroup"
    (ActionGroup.mk
      <$> needed "struct ActionGroup" 4 "id" text
      <*> given "name" (option text) none
      <*> given "errorHandling" (option Recovery.decode) none
      <*> given "actions" (list (Action.decode depth)) [])

/-- Decode the cut-off of a submission. -/
def Timeout.decode : Decoder Timeout :=
  record "struct TimeoutSettings"
    (Timeout.mk
      <$> given "enabled" bool false
      <*> needed "struct TimeoutSettings" 2 "thresholdSeconds" nat64)

/-- **Decode a form.** -/
def Form.decode (depth : Nat) : Decoder Form :=
  record "struct FormConfig"
    (Form.mk
      <$> given "id" (option text) none
      <*> given "name" (option text) none
      <*> given "fields" (list (Field.decode depth)) []
      <*> given "actions" (list (Action.decode depth)) []
      <*> given "actionGroups" (list (ActionGroup.decode depth)) []
      <*> given "runInBackground" bool false
      <*> given "suppressSuccessNotice" bool false
      <*> given "timeout" (option Timeout.decode) none)

/-- The form that a value describes. -/
def Form.ofValue (v : Value) : Except Complaint Form :=
  let d := Document.ofValue v
  Form.decode (d.height + 1) .value d

/-- The form that a text describes. -/
def Form.ofText (s : String) : Except Complaint Form := do
  let reading := Json.read s
  let form ← Form.decode (reading.document.height + 1) .text reading.document
  if reading.trailing then .error (.badJson .trailingText) else return form

/-- The filter that a value describes. -/
def Filter.ofValue (v : Value) : Except Complaint Filter :=
  let d := Document.ofValue v
  Filter.decode (d.height + 1) .value d

/-- How a complaint about the text of a form is told. -/
def formComplaint (c : Complaint) : String :=
  "Failed to parse form: " ++ c.message

/-- How a complaint about the text of a filter is told. -/
def filterComplaint (c : Complaint) : String :=
  "Failed to parse filter: " ++ c.message

end FormChain
