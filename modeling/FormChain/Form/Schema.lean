import FormChain.Form.Words
import FormChain.Json.Outline
import FormChain.Text.Pieces

/-!
# The schema of forms

A description of the format of forms for other programs, as a JSON schema: a record for
every part of a form, each under the name by which the others refer to it.

Keywords stand in the usual order: what a thing is for, what it is when it is not given,
its type, and what is inside.
-/

namespace FormChain.Schema

/-! ### Keywords -/

/-- The keywords of a schema. -/
abbrev Keywords := List (String × Outline)

/-- The keyword for what a thing is for. -/
def description (s : String) : Keywords :=
  if s.isEmpty then [] else [("description", .text s)]

/-- The keyword for what a thing is when it is not given. -/
def defaultValue (v : Option Value) : Keywords :=
  v.toList.map fun v => ("default", .value v)

/-- The keyword for a type. -/
def type (s : String) : Keywords :=
  [("type", .text s)]

/-- The type of a thing that may be `null`. -/
def typeOrNull (s : String) : Keywords :=
  [("type", .list [.text s, .text "null"])]

/-- The reference to a definition. -/
def reference (name : String) : Outline :=
  .record [("$ref", .text ("#/definitions/" ++ name))]

/-- The keyword for a choice of words. -/
def choice (words : List String) : Keywords :=
  [("enum", .list (words.map .text))]

/-! ### Shapes -/

/-- What is in a property. -/
inductive Shape where
  /-- Any value. -/
  | any
  /-- A text. -/
  | text
  /-- A truth value. -/
  | bool
  /-- A whole number of a width, with a sign. -/
  | int (format : String)
  /-- A whole number of a width, without a sign. -/
  | nat (format : String)
  /-- A list of any values. -/
  | values
  /-- A list of what a definition describes. -/
  | listOf (definition : String)
  /-- What a definition describes. -/
  | ofDefinition (name : String)

namespace Shape

/-- The type and the keywords behind it, for shapes with a type of their own. -/
def typed : Shape → Option (String × Keywords)
  | any => none
  | text => some ("string", [])
  | bool => some ("boolean", [])
  | int format => some ("integer", [("format", .text format)])
  | nat format =>
    some ("integer", [("format", .text format), ("minimum", .value (.number (.real 0.0)))])
  | values => some ("array", [("items", .value (.bool true))])
  | listOf name => some ("array", [("items", reference name)])
  | ofDefinition _ => none

/-- The keywords of a shape, when other keywords stand beside it. -/
def keywords (s : Shape) : Keywords :=
  match s.typed with
  | some (t, more) => type t ++ more
  | none =>
    match s with
    | ofDefinition name => [("allOf", .list [reference name])]
    | _ => []

/-- The keywords of a shape that may be `null`. -/
def keywordsOrNull (s : Shape) : Keywords :=
  match s.typed with
  | some (t, more) => typeOrNull t ++ more
  | none =>
    match s with
    | ofDefinition name => [("anyOf", .list [reference name, .record (type "null")])]
    | _ => []

end Shape

/-! ### Properties and records -/

/-- Whether a property must be there. -/
inductive Presence where
  /-- It must. -/
  | needed
  /-- It may be missing and then is this value. -/
  | assumed (v : Value)
  /-- It may be missing, or `null`. -/
  | nullable
  /-- It may be missing. -/
  | omittable

/-- **A property of a record.** -/
structure Property where
  /-- The name. -/
  name : String
  /-- What it is for. -/
  about : String
  /-- What is in it. -/
  shape : Shape
  /-- Whether it must be there. -/
  presence : Presence := .needed

namespace Property

/-- The schema of a property. -/
def outline (p : Property) : Outline :=
  match p.presence with
  | .needed | .omittable => .record (description p.about ++ p.shape.keywords)
  | .assumed v => .record (description p.about ++ defaultValue (some v) ++ p.shape.keywords)
  | .nullable => .record (description p.about ++ p.shape.keywordsOrNull)

/-- Whether a property must be there. -/
def isNeeded (p : Property) : Bool :=
  match p.presence with
  | .needed => true
  | _ => false

end Property

/-- Named outlines in order of names, of which a later one stands for an earlier one of its
name. -/
def inOrder (fields : List (String × Outline)) : Outline :=
  .record (Keyed.ofList fields)

/-- The keywords of a record whose properties are already outlined. -/
def recordKeywords (needed : List String) (properties : List (String × Outline)) : Keywords :=
  type "object" ++
    (if needed.isEmpty then []
      else [("required", .list ((Keyed.ofList (needed.map (·, ()))).names.map .text))]) ++
    if properties.isEmpty then [] else [("properties", inOrder properties)]

/-- The names of the properties that must be there. -/
def neededNames (ps : List Property) : List String :=
  (ps.filter (·.isNeeded)).map (·.name)

/-- The properties with their outlines. -/
def outlines (ps : List Property) : List (String × Outline) :=
  ps.map fun p => (p.name, p.outline)

/-- **The schema of a record.** -/
def record (about : String) (ps : List Property) : Outline :=
  .record (description about ++ recordKeywords (neededNames ps) (outlines ps))

/-- A record that is told from others by a word under a name. -/
def variant (about tagName word : String) (ps : List Property) : Outline :=
  let tag := (tagName, Outline.record (type "string" ++ choice [word]))
  .record (description about ++
    recordKeywords (tagName :: neededNames ps) (tag :: outlines ps))

/-- One out of several records. -/
def oneOf (about : String) (options : List Outline) : Outline :=
  .record (description about ++ [("oneOf", .list options)])

/-- The schema of a word out of several. -/
def wordKeywords (words : List String) : Keywords :=
  type "string" ++ choice words

/-- **The schema of words** that need no explanation. -/
def words (about : String) (ws : List String) : Outline :=
  .record (description about ++ wordKeywords ws)

/-- The schema of words that are explained one by one. -/
def explained (about : String) (ws : List (String × String)) : Outline :=
  oneOf about (ws.map fun (w, meaning) =>
    .record (description meaning ++ wordKeywords [w]))

/-! ### Parts of forms -/

/-- What a property may be missing and otherwise is a text. -/
def optionalText (name about : String) : Property :=
  ⟨name, about, .text, .nullable⟩

/-- A property that is a text. -/
def neededText (name about : String) : Property :=
  ⟨name, about, .text, .needed⟩

/-- The empty list as a value. -/
def noItems : Value := .list []

/-- The properties of a form. -/
def formProperties : List Property :=
  [ optionalText "id" "Stable form identifier"
  , optionalText "name" "Human-readable form name"
  , ⟨"fields", "Fields collected from the user", .listOf "FormField", .assumed noItems⟩
  , ⟨"actions", "Ordered action chain executed on submission", .listOf "Action",
      .assumed noItems⟩
  , ⟨"actionGroups", "Named action groups that `group` actions may reference by id",
      .listOf "ActionGroup", .omittable⟩
  , ⟨"runInBackground", "Detach the chain into a background task and return immediately",
      .bool, .assumed (.bool false)⟩
  , ⟨"suppressSuccessNotice", "Do not show the success notification after submission",
      .bool, .assumed (.bool false)⟩
  , ⟨"timeout", "Per-form timeout override", .ofDefinition "TimeoutSettings", .nullable⟩ ]

/-- What a form is. -/
def aboutForm : String :=
  "Complete form definition: the fields a user fills in and the action chain executed on submission."

/-- The schema of a timeout. -/
def timeout : Outline :=
  record "Timeout policy for one form's submissions."
    [ ⟨"enabled", "Whether the deadline timer is armed", .bool, .assumed (.bool false)⟩
    , ⟨"thresholdSeconds", "Seconds before the submission is cancelled", .nat "uint64",
        .needed⟩ ]

/-- The schema of a field. -/
def field : Outline :=
  record "A single input collected by the form."
    [ neededText "id" "Key under which the value is stored in the value bag"
    , neededText "label" "Display label; `\x7b\x7b@label\x7d\x7d` references resolve through it"
    , ⟨"type", "Field kind", .ofDefinition "FieldType", .assumed (.text "text")⟩
    , ⟨"required", "Whether a visible field must have a value on submission", .bool,
        .assumed (.bool false)⟩
    , ⟨"defaultValue", "Value used when the submission does not provide one", .any,
        .nullable⟩
    , ⟨"options", "Choices for select/radio fields", .values, .omittable⟩
    , ⟨"condition", "Field is shown only when this filter holds", .ofDefinition "Filter",
        .nullable⟩ ]

/-- The schema of a filter. -/
def filter : Outline :=
  record "Recursive boolean expression used for visibility and branching.\n\nLeaf nodes (`type: \"filter\"`) compare `property` against `value` with `operator`. Group nodes (`type: \"group\"`) combine `conditions` with `relation` and ignore the leaf fields."
    [ optionalText "id" ""
    , ⟨"type", "Leaf or group node", .ofDefinition "FilterType", .assumed (.text "filter")⟩
    , optionalText "property" "Field id, field label or loop variable being tested"
    , ⟨"operator", "Comparison operator", .ofDefinition "OperatorType", .nullable⟩
    , ⟨"value", "Comparison value", .any, .nullable⟩
    , ⟨"relation", "How group children are combined", .ofDefinition "Relation",
        .assumed (.text "and")⟩
    , ⟨"conditions", "Group children", .listOf "Filter", .omittable⟩ ]

/-- The schema of an operator. -/
def operator : Outline :=
  oneOf "Comparison operators. Each maps to exactly one stateless handler.\n\nUnrecognised operator names deserialize to [`OperatorType::Unknown`], which always evaluates to `false`."
    [ .record (wordKeywords (Operator.known.map Spelled.word))
    , .record (description "Any operator name this version does not know" ++
        wordKeywords [Spelled.word Operator.unknown]) ]

/-- The schema of a way of recovery. -/
def recovery : Outline :=
  oneOf "What to do when an action fails."
    [ variant "Stop the whole chain and surface the error" "strategy" "abort" []
    , variant "Log the failure and continue with the next sibling" "strategy" "skip" []
    , variant "Re-run the action; abort once retries are exhausted" "strategy" "retry"
        [ ⟨"maxRetries", "Additional attempts after the first failure", .nat "uint32", .needed⟩
        , ⟨"retryDelayMs", "Delay between attempts in milliseconds", .nat "uint64",
            .nullable⟩ ] ]

/-- The schema of a range of integers. -/
def countRange : Outline :=
  record "Numeric range for count loops. `end` is inclusive."
    [ ⟨"start", "", .int "int64", .assumed (.ofNat 0)⟩
    , ⟨"end", "", .int "int64", .needed⟩
    , ⟨"step", "", .int "int64", .assumed (.ofNat 1)⟩ ]

/-- The schema of a group of actions. -/
def group : Outline :=
  record "A named, reusable batch of actions sharing one failure policy."
    [ neededText "id" "Group identifier referenced by `group` actions"
    , optionalText "name" "Human-readable group name"
    , ⟨"errorHandling", "Failure policy applied to every member",
        .ofDefinition "ErrorHandling", .nullable⟩
    , ⟨"actions", "Member actions in execution order", .listOf "Action", .assumed noItems⟩ ]

/-! ### Actions -/

/-- What all actions have. It stands behind the properties of their own, so a condition
means whether the action is carried out also where an action has another. -/
def head : List Property :=
  [ neededText "id" "Unique action identifier"
  , optionalText "title" "Custom title shown in the editor"
  , ⟨"errorHandling",
      "Failure policy for this action; inherited from the enclosing group when absent",
      .ofDefinition "ErrorHandling", .nullable⟩
  , ⟨"condition", "Action (and its subtree) is skipped unless this filter holds",
      .ofDefinition "Filter", .nullable⟩ ]

/-- The schema of one type of action. -/
def action (about word : String) (own : List Property) : Outline :=
  variant about "type" word (own ++ head)

/-- The actions on files and texts. -/
def textActions : List Outline :=
  [ action "Create a note from a template" "createFile"
      [ ⟨"folder", "Target folder (template); empty means the vault root", .text,
          .assumed (.text "")⟩
      , neededText "fileName"
          "File name (template); `.md` is appended when no extension is given"
      , ⟨"content", "File content (template)", .text, .assumed (.text "")⟩
      , ⟨"conflict", "What to do when the target already exists",
          .ofDefinition "ConflictStrategy", .assumed (.text "rename")⟩
      , optionalText "outputVariable" "Store the created path under this output variable" ]
  , action "Insert text into an existing note" "insertText"
      [ neededText "filePath" "Target note path (template)"
      , neededText "content" "Text to insert (template)"
      , ⟨"position", "Where the text goes", .ofDefinition "InsertPosition",
          .assumed (.text "bottom")⟩
      , optionalText "heading" "Heading text for `afterHeading`"
      , ⟨"createIfMissing", "Create the note when it does not exist", .bool,
          .assumed (.bool false)⟩ ]
  , action "Transform text and store the result in an output variable" "textTransform"
      [ neededText "source" "Input text (template)"
      , ⟨"transform", "Transformation to apply", .ofDefinition "TextTransform", .needed⟩
      , neededText "outputVariable" "Output variable receiving the result" ]
  , action "Call the AI collaborator with a prompt" "ai"
      [ neededText "prompt" "User prompt (template)"
      , optionalText "systemPrompt" "System prompt (template)"
      , optionalText "model" "Model name passed through to the collaborator"
      , optionalText "outputVariable" "Output variable receiving the response text" ] ]

/-- The actions around loops. -/
def loopActions : List Outline :=
  [ action "Accumulate a value across loop iterations" "collectData"
      [ neededText "outputVariable" "Output variable name"
      , neededText "content" "Value collected on each iteration (template)"
      , ⟨"variableType", "Shape of the output variable", .ofDefinition "CollectVariableType",
          .assumed (.text "string")⟩
      , ⟨"storageMode", "Keep or discard earlier accumulation", .ofDefinition "StorageMode",
          .assumed (.text "append")⟩
      , optionalText "separator" "Text inserted between appended string values" ]
  , action "Repeat a nested action list" "loop"
      [ ⟨"loopType", "Data source kind", .ofDefinition "LoopType", .needed⟩
      , ⟨"listSource", "List for `list`/`pagination` loops: a JSON array, or a template that resolves to an array or to newline-separated text", .any, .nullable⟩
      , ⟨"count", "Range for `count` loops", .ofDefinition "CountRange", .nullable⟩
      , ⟨"condition", "Continuation test for `condition` loops, checked before each iteration", .ofDefinition "Filter", .nullable⟩
      , ⟨"pageSize", "Page size for `pagination` loops (default: 10)", .nat "uint",
          .nullable⟩
      , ⟨"maxIterations", "Iteration cap; the engine's configured cap applies when absent",
          .nat "uint32", .nullable⟩
      , optionalText "itemVariable" "Extra name bound to the current item"
      , optionalText "indexVariable" "Extra name bound to the current index"
      , ⟨"actions", "Loop body", .listOf "Action", .assumed noItems⟩ ]
  , action "No-op branch terminator" "continue" []
  , action "Leave the innermost loop" "break" [] ]

/-- The actions that ask the user, launch forms, wait or gather actions. -/
def otherActions : List Outline :=
  [ action "Ask the user to pick one option" "suggestModal"
      [ optionalText "placeholder" "Prompt shown above the options (template)"
      , ⟨"options", "Options: a JSON array, or a template resolving to an array or lines",
          .any, .needed⟩
      , neededText "outputVariable" "Output variable receiving the chosen option" ]
  , action "Ask the user for additional field values" "generateForm"
      [ ⟨"fields", "Fields to ask for; answers are merged into the value bag",
          .listOf "FormField", .needed⟩ ]
  , action "Submit or open another form file" "button"
      [ neededText "formPath" "Path of the form file in the document store (template)"
      , ⟨"mode", "Submit with defaults, or open for user input first",
          .ofDefinition "ButtonMode", .assumed (.text "submit")⟩ ]
  , action "Pause the chain for a while" "wait"
      [ ⟨"durationMs", "Delay in milliseconds", .nat "uint64", .needed⟩ ]
  , action "Run nested actions under one error policy" "group"
      [ optionalText "groupId" "Run the named `ActionGroup` instead of the inline actions"
      , ⟨"actions", "Inline member actions", .listOf "Action", .assumed noItems⟩ ] ]

/-- The schema of an action. -/
def anyAction : Outline :=
  oneOf "Union of all action kinds, discriminated by the `type` field."
    (textActions ++ loopActions ++ otherActions)

/-! ### The whole -/

/-- **The definitions that the parts of a form refer to**, in order of names. -/
def definitions : Keyed Outline :=
  [ ("Action", anyAction)
  , ("ActionGroup", group)
  , ("ButtonMode", words "How a button action launches its target form."
      (Spelled.words ButtonMode))
  , ("CollectVariableType", explained "Shape of a collected output variable."
      [("string", "Concatenated text"), ("array", "One element per iteration")])
  , ("ConflictStrategy", explained "Behaviour when a file being created already exists."
      [("skip", "Leave the existing file untouched"),
        ("overwrite", "Replace the existing content"),
        ("rename", "Create `name 1.md`, `name 2.md`, ...")])
  , ("CountRange", countRange)
  , ("ErrorHandling", recovery)
  , ("FieldType", words "Field kinds. Rendering is the host's concern; the engine only cares about values." (Spelled.words FieldKind))
  , ("Filter", filter)
  , ("FilterType", words "Filter node kind." (Spelled.words FilterKind))
  , ("FormField", field)
  , ("InsertPosition", explained "Insertion point inside a note."
      [("top", "After the frontmatter block, or at the very top"),
        ("bottom", "At the end of the note"),
        ("afterHeading", "Right below the line of the given heading")])
  , ("LoopType", explained "Kinds of loop data sources."
      [("list", "Iterate over the elements of a list"),
        ("condition", "Repeat while a filter holds"),
        ("count", "Iterate over a numeric range"),
        ("pagination", "Iterate over a list one page at a time")])
  , ("OperatorType", operator)
  , ("Relation", words "Logical combination of group children." (Spelled.words Junction))
  , ("StorageMode", words "Whether a collect-data action keeps earlier values."
      (Spelled.words CollectMode))
  , ("TextTransform", words "Text transformations." (Spelled.words Transform))
  , ("TimeoutSettings", timeout) ]

/-- The address of the vocabulary that the schema is written in, segment by segment. -/
def vocabulary : String :=
  Text.joined "/" ["http:", "", "json-schema.org", "draft-07", "schema#"]

/-- The schema of a form, given what stands under `definitions`. -/
def formWith (definitions : Outline) : Outline :=
  .record (
    [("$schema", .text vocabulary),
      ("title", .text "FormConfig")] ++
    description aboutForm ++ recordKeywords (neededNames formProperties)
      (outlines formProperties) ++
    [("definitions", definitions)])

/-- **The schema of forms.** -/
def form : Outline :=
  formWith (.record definitions)

/-- The schema of forms with the names of the definitions only. -/
def summary : Outline :=
  formWith (.list (definitions.names.map .text))

end FormChain.Schema
