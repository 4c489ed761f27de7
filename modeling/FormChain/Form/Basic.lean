import FormChain.Form.Words

/-!
# Forms

A form has fields, to be filled in, and actions, to be carried out one after another
when it is submitted. Actions can be gathered in groups of the form, which other
actions refer to, and loops and groups hold actions of their own, to any depth.

Every action starts with a `Head`: its id, an optional title, what to do when it fails,
and a condition under which it is carried out. In a loop the word `condition` means the
test of the loop, so a loop has no condition of its own.
-/

namespace FormChain

/-! ### Conditions -/

/-- **A filter**: a comparison of a looked-up value with a given one, or a combination
of filters. All parts are kept whatever the kind is. -/
structure Filter where
  /-- An id that nothing refers to. -/
  id : Option String := none
  /-- Whether it compares or combines. -/
  kind : FilterKind := .leaf
  /-- What is looked up. -/
  property : Option String := none
  /-- How it is compared. -/
  operator : Option Operator := none
  /-- What it is compared with. -/
  value : Option Value := none
  /-- How the filters of a group are combined. -/
  junction : Junction := .all
  /-- The filters of a group. -/
  conditions : List Filter := []

/-! ### Fields -/

/-- **A field of a form.** -/
structure Field where
  /-- The name under which the answer is kept. -/
  id : String
  /-- The name shown to the user. -/
  label : String
  /-- The kind of answer. -/
  kind : FieldKind := .text
  /-- Whether an answer is needed while the field is shown. -/
  required : Bool := false
  /-- The answer when none is given. -/
  default : Option Value := none
  /-- The choices offered. -/
  options : List Value := []
  /-- When the field is shown. -/
  condition : Option Filter := none

/-! ### Actions -/

/-- **What to do when an action fails.** -/
inductive Recovery where
  /-- The chain ends. -/
  | abort
  /-- The chain goes on behind the action. -/
  | skip
  /-- The action is tried again, up to a number of times, after a delay in
  milliseconds. -/
  | retry (maxRetries : Nat) (delay : Option Nat)
  deriving DecidableEq, Repr

/-- What every action starts with. -/
structure Head where
  /-- The name of the action. -/
  id : String
  /-- A title for people. -/
  title : Option String := none
  /-- What to do when it fails. -/
  recovery : Option Recovery := none
  /-- When it is carried out. -/
  condition : Option Filter := none

/-- The creation of a file. -/
structure CreateFile where
  /-- The folder, a template. -/
  folder : String := ""
  /-- The name, a template. -/
  fileName : String
  /-- The text, a template. -/
  content : String := ""
  /-- What to do when the file exists. -/
  conflict : Conflict := .rename
  /-- The variable that receives the path. -/
  output : Option String := none

/-- The insertion of text into a file. -/
structure InsertText where
  /-- The path, a template. -/
  filePath : String
  /-- The text, a template. -/
  content : String
  /-- Where it goes. -/
  position : Position := .bottom
  /-- The heading it goes behind, a template. -/
  heading : Option String := none
  /-- Whether a missing file is created. -/
  createIfMissing : Bool := false

/-- The change of a text. -/
structure TextTransform where
  /-- The text, a template. -/
  source : String
  /-- How it is changed. -/
  transform : Transform
  /-- The variable that receives the result. -/
  output : String

/-- A request to a language model. -/
structure Prompt where
  /-- The request, a template. -/
  prompt : String
  /-- The instruction in front of it, a template. -/
  systemPrompt : Option String := none
  /-- The model to ask. -/
  model : Option String := none
  /-- The variable that receives the answer. -/
  output : Option String := none

/-- The collection of values over the iterations of a loop. -/
structure Collect where
  /-- The variable that is built up. -/
  output : String
  /-- What is collected, a template. -/
  content : String
  /-- What is built. -/
  kind : CollectKind := .string
  /-- What happens to what is there. -/
  mode : CollectMode := .append
  /-- What parts the collected texts. -/
  separator : Option String := none

/-- A range of integers, both ends included. -/
structure CountRange where
  /-- The first integer. -/
  start : Int := 0
  /-- The last integer. -/
  stop : Int
  /-- The distance of neighbours. -/
  step : Int := 1
  deriving DecidableEq, Repr

/-- How a loop runs. -/
structure LoopPlan where
  /-- What drives it. -/
  kind : LoopKind
  /-- The list of a list loop or a paginated loop, with templates inside. -/
  source : Option Value := none
  /-- The range of a count loop. -/
  count : Option CountRange := none
  /-- The test of a condition loop. -/
  test : Option Filter := none
  /-- The size of a page. -/
  pageSize : Option Nat := none
  /-- The greatest number of iterations. -/
  maxIterations : Option Nat := none
  /-- A second name for the item. -/
  itemAlias : Option String := none
  /-- A second name for the index. -/
  indexAlias : Option String := none

/-- The offer of a choice to the user. -/
structure Suggest where
  /-- The text in the empty box, a template. -/
  placeholder : Option String := none
  /-- The choices, with templates inside. -/
  options : Value
  /-- The variable that receives the choice. -/
  output : String

/-- **An action.** -/
inductive Action where
  /-- Create a file. -/
  | createFile (head : Head) (spec : CreateFile)
  /-- Insert text into a file. -/
  | insertText (head : Head) (spec : InsertText)
  /-- Change a text and keep it in a variable. -/
  | textTransform (head : Head) (spec : TextTransform)
  /-- Ask a language model. -/
  | ai (head : Head) (spec : Prompt)
  /-- Collect a value. -/
  | collectData (head : Head) (spec : Collect)
  /-- Repeat actions. -/
  | loop (head : Head) (plan : LoopPlan) (body : List Action)
  /-- Go on; it does nothing. -/
  | proceed (head : Head)
  /-- Leave the innermost loop. -/
  | leave (head : Head)
  /-- Let the user choose. -/
  | suggest (head : Head) (spec : Suggest)
  /-- Let the user fill in fields. -/
  | generateForm (head : Head) (fields : List Field)
  /-- Launch another form. -/
  | button (head : Head) (formPath : String) (mode : ButtonMode)
  /-- Let time pass, in milliseconds. -/
  | wait (head : Head) (duration : Nat)
  /-- Carry out the actions of a group of the form, or its own. -/
  | group (head : Head) (groupId : Option String) (members : List Action)

namespace Action

/-- The start of an action. -/
def head : Action → Head
  | createFile h _ | insertText h _ | textTransform h _ | ai h _ | collectData h _
  | loop h _ _ | proceed h | leave h | suggest h _ | generateForm h _ | button h _ _
  | wait h _ | group h _ _ => h

/-- The id of an action. -/
def id (a : Action) : String := a.head.id

/-- The word for the type of an action. -/
def typeName : Action → String
  | createFile .. => "createFile"
  | insertText .. => "insertText"
  | textTransform .. => "textTransform"
  | ai .. => "ai"
  | collectData .. => "collectData"
  | loop .. => "loop"
  | proceed .. => "continue"
  | leave .. => "break"
  | suggest .. => "suggestModal"
  | generateForm .. => "generateForm"
  | button .. => "button"
  | wait .. => "wait"
  | group .. => "group"

/-- The title shown for an action: its own, or the word for its type. -/
def displayTitle (a : Action) : String :=
  a.head.title.getD a.typeName

/-- The actions that an action holds, when it is of a type that holds any. -/
def children? : Action → Option (List Action)
  | loop _ _ body => some body
  | group _ _ members => some members
  | _ => none

end Action

/-! ### Forms -/

/-- A group of actions that group actions refer to. -/
structure ActionGroup where
  /-- The name that they refer to. -/
  id : String
  /-- A name for people. -/
  name : Option String := none
  /-- What to do when a member fails. -/
  recovery : Option Recovery := none
  /-- The members. -/
  actions : List Action := []

/-- When a submission is cut off. -/
structure Timeout where
  /-- Whether it is. -/
  enabled : Bool := false
  /-- After how many seconds. -/
  seconds : Nat
  deriving DecidableEq, Repr

/-- **A form.** -/
structure Form where
  /-- An id for other programs. -/
  id : Option String := none
  /-- A name for people. -/
  name : Option String := none
  /-- The fields, in the order in which they are shown. -/
  fields : List Field := []
  /-- The actions carried out on submission. -/
  actions : List Action := []
  /-- The groups that actions refer to. -/
  groups : List ActionGroup := []
  /-- Whether the actions are carried out behind the user's back. -/
  inBackground : Bool := false
  /-- Whether success is kept quiet. -/
  quiet : Bool := false
  /-- When a submission is cut off. -/
  timeout : Option Timeout := none

namespace Form

/-- The field of an id, else of a label. -/
def field? (f : Form) (key : String) : Option Field :=
  (f.fields.find? (·.id == key)).or (f.fields.find? (·.label == key))

/-- The group of an id. -/
def group? (f : Form) (id : String) : Option ActionGroup :=
  f.groups.find? (·.id == id)

/-- The answers that fields give by themselves, under the ids of the fields. -/
def defaults (f : Form) : Bag :=
  Keyed.ofList (f.fields.filterMap fun field => field.default.map (field.id, ·))

/-- The ids of the fields under their labels; of two fields with one label the later
counts. -/
def idsByLabel (f : Form) : Keyed String :=
  Keyed.ofList (f.fields.map fun field => (field.label, field.id))

end Form

end FormChain
