import FormChain.Form.Spelling
import FormChain.Value.Basic

/-!
# The words of a form

The settings of a form that are one word out of a few, and the operators of filters.
-/

namespace FormChain

/-- What kind of answer a field takes. -/
inductive FieldKind where
  /-- One line of text. -/
  | text
  /-- Several lines of text. -/
  | textArea
  /-- A number. -/
  | number
  /-- A date. -/
  | date
  /-- A time of day. -/
  | time
  /-- A date and a time. -/
  | dateTime
  /-- A tick. -/
  | checkbox
  /-- A switch. -/
  | toggle
  /-- A choice from a list. -/
  | select
  /-- A choice among buttons. -/
  | radio
  /-- A file. -/
  | file
  /-- A hidden text. -/
  | password
  deriving DecidableEq, Repr

instance : Spelled FieldKind where
  table := [("text", .text), ("textarea", .textArea), ("number", .number), ("date", .date),
    ("time", .time), ("datetime", .dateTime), ("checkbox", .checkbox),
    ("toggle", .toggle), ("select", .select), ("radio", .radio), ("file", .file),
    ("password", .password)]
  word
    | .text => "text"
    | .textArea => "textarea"
    | .number => "number"
    | .date => "date"
    | .time => "time"
    | .dateTime => "datetime"
    | .checkbox => "checkbox"
    | .toggle => "toggle"
    | .select => "select"
    | .radio => "radio"
    | .file => "file"
    | .password => "password"
  lookup_word a := by cases a <;> rfl

/-- What to do when the file to be created exists. -/
inductive Conflict where
  /-- Leave the file as it is. -/
  | skip
  /-- Replace the text of the file. -/
  | overwrite
  /-- Create a file of another name. -/
  | rename
  deriving DecidableEq, Repr

instance : Spelled Conflict where
  table := [("skip", .skip), ("overwrite", .overwrite), ("rename", .rename)]
  word
    | .skip => "skip"
    | .overwrite => "overwrite"
    | .rename => "rename"
  lookup_word a := by cases a <;> rfl

/-- Where in a file text is inserted. -/
inductive Position where
  /-- Behind the frontmatter, or at the very top. -/
  | top
  /-- At the end. -/
  | bottom
  /-- Behind the line of a heading. -/
  | afterHeading
  deriving DecidableEq, Repr

instance : Spelled Position where
  table := [("top", .top), ("bottom", .bottom), ("afterHeading", .afterHeading)]
  word
    | .top => "top"
    | .bottom => "bottom"
    | .afterHeading => "afterHeading"
  lookup_word a := by cases a <;> rfl

/-- How a text is changed. -/
inductive Transform where
  /-- To upper case. -/
  | upper
  /-- To lower case. -/
  | lower
  /-- Blanks at the ends removed. -/
  | trim
  /-- The first character to upper case. -/
  | capitalize
  /-- Letters and digits in lower case, parted by single hyphens. -/
  | slug
  deriving DecidableEq, Repr

instance : Spelled Transform where
  table := [("upper", .upper), ("lower", .lower), ("trim", .trim),
    ("capitalize", .capitalize), ("slug", .slug)]
  word
    | .upper => "upper"
    | .lower => "lower"
    | .trim => "trim"
    | .capitalize => "capitalize"
    | .slug => "slug"
  lookup_word a := by cases a <;> rfl

/-- What a collecting action builds. -/
inductive CollectKind where
  /-- One text. -/
  | string
  /-- A list. -/
  | array
  deriving DecidableEq, Repr

instance : Spelled CollectKind where
  table := [("string", .string), ("array", .array)]
  word
    | .string => "string"
    | .array => "array"
  lookup_word a := by cases a <;> rfl

/-- What a collecting action does with what is there. -/
inductive CollectMode where
  /-- Put the new behind the old. -/
  | append
  /-- Keep only the new. -/
  | replace
  deriving DecidableEq, Repr

instance : Spelled CollectMode where
  table := [("append", .append), ("replace", .replace)]
  word
    | .append => "append"
    | .replace => "replace"
  lookup_word a := by cases a <;> rfl

/-- What drives a loop. -/
inductive LoopKind where
  /-- The items of a list. -/
  | list
  /-- A condition that holds. -/
  | condition
  /-- A range of integers. -/
  | count
  /-- The pages of a list. -/
  | pagination
  deriving DecidableEq, Repr

instance : Spelled LoopKind where
  table := [("list", .list), ("condition", .condition), ("count", .count),
    ("pagination", .pagination)]
  word
    | .list => "list"
    | .condition => "condition"
    | .count => "count"
    | .pagination => "pagination"
  lookup_word a := by cases a <;> rfl

/-- How a form that is launched gets its values. -/
inductive ButtonMode where
  /-- It is submitted with its default values. -/
  | submit
  /-- The user fills it in. -/
  | openFirst
  deriving DecidableEq, Repr

instance : Spelled ButtonMode where
  table := [("submit", .submit), ("open", .openFirst)]
  word
    | .submit => "submit"
    | .openFirst => "open"
  lookup_word a := by cases a <;> rfl

/-- What a filter is. -/
inductive FilterKind where
  /-- A comparison. -/
  | leaf
  /-- A combination of filters. -/
  | group
  deriving DecidableEq, Repr

instance : Spelled FilterKind where
  table := [("filter", .leaf), ("group", .group)]
  word
    | .leaf => "filter"
    | .group => "group"
  lookup_word a := by cases a <;> rfl

/-- How the filters of a group are combined. -/
inductive Junction where
  /-- All of them must hold. -/
  | all
  /-- One of them must hold. -/
  | any
  deriving DecidableEq, Repr

instance : Spelled Junction where
  table := [("and", .all), ("or", .any)]
  word
    | .all => "and"
    | .any => "or"
  lookup_word a := by cases a <;> rfl

/-- **An operator of a filter.** -/
inductive Operator where
  /-- The values are loosely equal, or a list has an item that is. -/
  | equals
  /-- The opposite of `equals`. -/
  | notEquals
  /-- The number is greater. -/
  | greaterThan
  /-- The number is greater or equal. -/
  | greaterThanOrEqual
  /-- The number is less. -/
  | lessThan
  /-- The number is less or equal. -/
  | lessThanOrEqual
  /-- All of some values are among the items. -/
  | contains
  /-- None of some values is among the items. -/
  | notContains
  /-- One of some values is among the items. -/
  | containsAny
  /-- The text starts so. -/
  | startsWith
  /-- The text ends so. -/
  | endsWith
  /-- A pattern is found in the text. -/
  | regexMatch
  /-- A value is present. -/
  | hasValue
  /-- No value is present. -/
  | noValue
  /-- The text of a file contains a text. -/
  | fileContains
  /-- The list is this long. -/
  | arrayLengthEquals
  /-- The list is longer. -/
  | arrayLengthGreater
  /-- The list is shorter. -/
  | arrayLengthLess
  /-- The moment is earlier. -/
  | timeBefore
  /-- The moment is later. -/
  | timeAfter
  /-- The moment is not later. -/
  | timeBeforeOrEqual
  /-- The moment is not earlier. -/
  | timeAfterOrEqual
  /-- The value counts as a tick. -/
  | checked
  /-- The value does not count as a tick. -/
  | unchecked
  /-- None of the others; no comparison holds. -/
  | unknown
  deriving DecidableEq, Repr

instance : Spelled Operator where
  table := [("Equals", .equals), ("NotEquals", .notEquals), ("GreaterThan", .greaterThan),
    ("GreaterThanOrEqual", .greaterThanOrEqual), ("LessThan", .lessThan),
    ("LessThanOrEqual", .lessThanOrEqual), ("Contains", .contains),
    ("NotContains", .notContains), ("ContainsAny", .containsAny),
    ("StartsWith", .startsWith), ("EndsWith", .endsWith), ("RegexMatch", .regexMatch),
    ("HasValue", .hasValue), ("NoValue", .noValue), ("FileContains", .fileContains),
    ("ArrayLengthEquals", .arrayLengthEquals), ("ArrayLengthGreater", .arrayLengthGreater),
    ("ArrayLengthLess", .arrayLengthLess), ("TimeBefore", .timeBefore),
    ("TimeAfter", .timeAfter), ("TimeBeforeOrEqual", .timeBeforeOrEqual),
    ("TimeAfterOrEqual", .timeAfterOrEqual), ("Checked", .checked),
    ("Unchecked", .unchecked), ("Unknown", .unknown)]
  word
    | .equals => "Equals"
    | .notEquals => "NotEquals"
    | .greaterThan => "GreaterThan"
    | .greaterThanOrEqual => "GreaterThanOrEqual"
    | .lessThan => "LessThan"
    | .lessThanOrEqual => "LessThanOrEqual"
    | .contains => "Contains"
    | .notContains => "NotContains"
    | .containsAny => "ContainsAny"
    | .startsWith => "StartsWith"
    | .endsWith => "EndsWith"
    | .regexMatch => "RegexMatch"
    | .hasValue => "HasValue"
    | .noValue => "NoValue"
    | .fileContains => "FileContains"
    | .arrayLengthEquals => "ArrayLengthEquals"
    | .arrayLengthGreater => "ArrayLengthGreater"
    | .arrayLengthLess => "ArrayLengthLess"
    | .timeBefore => "TimeBefore"
    | .timeAfter => "TimeAfter"
    | .timeBeforeOrEqual => "TimeBeforeOrEqual"
    | .timeAfterOrEqual => "TimeAfterOrEqual"
    | .checked => "Checked"
    | .unchecked => "Unchecked"
    | .unknown => "Unknown"
  lookup_word a := by cases a <;> rfl

namespace Operator

/-- The operator of a name; any other name is `unknown`. -/
def ofName (s : String) : Operator :=
  (Spelled.ofWord? s).getD .unknown

/-- The operators that compare. -/
def known : List Operator :=
  (Spelled.table.map Prod.snd).filter (· ≠ .unknown)

end Operator

end FormChain
