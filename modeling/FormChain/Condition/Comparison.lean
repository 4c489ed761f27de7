import FormChain.Condition.FileText
import FormChain.Form.Words
import FormChain.Pattern.Parser
import FormChain.Value.Coercion

/-!
# Comparisons

What each operator of a filter says of a field's value and the value it is compared
with. A comparison never fails: where a value cannot be seen in the way an operator
needs it, the comparison does not hold.

A field with several answers is a list. It equals a single value when one of its items
does, and the operators on texts and files hold when they hold of one item.

What text there is in a file is not for an operator to say: a decoder is asked, which is
the host's, and may take its time. So an operator is tested in whatever monad the decoder
answers in (`Operator.test`); with a decoder that is a mere function it holds or does not
(`Operator.holds`).
-/

namespace FormChain

namespace Operator

/-- Both values as one kind of thing, in a relation. -/
def related {α : Type} (view : Value → Option α) (rel : α → α → Bool) (field expected : Value) :
    Bool :=
  match view field, view expected with
  | some a, some b => rel a b
  | _, _ => false

/-- Loose equality, where a list with several answers equals each of its items. -/
def equal (field expected : Value) : Bool :=
  match field with
  | .list items =>
    if expected.isList then field.looselyEqual expected
    else items.any (·.looselyEqual expected)
  | _ => field.looselyEqual expected

/-- Whether a value is loosely equal to an item of the field. -/
def isAmong (field needle : Value) : Bool :=
  field.toList.any (·.looselyEqual needle)

/-- A relation of texts, which never holds of a missing field. -/
def relatedTexts (rel : List Char → List Char → Bool) (field expected : Value) : Bool :=
  !field.isNull && rel field.toText.toList expected.toText.toList

/-! ### Patterns -/

/-- The settings that flags stand for; flags without a meaning for a single search are
passed over. -/
def settingsOf (flags : List Char) : Pattern.Settings :=
  { ignoreCase := flags.contains 'i'
    multiLine := flags.contains 'm'
    dotAll := flags.contains 's' }

/-- The pattern that a value asks for: a text, or an object with a `pattern` and perhaps
`flags`. -/
def patternOf? (expected : Value) : Option Pattern :=
  match expected with
  | .text p => Pattern.parse? {} p
  | .object _ =>
    match (expected.field? "pattern").bind Value.text? with
    | some p =>
      let flags := ((expected.field? "flags").bind Value.text?).getD ""
      Pattern.parse? (settingsOf flags.toList) p
    | none => none
  | _ => none

/-- Whether a pattern is found in the field, or in an item of it. -/
def matched (field expected : Value) : Bool :=
  match patternOf? expected with
  | some p => field.toList.any fun item => p.isFoundIn item.toText
  | none => false

/-! ### Files and lists -/

/-- Whether one of some files contains a text. They are decoded one after another, up to
the first one that does. -/
def inFile {m : Type → Type} [Monad m] (decode : Value → m (Option String)) (needle : List Char) :
    (files : List Value) → m Bool
  | [] => return false
  | file :: rest => do
    let content ← decode file
    if content.any (Text.occursIn needle ·.toList) then return true
    else inFile decode needle rest

/-- The length of a list, in a relation to an integer. -/
def lengthRelated (rel : Int → Int → Bool) (field expected : Value) : Bool :=
  match field, expected.toInteger? with
  | .list items, some n => rel (Int.ofNat items.length) n
  | _, _ => false

/-! ### All operators -/

/-- Two moments in a relation, each read by the same clock. -/
def momentsRelated (now : Moment) (rel : Int → Int → Bool) : Value → Value → Bool :=
  related (Value.toMoment? now) fun a b => rel a.millis b.millis

/-- **Test an operator** on a field's value and the value it is compared with, at a
moment. -/
def test {m : Type → Type} [Monad m] (decode : Value → m (Option String)) (now : Moment)
    (field expected : Value) : Operator → m Bool
  | equals => return equal field expected
  | notEquals => return !equal field expected
  | greaterThan => return related Value.toReal? (fun a b => a > b) field expected
  | greaterThanOrEqual => return related Value.toReal? (fun a b => a ≥ b) field expected
  | lessThan => return related Value.toReal? (fun a b => a < b) field expected
  | lessThanOrEqual => return related Value.toReal? (fun a b => a ≤ b) field expected
  | contains => return expected.toList.all (isAmong field)
  | notContains => return !expected.toList.any (isAmong field)
  | containsAny => return expected.toList.any (isAmong field)
  | startsWith => return relatedTexts (fun s t => t.isPrefixOf s) field expected
  | endsWith => return relatedTexts Text.endsWith field expected
  | regexMatch => return matched field expected
  | hasValue => return field.isPresent
  | noValue => return !field.isPresent
  | fileContains => inFile decode expected.toText.toList field.toList
  | arrayLengthEquals => return lengthRelated (fun m n => m = n) field expected
  | arrayLengthGreater => return lengthRelated (fun m n => m > n) field expected
  | arrayLengthLess => return lengthRelated (fun m n => m < n) field expected
  | timeBefore => return momentsRelated now (fun a b => a < b) field expected
  | timeAfter => return momentsRelated now (fun a b => a > b) field expected
  | timeBeforeOrEqual => return momentsRelated now (fun a b => a ≤ b) field expected
  | timeAfterOrEqual => return momentsRelated now (fun a b => a ≥ b) field expected
  | checked => return field.isChecked
  | unchecked => return !field.isChecked
  | unknown => return false

/-- **Whether an operator holds**, where files are decoded by a function. -/
def holds (now : Moment) (field expected : Value) (op : Operator)
    (decode : Value → Option String := Value.fileText?) : Bool :=
  Id.run (op.test (fun file => pure (decode file)) now field expected)

/-! The operators on lengths and times have nothing decoded. -/

section Equations

variable (now : Moment) (field expected : Value) (decode : Value → Option String)

theorem holds_arrayLengthEquals : holds now field expected .arrayLengthEquals decode =
    lengthRelated (fun m n => m = n) field expected := rfl

theorem holds_arrayLengthGreater : holds now field expected .arrayLengthGreater decode =
    lengthRelated (fun m n => m > n) field expected := rfl

theorem holds_arrayLengthLess : holds now field expected .arrayLengthLess decode =
    lengthRelated (fun m n => m < n) field expected := rfl

theorem holds_timeBefore : holds now field expected .timeBefore decode =
    momentsRelated now (fun a b => a < b) field expected := rfl

theorem holds_timeAfter : holds now field expected .timeAfter decode =
    momentsRelated now (fun a b => a > b) field expected := rfl

end Equations

/-- With a function, it makes no difference in which order files are decoded. -/
theorem inFile_pure (decode : Value → Option String) (needle : List Char) (files : List Value) :
    Id.run (inFile (fun file => pure (decode file)) needle files) =
      files.any fun file => (decode file).any (Text.occursIn needle ·.toList) := by
  induction files with
  | nil => rfl
  | cons file rest ih =>
    rw [List.any_cons, ← ih]
    change (if (decode file).any _ = true then true else Id.run _) = _
    split <;> simp [*]

/-- A field contains a text in a file if one of its files does. -/
theorem holds_fileContains (now : Moment) (field expected : Value)
    (decode : Value → Option String) :
    holds now field expected .fileContains decode =
      field.toList.any fun file =>
        (decode file).any (Text.occursIn expected.toText.toList ·.toList) :=
  inFile_pure ..

end Operator

end FormChain
