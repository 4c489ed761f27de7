import FormChain.Condition.Filter

/-!
# Answers and the fields they belong to

Before a chain starts, fields without an answer get their default ones, and every
required field that is shown must have an answer. A field is shown under the answers
given, where a name means the field of that id, else the field of that label. The
conditions of fields are tested one after another, up to the first field that lacks its
answer, and those of fields that are not required are not tested at all.
-/

namespace FormChain

namespace Form

/-- One default answer, where there is none yet. -/
def withDefault (values : Bag) (d : String × Value) : Bag :=
  match values.get? d.1 with
  | none | some .null => values.insert d.1 d.2
  | some _ => values

/-- **Answers with default ones** for the fields that have none. -/
def withDefaults (f : Form) (values : Bag) : Bag :=
  f.defaults.foldl withDefault values

/-- The answer of the field of an id or a label, else the answer under that name. -/
def answer? (f : Form) (values : Bag) (key : String) : Option Value :=
  ((f.field? key).bind fun field => values.get? field.id).or (values.get? key)

/-- Whether a field has an answer. -/
def isAnswered (values : Bag) (field : Field) : Bool :=
  match values.get? field.id with
  | some v => v.isPresent
  | none => false

section Testing

variable {m : Type → Type} [Monad m] (decode : Value → m (Option String))

/-- **Test whether a field is shown** under some answers. -/
def shows (f : Form) (values : Bag) (now : LocalMoment) (field : Field) : m Bool :=
  match field.condition with
  | none => return true
  | some c => c.test decode { lookup := f.answer? values, now }

/-- Test whether a field lacks its answer: it is required and shown, and it has none. -/
def lacks (f : Form) (values : Bag) (now : LocalMoment) (field : Field) : m Bool := do
  if field.required then
    if ← f.shows decode values now field then return !isAnswered values field else return false
  else return false

/-- **The first field that lacks an answer.** -/
def missing? (f : Form) (values : Bag) (now : LocalMoment) : m (Option Field) :=
  f.fields.findM? (f.lacks decode values now)

end Testing

end Form

end FormChain
