import FormChain.Proofs.Condition.Testing
import FormChain.Proofs.Form.Fields
import FormChain.Proofs.Template.Plain
import FormChain.Submission.Basic
import Mathlib.Tactic.ByContra

/-!
# One name, two lookups

What a name stands for is asked twice in a submission. Before the chain, the conditions of
fields ask for *the answer of the field of that name*, be it an id or a label
(`FormChain.Form.answer?`). In the chain, the conditions of actions ask for *the answer under
that name*, else for that of the field of that label (`FormChain.Environment.formValue?`). Of
several fields with one label the first counts here and the last there, and a label can be the
id of another field.

So whether both find the same depends on the form, and on what the answers are kept under.

* Under any names whatever: they do just if no field has the name as its label, or the last one
  that does has it as its id, too (`FormChain.Form.lookups_agree_iff`).
* Under ids, and names that no field has: they do just if the name is unambiguous
  (`FormChain.Form.Unambiguous`, `FormChain.Form.lookups_agree_iff_unambiguous`).

A filter looks up the names in its comparisons and nothing else, and plain values that it
compares with stay what they are in a chain. So where its names are unambiguous it means the
same for fields and for actions.

Main statement: `FormChain.Submission.lookups_agree_on_unambiguous`. Where a name is not
unambiguous, a required field may be taken for hidden though the chain takes it for shown
(`FormChain.Submission.crossed_lookups_differ`).
-/

namespace FormChain

namespace Form

variable {f : Form} {values : Bag} {key : String} {field : Field}

/-! ### Fields of a name -/

/-- The last field of a label. -/
def lastLabelled? (f : Form) (label : String) : Option Field :=
  f.fields.reverse.find? (·.label == label)

/-- The label counts for the last field that has it. -/
theorem get?_idsByLabel : f.idsByLabel.get? key = (f.lastLabelled? key).map (·.id) := by
  unfold idsByLabel lastLabelled?
  induction f.fields with
  | nil => rfl
  | cons field rest ih =>
    rw [List.map_cons, Keyed.get?_ofList_cons, ih, List.reverse_cons, List.find?_append,
      Option.map_or]
    congr 1
    by_cases hlabel : key = field.label
    · rw [if_pos hlabel, List.find?_cons_of_pos (by simp [hlabel])]
      rfl
    · rw [if_neg hlabel, List.find?_cons_of_neg (by simpa using Ne.symm hlabel)]
      rfl

theorem lastLabelled?_eq_none_iff :
    f.lastLabelled? key = none ↔ ∀ field ∈ f.fields, field.label ≠ key := by
  simp [lastLabelled?]

theorem mem_of_lastLabelled? (h : f.lastLabelled? key = some field) :
    field ∈ f.fields ∧ field.label = key := by
  refine ⟨List.mem_reverse.mp (List.mem_of_find?_eq_some h), ?_⟩
  simpa using List.find?_some h

/-- Where there is a field of an id, it is what the id names. -/
theorem exists_field?_of_id (h : ∃ g ∈ f.fields, g.id = key) :
    ∃ field, f.field? key = some field ∧ field.id = key := by
  obtain ⟨g, hg, hid⟩ := h
  obtain ⟨field, hfield⟩ : ∃ field, f.fields.find? (·.id == key) = some field :=
    Option.isSome_iff_exists.mp (List.find?_isSome.mpr ⟨g, hg, by simpa using hid⟩)
  refine ⟨field, ?_, by simpa using List.find?_some hfield⟩
  rw [field?, hfield]
  rfl

/-- Where there is a field of a label, the label names some field. -/
theorem exists_field?_of_label (h : ∃ g ∈ f.fields, g.label = key) :
    ∃ field, f.field? key = some field := by
  obtain ⟨g, hg, hlabel⟩ := h
  have hsome : (f.fields.find? (·.label == key)).isSome = true :=
    List.find?_isSome.mpr ⟨g, hg, by simpa using hlabel⟩
  rw [← Option.isSome_iff_exists, field?, Option.isSome_or, hsome, Bool.or_true]

/-- If a field has a name as its id, then so has the field that the name stands for. -/
theorem id_eq_of_exists_id (hid : ∃ g ∈ f.fields, g.id = key)
    (hfield : f.field? key = some field) : field.id = key := by
  obtain ⟨g, hg, hgid⟩ := exists_field?_of_id hid
  rwa [Option.some.inj (hfield.symm.trans hg)]

/-- If no field has a name as its label, then the field that it stands for has it as its id. -/
theorem id_eq_of_no_label (hlabel : ∀ g ∈ f.fields, g.label ≠ key)
    (hfield : f.field? key = some field) : field.id = key := by
  rcases Option.or_eq_some_iff.mp hfield with hid | ⟨-, hlabelled⟩
  · simpa using List.find?_some hid
  · have hname : field.label = key := by simpa using List.find?_some hlabelled
    exact absurd hname (hlabel field (List.mem_of_find?_eq_some hlabelled))

/-! ### Names that mean one thing -/

/-- **An unambiguous name**: the last field that has it as its label, if there is one, has the
same id as the field that the name stands for first, by its id or else by its label. -/
def Unambiguous (f : Form) (key : String) : Prop :=
  ∀ last, f.lastLabelled? key = some last → ∃ field, f.field? key = some field ∧ field.id = last.id

/-- **Answers kept under ids**: no answer is kept under a label, unless that is the id of a field
as well. Under other names there may be any. -/
def KeptUnderIds (f : Form) (values : Bag) : Prop :=
  ∀ name, values.has name = true →
    (∃ field ∈ f.fields, field.id = name) ∨ ∀ field ∈ f.fields, field.label ≠ name

/-- What the label map and the bag make of a name: the answer under it, else that of the last
field of that label. -/
def labelled? (f : Form) (values : Bag) (key : String) : Option Value :=
  (values.get? key).or ((f.lastLabelled? key).bind fun last => values.get? last.id)

/-- The field of a name under which an answer is kept has it as its id. -/
theorem id_eq_of_keptUnderIds {v : Value} (hkept : f.KeptUnderIds values)
    (hget : values.get? key = some v) (hfield : f.field? key = some field) : field.id = key := by
  have hhas : values.has key = true := by
    rw [Keyed.has, hget]
    rfl
  rcases hkept key hhas with hid | hlabel
  · exact id_eq_of_exists_id hid hfield
  · exact id_eq_of_no_label hlabel hfield

/-- **For an unambiguous name both lookups find the same**, if the answers are kept under ids. -/
theorem answer?_eq_labelled? (hone : f.Unambiguous key) (hkept : f.KeptUnderIds values) :
    f.answer? values key = f.labelled? values key := by
  unfold answer? labelled?
  cases hget : values.get? key with
  | some v =>
    -- here the name is an id, or there is no field of that name
    cases hfield : f.field? key with
    | none => rfl
    | some field =>
      rw [Option.bind_some, id_eq_of_keptUnderIds hkept hget hfield, hget]
      rfl
  | none =>
    rw [Option.or_none, Option.none_or]
    cases hlast : f.lastLabelled? key with
    | some last =>
      obtain ⟨field, hfield, hid⟩ := hone last hlast
      rw [hfield, Option.bind_some, Option.bind_some, hid]
    | none =>
      -- the name can only be an id, and under that there is no answer
      cases hfield : f.field? key with
      | none => rfl
      | some field =>
        have hid := id_eq_of_no_label (lastLabelled?_eq_none_iff.mp hlast) hfield
        rw [Option.bind_some, hid, hget]
        rfl

/-- One answer that is kept under the id of a field is kept under ids. -/
theorem keptUnderIds_singleton {v : Value} (hmem : field ∈ f.fields) :
    f.KeptUnderIds [(field.id, v)] := by
  intro name hname
  rw [← Keyed.mem_names_iff] at hname
  exact Or.inl ⟨field, hmem, (List.mem_singleton.mp hname).symm⟩

/-- **Only for unambiguous names** do both lookups always find the same: the answer of the last
field of a label tells. -/
theorem unambiguous_of_lookups_agree
    (h : ∀ values, f.KeptUnderIds values → f.answer? values key = f.labelled? values key) :
    f.Unambiguous key := by
  intro last hlast
  have hmem := (mem_of_lastLabelled? hlast).1
  obtain ⟨field, hfield⟩ := exists_field?_of_label ⟨last, mem_of_lastLabelled? hlast⟩
  refine ⟨field, hfield, ?_⟩
  by_contra hne
  have hagree := h [(last.id, .bool true)] (keptUnderIds_singleton hmem)
  have hfar : Keyed.get? [(last.id, Value.bool true)] field.id = none := by
    rw [Keyed.get?_cons, if_neg hne]
    rfl
  have hnear : Keyed.get? [(last.id, Value.bool true)] last.id = some (.bool true) := by
    rw [Keyed.get?_cons, if_pos rfl]
  rw [answer?, labelled?, hfield, hlast, Option.bind_some, hfar, Option.none_or,
    Option.bind_some, hnear] at hagree
  cases hget : Keyed.get? [(last.id, Value.bool true)] key with
  | none =>
    rw [hget] at hagree
    cases hagree
  | some v =>
    -- the name is the id of the last field, so the first field of the name has that id too
    rw [Keyed.get?_cons] at hget
    split at hget
    case isTrue hkey =>
      exact hne ((id_eq_of_exists_id ⟨last, hmem, hkey.symm⟩ hfield).trans hkey)
    case isFalse => cases hget

/-- **Where answers may be kept under ids**, both lookups find the same for a name just if it is
unambiguous. -/
theorem lookups_agree_iff_unambiguous :
    (∀ values, f.KeptUnderIds values → f.answer? values key = f.labelled? values key) ↔
      f.Unambiguous key :=
  ⟨unambiguous_of_lookups_agree, fun hone _ hkept => answer?_eq_labelled? hone hkept⟩

/-- **Where answers may be kept under any names**, both lookups find the same for a name just if
the last field of that label, should there be one, has it as its id. -/
theorem lookups_agree_iff :
    (∀ values, f.answer? values key = f.labelled? values key) ↔
      ∀ last, f.lastLabelled? key = some last → last.id = key := by
  constructor
  · intro h last hlast
    have hone : f.Unambiguous key := unambiguous_of_lookups_agree fun values _ => h values
    obtain ⟨field, hfield, hid⟩ := hone last hlast
    rw [← hid]
    by_contra hne
    -- an answer under the label itself comes second before the chain, and first in it
    have hagree := h (Keyed.insert [(field.id, .bool true)] key (.bool false))
    have hown : Keyed.get? (Keyed.insert [(field.id, Value.bool true)] key (.bool false)) field.id =
        some (.bool true) := by
      rw [Keyed.get?_insert_of_ne _ _ hne, Keyed.get?_cons, if_pos rfl]
    rw [answer?, labelled?, hfield, Option.bind_some, hown, Keyed.get?_insert_self] at hagree
    cases hagree
  · intro h values
    unfold answer? labelled?
    cases hlast : f.lastLabelled? key with
    | some last =>
      obtain ⟨hmem, -⟩ := mem_of_lastLabelled? hlast
      obtain ⟨field, hfield, hid⟩ := exists_field?_of_id ⟨last, hmem, h last hlast⟩
      rw [hfield, Option.bind_some, Option.bind_some, hid, h last hlast, Option.or_self]
    | none =>
      cases hfield : f.field? key with
      | none => simp
      | some field =>
        have hid := id_eq_of_no_label (lastLabelled?_eq_none_iff.mp hlast) hfield
        rw [Option.bind_some, hid, Option.or_self, Option.bind_none, Option.or_none]

end Form

/-- **A plain filter** compares with plain values only. -/
def Filter.Plain (c : Filter) : Prop := ∀ l ∈ c.comparisons, ∀ v, l.value = some v → v.Plain

namespace Submission

/-! ### Before the chain and in it -/

variable {f : Form} {values : Bag} {key : String} {now : LocalMoment} {seed : Nat}

theorem resolvePath?_of_forall_none {root : String → Option Value}
    (h : ∀ name, root name = none) : resolvePath? root key = none := by
  unfold resolvePath?
  split
  case h_1 => rfl
  case h_2 => rw [h, Option.bind_none]

/-- **In the state that a chain starts in**, a name stands for the answer under it, else for that
of the last field of that label. -/
theorem lookup?_startState :
    (startState f values now seed).lookup? key = f.labelled? values key := by
  have hscope : (startState f values now seed).scope.resolve? key = none :=
    resolvePath?_of_forall_none fun _ => rfl
  have houtputs : resolvePath? (startState f values now seed).outputs.get? key = none :=
    resolvePath?_of_forall_none fun _ => rfl
  have hlabel : (f.idsByLabel.get? key).bind values.get? =
      (f.lastLabelled? key).bind fun last => values.get? last.id := by
    rw [Form.get?_idsByLabel, Option.bind_map]
    rfl
  rw [ChainState.lookup?, Environment.lookup?, Environment.chainValue?, Environment.output?]
  simp only [ChainState.environment, hscope, houtputs, Option.none_or, Environment.formValue?]
  exact congrArg ((values.get? key).or ·) hlabel

/-- **A filter of unambiguous names means the same** before the chain and at its start, whoever
decodes files. -/
theorem test_eq_satisfies {m : Type → Type} [Monad m] {decode : Value → m (Option String)}
    {c : Filter} (hplain : c.Plain)
    (hone : ∀ l ∈ c.comparisons, ∀ key, l.property = some key → f.Unambiguous key)
    (hkept : f.KeptUnderIds values) :
    c.test decode { lookup := f.answer? values, now } =
      (startState f values now seed).satisfies decode c := by
  have halike : ∀ l ∈ c.comparisons, Filter.AnsweredAlike { lookup := f.answer? values, now }
      (startState f values now seed).inquiry l := by
    intro l hl
    refine ⟨fun key hkey => ?_, fun v hv => ?_⟩
    · exact (Form.answer?_eq_labelled? (hone l hl key hkey) hkept).trans lookup?_startState.symm
    · change v = ((Template.expandAll _ v).run _).1
      rw [Template.expandAll_of_plain v (hplain l hl v hv)]
      rfl
  refine Filter.test_congr ?_ c halike
  rfl

/-- **Where the two lookups agree.** Before the chain, a name is looked up for the conditions of
fields, and at its start for those of actions. Whatever the answers are kept under, both find the
same just if the last field that has the name as its label, should there be one, has it as its id;
and where they are kept under ids, just if the name is unambiguous. So under a plain filter of
unambiguous names a field is tested just as an action under that filter is at the start of the
chain, whoever decodes files; and the one is shown if and only if the other is carried out. -/
theorem lookups_agree_on_unambiguous (f : Form) (now : LocalMoment) (seed : Nat) :
    (∀ key, (∀ values, f.answer? values key = (startState f values now seed).lookup? key) ↔
      ∀ last, f.lastLabelled? key = some last → last.id = key) ∧
    (∀ key, (∀ values, f.KeptUnderIds values →
        f.answer? values key = (startState f values now seed).lookup? key) ↔
      f.Unambiguous key) ∧
    ∀ (field : Field) (a : Action) (c : Filter), field.condition = some c →
      a.head.condition = some c → c.Plain →
      (∀ l ∈ c.comparisons, ∀ key, l.property = some key → f.Unambiguous key) →
      ∀ values, f.KeptUnderIds values →
        ∀ (m : Type → Type) [Monad m] (decode : Value → m (Option String)),
          f.shows decode values now field =
            Chain.isWanted decode (startState f values now seed) a := by
  refine ⟨fun key => ?_, fun key => ?_, ?_⟩
  · simp only [lookup?_startState]
    exact Form.lookups_agree_iff
  · simp only [lookup?_startState]
    exact Form.lookups_agree_iff_unambiguous
  · intro field a c hfield ha hplain hone values hkept m _ decode
    rw [Form.shows, Chain.isWanted, hfield, ha]
    exact test_eq_satisfies hplain hone hkept

/-- A filter that asks for an answer under a name. -/
def given (name : String) : Filter :=
  { property := some name, operator := some .hasValue }

/-- A field that asks why as soon as something is given under a name. -/
def why (name : String) : Field :=
  { id := "why", label := "Why", required := true, condition := some (given name) }

/-- An action that writes a note if something is given under a name. -/
def note (name : String) : Action :=
  .createFile { id := "note", condition := some (given name) } { fileName := "note.md" }

/-- A form with both. The id of its first field is the label of its second one. -/
def crossed (name : String) : Form where
  fields := [{ id := "mode", label := "Kind" }, { id := "b", label := "mode" }, why name]
  actions := [note name]

/-- In this form, `Kind` is a label and nothing else: why is asked just if the note is written. -/
theorem crossed_kind_agrees :
    let decode (file : Value) : Id (Option String) := pure file.fileText?
    (crossed "Kind").KeptUnderIds [("mode", .text "x")] ∧ (given "Kind").Plain ∧
      (crossed "Kind").Unambiguous "Kind" ∧
      (crossed "Kind").shows decode [("mode", .text "x")] default (why "Kind") =
        Chain.isWanted decode (startState (crossed "Kind") [("mode", .text "x")] default 0)
          (note "Kind") := by
  intro decode
  have hkept : (crossed "Kind").KeptUnderIds [("mode", .text "x")] :=
    @Form.keptUnderIds_singleton _ { id := "mode", label := "Kind" } _ (.head _)
  have hone : (crossed "Kind").Unambiguous "Kind" := by
    intro last hlast
    obtain rfl := Option.some.inj hlast
    exact ⟨_, rfl, rfl⟩
  have hplain : (given "Kind").Plain := by
    intro l hl v hv
    obtain rfl := List.mem_singleton.mp hl
    cases hv
  refine ⟨hkept, hplain, hone, ?_⟩
  refine (lookups_agree_on_unambiguous (crossed "Kind") default 0).2.2 _ _ _ rfl rfl hplain ?_ _
    hkept Id decode
  intro l hl key hkey
  obtain rfl := List.mem_singleton.mp hl
  obtain rfl := Option.some.inj hkey
  exact hone

/-- **The label of one field that is the id of another** stands for nothing before the chain if
only the field of that label has an answer, and for that answer in the chain: nobody is asked why,
and the note is written all the same. -/
theorem crossed_lookups_differ :
    let decode (file : Value) : Id (Option String) := pure file.fileText?
    (crossed "mode").answer? [("b", .text "x")] "mode" = none ∧
      (startState (crossed "mode") [("b", .text "x")] default 0).lookup? "mode" =
        some (.text "x") ∧
      (crossed "mode").missing? decode [("b", .text "x")] default = pure none ∧
      Chain.isWanted decode (startState (crossed "mode") [("b", .text "x")] default 0)
        (note "mode") = pure true := by
  refine ⟨rfl, ?_, rfl, rfl⟩
  rw [lookup?_startState]
  rfl

end Submission

end FormChain
