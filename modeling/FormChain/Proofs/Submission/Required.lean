import FormChain.Proofs.Chain.Failure
import FormChain.Proofs.Form.Fields
import FormChain.Proofs.Submission.Notices

/-!
# Required answers

A submission starts with two things that need no session: default answers are filled in
(`FormChain.Form.get?_withDefaults`), and then a field is looked for that lacks its answer. So
default answers count as answers, and they may show other fields. The clock is read once, for
conditions that compare times; and where a condition asks for the text of a file, the file is
decoded. Fields are looked at in their order up to the first one that lacks its answer
(`FormChain.Form.FirstLacking`), and the conditions of the others are not tested.

If there is such a field, then the submission fails with the label of the first one. All that has
happened by then is that the clock was read, files were decoded for conditions and the user was
told: no session was asked for, and no action was reached
(`FormChain.Submission.lacking_answer_stops`). Otherwise it may fail in other ways, but not in this
one: a form that is launched from its chain and lacks an answer makes an action fail.

Where files are decoded by a function, it does not matter what happens on the way, and a field lacks
its answer or does not (`FormChain.Form.Lacks`). That a group without conditions holds, whether all
of them are asked for or any, is part of what a condition means.
-/

namespace FormChain

/-- **Files are decoded by a function.** -/
def Behaviour.DecodesBy (b : Behaviour) (decode : Value → Option String) : Prop :=
  ∀ before token file, (b before token (.decode file)).answer = decode file

/-- What does not count as an answer. -/
theorem Value.isPresent_eq_false_iff {v : Value} :
    v.isPresent = false ↔ v = .null ∨ v = .text "" ∨ v = .list [] := by
  cases v <;> simp [Value.isPresent]

namespace Form

/-! ### Default answers -/

/-- The default answer under an id: that of the last field of this id that has one. -/
def default? (f : Form) (id : String) : Option Value :=
  f.fields.reverse.findSome? fun field => if id = field.id then field.default else none

/-- **What becomes of an answer**, given or not, where there is a default one or not: `null` gives
way to a default answer, and any other answer stays. -/
def filledAnswer (given default : Option Value) : Option Value :=
  match given with
  | none | some .null => default.or given
  | some v => some v

section Defaults

variable {f : Form} {values : Bag} {name : String} {v : Value}

theorem sorted_defaults (f : Form) : f.defaults.Sorted :=
  Keyed.sorted_ofList _

theorem get?_defaults : f.defaults.get? name = f.default? name := by
  unfold defaults default?
  induction f.fields with
  | nil => rfl
  | cons field rest ih =>
    rw [List.reverse_cons, List.findSome?_append, ← ih, List.findSome?_singleton]
    cases hdefault : field.default with
    | none => simp [hdefault]
    | some v => simp only [List.filterMap_cons, hdefault, Option.map_some, Keyed.get?_ofList_cons]

/-- Another default answer fills in nothing more. -/
theorem filledAnswer_none (given : Option Value) : filledAnswer given none = given := by
  rcases given with _ | _ | _ <;> rfl

/-- One default answer is filled in under its own id. -/
theorem get?_withDefault_self :
    (withDefault values (name, v)).get? name = filledAnswer (values.get? name) (some v) := by
  unfold withDefault filledAnswer
  split <;> simp_all

/-- One default answer is filled in under no other id. -/
theorem get?_withDefault_of_ne {id : String} (h : name ≠ id) :
    (withDefault values (id, v)).get? name = values.get? name := by
  unfold withDefault
  split
  · exact Keyed.get?_insert_of_ne _ _ h
  · exact Keyed.get?_insert_of_ne _ _ h
  · rfl

/-- Default answers under different ids are filled in independently. -/
theorem get?_foldl_withDefault {ds : Bag} (hsorted : ds.Sorted) :
    (ds.foldl withDefault values).get? name =
      filledAnswer (values.get? name) (ds.get? name) := by
  induction ds generalizing values with
  | nil => exact (filledAnswer_none _).symm
  | cons d rest ih =>
    obtain ⟨id, v⟩ := d
    obtain ⟨hfirst, hrest⟩ := List.pairwise_cons.mp hsorted
    rw [List.foldl_cons, ih hrest, Keyed.get?_cons]
    split
    case isTrue heq =>
      obtain rfl : name = id := heq
      have hnone : Keyed.get? rest name = none := by
        cases hget : Keyed.get? rest name with
        | none => rfl
        | some w =>
          have hmem := List.mem_map_of_mem (f := Prod.fst) (Keyed.mem_of_get?_eq_some hget)
          exact absurd (hfirst name hmem) (String.lt_irrefl name)
      rw [hnone, filledAnswer_none, get?_withDefault_self]
    case isFalse hne => rw [get?_withDefault_of_ne hne]

/-- **What filling in default answers comes to**, under every name. -/
theorem get?_withDefaults :
    (f.withDefaults values).get? name = filledAnswer (values.get? name) (f.default? name) := by
  rw [withDefaults, get?_foldl_withDefault f.sorted_defaults, get?_defaults]

end Defaults

/-! ### Fields that lack their answers -/

/-- **A field lacks its answer** at some time, where files are decoded by a function: it is
required, it has no condition that does not hold, and there is nothing under its id, or nothing to
speak of. -/
structure Lacks (f : Form) (decode : Value → Option String) (values : Bag) (now : LocalMoment)
    (field : Field) : Prop where
  /-- It is required. -/
  required : field.required = true
  /-- It is shown. -/
  shown : ∀ c, field.condition = some c →
    c.holds { lookup := f.answer? values, now } decode = true
  /-- It has no answer. -/
  unanswered : ∀ v, values.get? field.id = some v → v = .null ∨ v = .text "" ∨ v = .list []

/-- **Whether a field is shown is tested**, by what happens: a field without a condition is, and any
other one if its condition holds, for which files may be decoded. -/
def TestsShown (token : Token) (f : Form) (values : Bag) (now : LocalMoment) (field : Field)
    (es : List Event) (shown : Bool) : Prop :=
  match field.condition with
  | none => es = [] ∧ shown = true
  | some c => (c.test (Submission.decode token) { lookup := f.answer? values, now } :
      Script Bool).Run es shown

/-- **Whether a field lacks its answer is tested**, by what happens. -/
inductive TestsLack (token : Token) (f : Form) (values : Bag) (now : LocalMoment) (field : Field) :
    List Event → Bool → Prop where
  /-- It is not required. -/
  | optional : field.required = false → TestsLack token f values now field [] false
  /-- It is not shown. -/
  | hidden {es : List Event} :
    field.required = true → TestsShown token f values now field es false →
    TestsLack token f values now field es false
  /-- It has an answer. -/
  | answered {es : List Event} {v : Value} :
    field.required = true → TestsShown token f values now field es true →
    values.get? field.id = some v → ¬(v = .null ∨ v = .text "" ∨ v = .list []) →
    TestsLack token f values now field es false
  /-- It is required and shown, and has no answer. -/
  | lacking {es : List Event} :
    field.required = true → TestsShown token f values now field es true →
    (∀ v, values.get? field.id = some v → v = .null ∨ v = .text "" ∨ v = .list []) →
    TestsLack token f values now field es true

/-- **The first of some fields that lacks its answer**, by what happens in the tests. -/
inductive FirstLacking (token : Token) (f : Form) (values : Bag) (now : LocalMoment) :
    List Field → List Event → Field → Prop where
  /-- It is the first one. -/
  | here {field : Field} {rest : List Field} {es : List Event} :
    TestsLack token f values now field es true →
    FirstLacking token f values now (field :: rest) es field
  /-- The first one does not lack its answer. -/
  | later {field found : Field} {rest : List Field} {es es' : List Event} :
    TestsLack token f values now field es false →
    FirstLacking token f values now rest es' found →
    FirstLacking token f values now (field :: rest) (es ++ es') found

theorem isAnswered_eq_false_iff {values : Bag} {field : Field} :
    isAnswered values field = false ↔
      ∀ v, values.get? field.id = some v → v = .null ∨ v = .text "" ∨ v = .list [] := by
  unfold isAnswered
  cases values.get? field.id with
  | none => simp
  | some v => simp [Value.isPresent_eq_false_iff]

/-! #### Tests in a run -/

section Runs

open Script

variable {token : Token} {f : Form} {values : Bag} {now : LocalMoment} {field : Field}
  {es : List Event}

theorem run_shows {shown : Bool} :
    (f.shows (Submission.decode token) values now field : Script Bool).Run es shown ↔
      TestsShown token f values now field es shown := by
  unfold shows TestsShown
  cases field.condition with
  | none => exact run_done
  | some c => exact Iff.rfl

/-- A field that is required and has an answer, or not, lacks it accordingly where it is shown. -/
theorem testsLack_of_shown (hrequired : field.required = true)
    (h : TestsShown token f values now field es true) :
    TestsLack token f values now field es !isAnswered values field := by
  cases hanswered : isAnswered values field with
  | false => exact .lacking hrequired h (isAnswered_eq_false_iff.mp hanswered)
  | true =>
    have hnot : ¬∀ v, values.get? field.id = some v → v = .null ∨ v = .text "" ∨ v = .list [] :=
      fun hnone => absurd (hanswered.symm.trans (isAnswered_eq_false_iff.mpr hnone)) nofun
    simp only [Classical.not_forall] at hnot
    obtain ⟨v, hv, hpresent⟩ := hnot
    exact .answered hrequired h hv hpresent

/-- **The test of a field is a run of its script.** -/
theorem run_lacks {lacking : Bool} :
    (f.lacks (Submission.decode token) values now field : Script Bool).Run es lacking ↔
      TestsLack token f values now field es lacking := by
  unfold lacks
  constructor
  · intro h
    split at h
    case isTrue hrequired =>
      obtain ⟨es₁, shown, es₂, rfl, hshown, hend⟩ := Script.run_bind.mp h
      have hshown := run_shows.mp hshown
      cases shown with
      | true =>
        obtain ⟨rfl, rfl⟩ := run_done.mp hend
        rw [List.append_nil]
        exact testsLack_of_shown hrequired hshown
      | false =>
        obtain ⟨rfl, rfl⟩ := run_done.mp hend
        rw [List.append_nil]
        exact .hidden hrequired hshown
    case isFalse hoptional =>
      obtain ⟨rfl, rfl⟩ := run_done.mp h
      exact .optional (Bool.eq_false_iff.mpr hoptional)
  · intro h
    cases h with
    | optional hoptional =>
      rw [if_neg (Bool.eq_false_iff.mp hoptional)]
      exact .done _
    | hidden hrequired hshown =>
      rw [if_pos hrequired]
      exact Script.run_bind.mpr ⟨es, false, [], by simp, run_shows.mpr hshown, .done _⟩
    | answered hrequired hshown hv hpresent =>
      rw [if_pos hrequired]
      refine Script.run_bind.mpr ⟨es, true, [], by simp, run_shows.mpr hshown, ?_⟩
      refine run_done.mpr ⟨rfl, ?_⟩
      have hanswered : isAnswered values field ≠ false := fun hnone =>
        hpresent (isAnswered_eq_false_iff.mp hnone _ hv)
      rw [eq_true_of_ne_false hanswered]
      rfl
    | lacking hrequired hshown hnone =>
      rw [if_pos hrequired]
      refine Script.run_bind.mpr ⟨es, true, [], by simp, run_shows.mpr hshown, ?_⟩
      exact run_done.mpr ⟨rfl, by rw [isAnswered_eq_false_iff.mpr hnone]; rfl⟩

/-- **What is found to be lacking** is the first field that lacks its answer. -/
theorem run_missing?_some {fields : List Field} :
    (fields.findM? (f.lacks (Submission.decode token) values now) : Script (Option Field)).Run es
      (some field) ↔ FirstLacking token f values now fields es field := by
  induction fields generalizing es with
  | nil => exact ⟨fun h => (nomatch (run_done.mp h).2), fun h => (nomatch h)⟩
  | cons g rest ih =>
    constructor
    · intro h
      obtain ⟨es₁, lacking, es₂, rfl, hg, hrest⟩ := Script.run_bind.mp h
      cases lacking with
      | true =>
        obtain ⟨rfl, hfield⟩ := run_done.mp hrest
        obtain rfl := Option.some.inj hfield
        rw [List.append_nil]
        exact .here (run_lacks.mp hg)
      | false => exact .later (run_lacks.mp hg) (ih.mp hrest)
    · intro h
      cases h with
      | here hg => exact Script.run_bind.mpr ⟨es, true, [], by simp, run_lacks.mpr hg, .done _⟩
      | later hg hrest =>
        exact Script.run_bind.mpr ⟨_, false, _, rfl, run_lacks.mpr hg, ih.mpr hrest⟩

end Runs

/-! #### Tests with a function that decodes -/

section Decoded

variable {f : Form} {decode : Value → Option String} {values : Bag} {now : LocalMoment}
  {field : Field}

theorem lacks_iff : f.Lacks decode values now field ↔
    Id.run (f.lacks (fun file => pure (decode file)) values now field) = true := by
  have hshows : Id.run (f.shows (fun file => pure (decode file)) values now field) = true ↔
      ∀ c, field.condition = some c →
        c.holds { lookup := f.answer? values, now } decode = true := by
    unfold shows Filter.holds
    cases field.condition <;> simp
  have hlacks : Id.run (f.lacks (fun file => pure (decode file)) values now field) =
      (field.required && Id.run (f.shows (fun file => pure (decode file)) values now field) &&
        !isAnswered values field) := by
    unfold lacks
    cases field.required with
    | false => rfl
    | true =>
      change Id.run (if Id.run (f.shows _ values now field) then _ else _) = _
      cases Id.run (f.shows (fun file => pure (decode file)) values now field) <;> rfl
  rw [hlacks, Bool.and_eq_true, Bool.and_eq_true, Bool.not_eq_true', hshows,
    isAnswered_eq_false_iff]
  exact ⟨fun h => ⟨⟨h.required, h.shown⟩, h.unanswered⟩, fun ⟨⟨h₁, h₂⟩, h₃⟩ => ⟨h₁, h₂, h₃⟩⟩

instance : Decidable (f.Lacks decode values now field) :=
  decidable_of_iff _ lacks_iff.symm

/-- What is found to be lacking, where files are decoded by a function. -/
theorem missing?_eq_find? : Id.run (f.missing? (fun file => pure (decode file)) values now) =
    f.fields.find? fun field => f.Lacks decode values now field := by
  unfold missing?
  rw [List.idRun_findM?]
  congr 1
  funext field
  exact Bool.eq_iff_iff.mpr (lacks_iff.symm.trans (decide_eq_true_iff).symm)

/-- **The label of the first field that lacks its answer.** -/
theorem label_missing?_iff {label : String} :
    (Id.run (f.missing? (fun file => pure (decode file)) values now)).map (·.label) = some label ↔
      ∃ field, field.label = label ∧ f.Lacks decode values now field ∧
        ∃ front behind, f.fields = front ++ field :: behind ∧
          ∀ g ∈ front, ¬f.Lacks decode values now g := by
  simp only [missing?_eq_find?, Option.map_eq_some_iff, List.find?_eq_some_iff_append, and_comm,
    decide_eq_true_iff, Bool.not_eq_true', decide_eq_false_iff_not]

/-- There is a first one where there is one. -/
theorem exists_label_missing?_iff :
    (∃ label, (Id.run (f.missing? (fun file => pure (decode file)) values now)).map (·.label) =
      some label) ↔ ∃ field ∈ f.fields, f.Lacks decode values now field := by
  rw [← Option.isSome_iff_exists, Option.isSome_map, missing?_eq_find?, List.find?_isSome]
  simp only [decide_eq_true_iff]

end Decoded

end Form

namespace Submission

open Script

/-! ### What is lacking stops a submission -/

section Stopping

variable {config : Config} {launcher : Launcher} {form : Form} {given : Bag}
  {options : SubmitOptions} {parent : Option ParentChain} {es : List Event}
  {r : Except SubmitError SubmitStatus}

/-- A chain that is carried out does not end for want of an answer. -/
theorem ne_missingAnswer_of_foreground {token : Token} {lease : Lease} {values : Bag}
    {nested : Bool} {now : LocalMoment}
    (h : (foreground config launcher token lease form values nested now).Run es r)
    (label : String) : r ≠ .error (.missingAnswer label) := by
  obtain ⟨_, outcome, _, -, -, h⟩ := Script.run_bind.mp h
  obtain ⟨_, expired, _, -, -, h⟩ := Script.run_bind.mp h
  obtain ⟨_, _, _, -, -, hreport⟩ := Script.run_bind.mp h
  obtain ⟨-, rfl⟩ := noticesOf_report hreport
  cases outcome <;> exact nofun

/-- **A submission begins with a look at the clock** and the search for a field that lacks its
answer. It fails for want of an answer with the label of the one that is found, and does nothing
more then but tell the user. -/
theorem run_submitWithin
    (h : (submitWithin config launcher form given options parent).run.Run es r) :
    let token := (parent.map (·.token)).getD 0
    ∃ look tests lacking rest, es = .exchange token .look look :: (tests ++ rest) ∧
      (form.missing? (decode token) (form.withDefaults given) look.now :
        Script (Option Field)).Run tests lacking ∧
      ∀ label, (r = .error (.missingAnswer label) ↔ lacking.map (·.label) = some label) ∧
        (r = .error (.missingAnswer label) → ∃ told,
          rest = [.exchange token (.notify (SubmitError.missingAnswer label).message) told]) := by
  intro token
  unfold submitWithin at h
  rw [run_liftM_bind] at h
  obtain ⟨_, look, _, rfl, hlook, hrest⟩ := Script.run_bind.mp h
  obtain ⟨_, _, rfl, hdone⟩ := run_ask.mp hlook
  obtain ⟨rfl, rfl⟩ := run_done.mp hdone
  rw [run_liftM_bind] at hrest
  obtain ⟨tests, lacking, rest, rfl, htests, hrest⟩ := Script.run_bind.mp hrest
  refine ⟨look, tests, lacking, rest, rfl, htests, fun label => ?_⟩
  cases lacking with
  | some field =>
    rw [run_liftM_bind] at hrest
    obtain ⟨_, _, _, rfl, hnotify, hthrow⟩ := Script.run_bind.mp hrest
    obtain ⟨told, rfl⟩ := run_notify hnotify
    obtain ⟨rfl, rfl⟩ := run_done.mp hthrow
    refine ⟨by simp, fun hlabel => ?_⟩
    cases hlabel
    exact ⟨told, rfl⟩
  | none =>
    rw [run_liftM_bind] at hrest
    obtain ⟨_, lease, _, rfl, -, hbranch⟩ := Script.run_bind.mp hrest
    -- moved away or carried out, the chain fails in other ways if at all
    have hne : r ≠ .error (.missingAnswer label) := by
      split at hbranch
      case isTrue =>
        rw [run_liftM] at hbranch
        obtain ⟨_, status, _, rfl, -, hdone⟩ := Script.run_bind.mp hbranch
        obtain ⟨-, rfl⟩ := run_done.mp hdone
        exact nofun
      case isFalse => exact ne_missingAnswer_of_foreground hbranch label
    exact ⟨iff_of_false hne nofun, fun h => absurd h hne⟩

/-- What happens first in a submission, under a behaviour. -/
theorem submit_under (config : Config) (form : Form) (given : Bag) (options : SubmitOptions)
    (b : Behaviour) (before : List Event) :
    let look := b before 0 .look
    let tests := (form.missing? (decode 0) (form.withDefaults given) look.now :
      Script (Option Field)).under b (before ++ [.exchange 0 .look look])
    ∃ rest, ((submit config form given options).run.under b before).1 =
      .exchange 0 .look look :: (tests.1 ++ rest) := by
  intro look tests
  unfold submit submitWithin
  rw [run_liftM_bind]
  have hfirst (k : Reply .look → Script (Except SubmitError SubmitStatus)) :
      ((call 0 .look >>= k).under b before).1 = .exchange 0 .look look ::
        ((k look).under b (before ++ [.exchange 0 .look look])).1 := rfl
  refine (hfirst _).symm ▸ ?_
  rw [run_liftM_bind, under_bind]
  exact ⟨_, rfl⟩

/-- **A search for a missing answer** does nothing but have files decoded. -/
theorem decodes_of_missing? {token : Token} {f : Form} {values : Bag} {now : LocalMoment}
    {lacking : Option Field}
    (h : (f.missing? (decode token) values now : Script (Option Field)).Run es lacking) :
    ∀ e ∈ es, ∃ (file : Value) (reply : Reply (.decode file)),
      e = .exchange token (.decode file) reply := by
  have hpasses : PassesOn (decode token) fun {α} (x : Script α) =>
      ∀ es a, x.Run es a → ∀ e ∈ es, ∃ (file : Value) (reply : Reply (.decode file)),
        e = .exchange token (.decode file) reply :=
    { pure := fun a es b h => by
        obtain ⟨rfl, -⟩ := run_done.mp h
        exact List.forall_mem_nil _
      bind := fun hx hf es b h => by
        obtain ⟨es₁, a, es₂, rfl, h₁, h₂⟩ := Script.run_bind.mp h
        exact List.forall_mem_append.mpr ⟨hx _ _ h₁, hf a _ _ h₂⟩
      decode := fun file es content h => by
        obtain ⟨reply, _, rfl, hdone⟩ := run_ask.mp h
        obtain ⟨rfl, -⟩ := run_done.mp hdone
        exact List.forall_mem_singleton.mpr ⟨file, reply, rfl⟩ }
  exact Form.tested_missing? hpasses _ _ h

/-- Where files are decoded by a function, **the search comes to what it comes to with it**. -/
theorem missing?_of_decodesBy {b : Behaviour} {function : Value → Option String}
    (h : b.DecodesBy function) {token : Token} {f : Form} {values : Bag} {now : LocalMoment}
    (before : List Event) :
    ((f.missing? (decode token) values now : Script (Option Field)).under b before).2 =
      Id.run (f.missing? (fun file => pure (function file)) values now) := by
  have halike : Corresponds (decode token : Value → Script (Option String))
      (fun file => (pure (function file) : Id (Option String))) fun {α} x y =>
        ∀ before : List Event, (x.under b before).2 = Id.run y :=
    { pure := fun _ _ => rfl
      bind := fun {α β x y f g} hx hf before => by
        rw [bind_eq, under_bind, hx, hf]
        rfl
      decode := fun file before => h before token file }
  exact Form.tested_alike_missing? halike before

end Stopping

/-- **A submission fails for want of an answer just if a field lacks one.** Behind the default
answers, which take the place of no answer but `null`, it is the first such field in the order of
the form whose label it fails with, as the tests of the fields come out. Nothing has happened then
but for a look at the clock, files that were decoded for conditions, and a notice of the failure:
nobody was asked for a session, and no action was carried out. Where files are decoded by a
function, the fields that lack their answers are those that do so by this function. -/
theorem lacking_answer_stops (config : Config) (form : Form) (given : Bag)
    (options : SubmitOptions) (b : Behaviour) (before : List Event) :
    let values := form.withDefaults given
    let look := b before 0 .look
    let run := (submit config form given options).run.under b before
    (∀ name, values.get? name = Form.filledAnswer (given.get? name) (form.default? name)) ∧
    (∀ label, run.2 = .error (.missingAnswer label) ↔
      ∃ field tests rest, field.label = label ∧
        run.1 = .exchange 0 .look look :: (tests ++ rest) ∧
        form.FirstLacking 0 values look.now form.fields tests field) ∧
    (∀ label, run.2 = .error (.missingAnswer label) → ∃ tests told,
      run.1 = .exchange 0 .look look ::
        (tests ++ [.exchange 0 (.notify (SubmitError.missingAnswer label).message) told]) ∧
      ∀ e ∈ tests, ∃ file reply, e = .exchange 0 (.decode file) reply) ∧
    ∀ decode, b.DecodesBy decode →
      (∀ label, run.2 = .error (.missingAnswer label) ↔
        ∃ field, field.label = label ∧ form.Lacks decode values look.now field ∧
          ∃ front behind, form.fields = front ++ field :: behind ∧
            ∀ g ∈ front, ¬form.Lacks decode values look.now g) ∧
      ((∃ label, run.2 = .error (.missingAnswer label)) ↔
        ∃ field ∈ form.fields, form.Lacks decode values look.now field) := by
  intro values look run
  obtain ⟨look', tests, lacking, rest, hevents, htests, hends⟩ :=
    run_submitWithin (run_under b (submit config form given options).run before)
  obtain ⟨rest', hunder⟩ := submit_under config form given options b before
  obtain ⟨hlook, hbehind⟩ := List.cons.inj (hevents.symm.trans hunder)
  cases hlook
  have hresult (label : String) := (hends label).1
  refine ⟨fun name => Form.get?_withDefaults, fun label => ?_, fun label h => ?_,
    fun function hfunction => ?_⟩
  · rw [hresult label]
    constructor
    · intro hlabel
      obtain ⟨field, rfl, hfield⟩ := Option.map_eq_some_iff.mp hlabel
      exact ⟨field, tests, rest, hfield, hevents, Form.run_missing?_some.mp htests⟩
    · rintro ⟨field, tests', rest', rfl, hevents', hfirst⟩
      -- what happens tells how the tests come out
      obtain ⟨-, rfl, -⟩ := htests.unique_of_prefix (Form.run_missing?_some.mpr hfirst)
        (List.cons.inj (hevents.symm.trans hevents')).2
      rfl
  · obtain ⟨told, rfl⟩ := (hends label).2 h
    exact ⟨tests, told, hevents, decodes_of_missing? htests⟩
  · obtain ⟨-, rfl, -⟩ := htests.unique_of_prefix (run_under b _ _) hbehind
    rw [missing?_of_decodesBy hfunction] at hresult
    refine ⟨fun label => (hresult label).trans Form.label_missing?_iff, ?_⟩
    simp only [run, hresult]
    exact Form.exists_label_missing?_iff

/-- A default answer shows a field, which then lacks its own answer. -/
example :
    let condition : Filter := { property := some "Kind", operator := some .hasValue }
    let form : Form :=
      { fields := [{ id := "kind", label := "Kind", default := some (.text "bug") },
          { id := "why", label := "Why", required := true, condition := some condition }] }
    let decode (file : Value) : Id (Option String) := pure file.fileText?
    (form.missing? decode [("kind", .null)] default).map (·.label) = none ∧
      (form.missing? decode (form.withDefaults [("kind", .null)]) default).map (·.label) =
        some "Why" :=
  ⟨rfl, rfl⟩

/-- A form that asks why if a filter holds. -/
def askingWhy (condition : Filter) : Form where
  fields := [{ id := "log", label := "Log" },
    { id := "why", label := "Why", required := true, condition := some condition }]

/-- A log that does so. -/
def errorLog : Value := .text "an error"

/-- Why is asked for where there is a log of an error, and it is the log that tells so. -/
theorem error_report_lacks_why :
    let run := (submit {} (askingWhy speaksOfError) [("log", errorLog)] {}).run.under
      Chain.withoutUser []
    Chain.withoutUser.DecodesBy Value.fileText? ∧ run.2 = .error (.missingAnswer "Why") := by
  intro run
  have hdecodes : Chain.withoutUser.DecodesBy Value.fileText? := fun _ _ _ => rfl
  refine ⟨hdecodes, ?_⟩
  have hstops := lacking_answer_stops {} (askingWhy speaksOfError) [("log", errorLog)] {}
    Chain.withoutUser []
  refine ((hstops.2.2.2 Value.fileText? hdecodes).1 "Why").mpr ?_
  exact ⟨_, rfl, by decide, [_], [], rfl, by decide⟩

/-- **A file is decoded** before a submission fails, and it is not the notifier that does so. A
choice without conditions shows a field, too. -/
theorem error_report_decodes_log :
    let run := (submit {} (askingWhy speaksOfError) [("log", errorLog)] {}).run.under
      Chain.withoutUser []
    let choice : Filter := { kind := .group, junction := .any }
    run.2 = .error (.missingAnswer "Why") ∧
      .exchange 0 (.decode errorLog) ⟨some "an error", false, default⟩ ∈ run.1 ∧
      ((submit {} (askingWhy choice) [] {}).run.under Chain.withoutUser []).2 =
        .error (.missingAnswer "Why") :=
  ⟨rfl, .tail _ (.head _), rfl⟩

end Submission

end FormChain
