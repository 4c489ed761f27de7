import FormChain.Submission.Answers

/-!
# What tests are made of

A filter is tested in whatever monad its files are decoded in. So two tests of one filter, perhaps
in two monads, correspond as soon as decoding a file does, and as what is put together of what
corresponds does (`FormChain.Corresponds`). The inquiries need not even be the same, if only they
answer the comparisons in the filter alike. One induction says so
(`FormChain.Filter.tested_alike`), and everything that is known of tests is known in this way:
nothing else looks into a filter, but for whether a file may be read in its test at all
(`FormChain.Filter.ReadsFiles`).

With one monad only, it is a property of decoding a file that passes on to all tests
(`FormChain.PassesOn`, `FormChain.Filter.tested`): to those of the conditions in a chain, as to
those of a form that looks for a missing answer (`FormChain.Form.tested_missing?`).
-/

namespace FormChain

/-! ### What passes on -/

/-- **What passes on to two tests**: a relation between programs that decoding a file is in, and
that is passed on to what is put together. -/
structure Corresponds {m m' : Type → Type} [Monad m] [Monad m']
    (decode : Value → m (Option String)) (decode' : Value → m' (Option String))
    (R : {α : Type} → m α → m' α → Prop) : Prop where
  /-- Mere results that are the same correspond. -/
  pure {α : Type} (a : α) : R (pure a : m α) (pure a : m' α)
  /-- It is passed on. -/
  bind {α β : Type} {x : m α} {y : m' α} {f : α → m β} {g : α → m' β} :
    R x y → (∀ a, R (f a) (g a)) → R (x >>= f) (y >>= g)
  /-- Decoding a file corresponds. -/
  decode (file : Value) : R (decode file) (decode' file)

/-- **What passes on to tests**: a property that decoding a file has, and that is passed on to what
is put together. -/
structure PassesOn {m : Type → Type} [Monad m] (decode : Value → m (Option String))
    (P : {α : Type} → m α → Prop) : Prop where
  /-- A mere result has it. -/
  pure {α : Type} (a : α) : P (pure a : m α)
  /-- It is passed on. -/
  bind {α β : Type} {x : m α} {f : α → m β} : P x → (∀ a, P (f a)) → P (x >>= f)
  /-- Decoding a file has it. -/
  decode (file : Value) : P (decode file)

/-- A property that passes on is a relation that does, which looks at one side only. -/
theorem PassesOn.corresponds {m : Type → Type} [Monad m] {decode : Value → m (Option String)}
    {P : {α : Type} → m α → Prop} (h : PassesOn decode P) :
    Corresponds decode decode fun {α} (x : m α) (_ : m α) => P x where
  pure := h.pure
  bind hx hf := h.bind hx hf
  decode := h.decode

/-! ### Comparisons -/

namespace Filter

mutual

/-- **The comparisons in a filter**, wherever they stand. -/
def comparisons : Filter → List Filter
  | ⟨id, .leaf, property, operator, value, junction, fs⟩ =>
    [⟨id, .leaf, property, operator, value, junction, fs⟩]
  | ⟨_, .group, _, _, _, _, fs⟩ => comparisonsOf fs

/-- The comparisons in filters. -/
def comparisonsOf : List Filter → List Filter
  | [] => []
  | c :: rest => c.comparisons ++ comparisonsOf rest

end

/-- **Two inquiries answer a comparison alike**: they find the same for its property, and make
the same of its value. -/
structure AnsweredAlike (q q' : Inquiry) (l : Filter) : Prop where
  /-- The same is found. -/
  lookup : ∀ key, l.property = some key → q.lookup key = q'.lookup key
  /-- The same is made of the value. -/
  prepare : ∀ v, l.value = some v → q.prepare v = q'.prepare v

theorem AnsweredAlike.refl (q : Inquiry) (l : Filter) : AnsweredAlike q q l :=
  ⟨fun _ _ => rfl, fun _ _ => rfl⟩

end Filter

/-! ### Tests that correspond -/

section Alike

variable {m m' : Type → Type} [Monad m] [Monad m'] {decode : Value → m (Option String)}
  {decode' : Value → m' (Option String)} {R : {α : Type} → m α → m' α → Prop}

theorem Operator.tested_inFile (h : Corresponds decode decode' R) (needle : List Char)
    (files : List Value) : R (inFile decode needle files) (inFile decode' needle files) := by
  induction files with
  | nil => exact h.pure false
  | cons file rest ih =>
    refine h.bind (h.decode file) fun content => ?_
    split
    · exact h.pure true
    · exact ih

/-- **Testing an operator** decodes files, if it does anything. -/
theorem Operator.tested (h : Corresponds decode decode' R) (now : Moment)
    (field expected : Value) (op : Operator) :
    R (op.test decode now field expected) (op.test decode' now field expected) := by
  cases op with
  | fileContains => exact tested_inFile h _ _
  | _ => exact h.pure _

namespace Filter

variable {q q' : Inquiry}

theorem tested_comparison (h : Corresponds decode decode' R) (hnow : q.now = q'.now)
    {id property : Option String} {operator : Option Operator} {value : Option Value}
    {junction : Junction} {fs : List Filter}
    (hq : AnsweredAlike q q' ⟨id, .leaf, property, operator, value, junction, fs⟩) :
    R (testComparison decode q property operator value)
      (testComparison decode' q' property operator value) := by
  have hfound : property.bind q.lookup = property.bind q'.lookup := by
    cases property with
    | none => rfl
    | some key => exact hq.lookup key rfl
  have hmade : value.map q.prepare = value.map q'.prepare := by
    cases value with
    | none => rfl
    | some v => exact congrArg some (hq.prepare v rfl)
  unfold testComparison
  rw [hfound, hmade, hnow]
  split
  · exact Operator.tested h _ _ _ _
  · exact h.pure false

mutual

/-- **Two tests of a filter correspond**, where the inquiries answer its comparisons alike. -/
theorem tested_alike (h : Corresponds decode decode' R) (hnow : q.now = q'.now) : (f : Filter) →
    (∀ l ∈ f.comparisons, AnsweredAlike q q' l) → R (f.test decode q) (f.test decode' q')
  | ⟨_, .leaf, _, _, _, _, _⟩, hq => tested_comparison h hnow (hq _ (List.mem_singleton.mpr rfl))
  | ⟨_, .group, _, _, _, .all, fs⟩, hq => tested_all h hnow fs hq
  | ⟨_, .group, _, _, _, .any, fs⟩, hq => by
    rw [test, test]
    split
    · exact h.pure true
    · exact tested_any h hnow fs hq

theorem tested_all (h : Corresponds decode decode' R) (hnow : q.now = q'.now) :
    (fs : List Filter) → (∀ l ∈ comparisonsOf fs, AnsweredAlike q q' l) →
      R (testAll decode q fs) (testAll decode' q' fs)
  | [], _ => h.pure true
  | f :: rest, hq => by
    obtain ⟨hf, hrest⟩ := List.forall_mem_append.mp hq
    refine h.bind (tested_alike h hnow f hf) fun held => ?_
    split
    · exact tested_all h hnow rest hrest
    · exact h.pure false

theorem tested_any (h : Corresponds decode decode' R) (hnow : q.now = q'.now) :
    (fs : List Filter) → (∀ l ∈ comparisonsOf fs, AnsweredAlike q q' l) →
      R (testAny decode q fs) (testAny decode' q' fs)
  | [], _ => h.pure false
  | f :: rest, hq => by
    obtain ⟨hf, hrest⟩ := List.forall_mem_append.mp hq
    refine h.bind (tested_alike h hnow f hf) fun held => ?_
    split
    · exact h.pure true
    · exact tested_any h hnow rest hrest

end

/-- **A filter means the same for inquiries that answer its comparisons alike.** -/
theorem test_congr (hnow : q.now = q'.now) (f : Filter)
    (hq : ∀ l ∈ f.comparisons, AnsweredAlike q q' l) : f.test decode q = f.test decode q' := by
  have heq : Corresponds decode decode fun {α} (x y : m α) => x = y :=
    { pure := fun _ => rfl
      bind := fun hx hf => by rw [hx, funext hf]
      decode := fun _ => rfl }
  exact tested_alike heq hnow f hq

end Filter

namespace Form

variable {f : Form} {values : Bag} {now : LocalMoment}

theorem tested_alike_lacks (h : Corresponds decode decode' R) (field : Field) :
    R (f.lacks decode values now field) (f.lacks decode' values now field) := by
  have hshows : R (f.shows decode values now field) (f.shows decode' values now field) := by
    unfold shows
    split
    · exact h.pure true
    · exact Filter.tested_alike h rfl _ fun l _ => .refl _ l
  unfold lacks
  split
  · refine h.bind hshows fun shown => ?_
    split
    · exact h.pure _
    · exact h.pure false
  · exact h.pure false

/-- **Two searches for a missing answer correspond.** -/
theorem tested_alike_missing? (h : Corresponds decode decode' R) :
    R (f.missing? decode values now) (f.missing? decode' values now) := by
  unfold missing?
  induction f.fields with
  | nil => exact h.pure none
  | cons field rest ih =>
    refine h.bind (tested_alike_lacks h field) fun lacking => ?_
    cases lacking with
    | true => exact h.pure _
    | false => exact ih

end Form

end Alike

/-! ### Tests that read no file -/

namespace Filter

section Plain

variable {m : Type → Type} [Monad m] (decode : Value → m (Option String)) (q : Inquiry)

theorem testComparison_eq_pure {property : Option String} {operator : Option Operator}
    {value : Option Value} (h : operator ≠ some .fileContains) :
    ∃ held, testComparison decode q property operator value = pure held := by
  unfold testComparison
  split
  case h_2 => exact ⟨false, rfl⟩
  case h_1 op hop =>
    cases op with
    | fileContains => exact absurd (Option.filter_eq_some_iff.mp hop).1 h
    | _ => exact ⟨_, rfl⟩

mutual

/-- No comparison of the filter has a file read, so its test is no more than a result. -/
theorem test_eq_pure_of_forall [LawfulMonad m] : (f : Filter) →
    (∀ l ∈ f.comparisons, l.operator ≠ some .fileContains) → ∃ held, f.test decode q = pure held
  | ⟨_, .leaf, _, _, _, _, _⟩, h =>
    testComparison_eq_pure decode q (h _ (List.mem_singleton_self _))
  | ⟨_, .group, _, _, _, .all, fs⟩, h => testAll_eq_pure fs h
  | ⟨_, .group, _, _, _, .any, fs⟩, h => by
    rw [test]
    split
    · exact ⟨true, rfl⟩
    · exact testAny_eq_pure fs h

theorem testAll_eq_pure [LawfulMonad m] : (fs : List Filter) →
    (∀ l ∈ comparisonsOf fs, l.operator ≠ some .fileContains) →
      ∃ held, testAll decode q fs = pure held
  | [], _ => ⟨true, rfl⟩
  | f :: rest, h => by
    obtain ⟨hf, hrest⟩ := List.forall_mem_append.mp h
    obtain ⟨held, hheld⟩ := test_eq_pure_of_forall f hf
    rw [testAll, hheld, pure_bind]
    split
    · exact testAll_eq_pure rest hrest
    · exact ⟨false, rfl⟩

theorem testAny_eq_pure [LawfulMonad m] : (fs : List Filter) →
    (∀ l ∈ comparisonsOf fs, l.operator ≠ some .fileContains) →
      ∃ held, testAny decode q fs = pure held
  | [], _ => ⟨false, rfl⟩
  | f :: rest, h => by
    obtain ⟨hf, hrest⟩ := List.forall_mem_append.mp h
    obtain ⟨held, hheld⟩ := test_eq_pure_of_forall f hf
    rw [testAny, hheld, pure_bind]
    split
    · exact ⟨true, rfl⟩
    · exact testAny_eq_pure rest hrest

end

end Plain

end Filter

/-! ### Tests by themselves -/

section Tests

variable {m : Type → Type} [Monad m] {decode : Value → m (Option String)}
  {P : {α : Type} → m α → Prop}

/-- **Testing a filter** decodes files, one after another. -/
theorem Filter.tested (h : PassesOn decode P) {q : Inquiry} (f : Filter) : P (f.test decode q) :=
  Filter.tested_alike h.corresponds rfl f fun l _ => .refl q l

/-- **Looking for a missing answer** decodes files, one after another. -/
theorem Form.tested_missing? (h : PassesOn decode P) {f : Form} {values : Bag} {now : LocalMoment} :
    P (f.missing? decode values now) :=
  Form.tested_alike_missing? h.corresponds

end Tests

end FormChain
