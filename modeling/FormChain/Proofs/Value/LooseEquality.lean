import FormChain.Condition.Comparison
import FormChain.Proofs.Form.Fields
import FormChain.Proofs.Value.Distance
import Mathlib.Data.List.Perm.Subperm

/-!
# Loose equality

Loose equality compares numbers with texts that read as them, and truth values with texts that
spell them. Lists are compared item by item. Two objects are compared by their sizes and by a
walk over the fields of the first one only; since names do not repeat, none of the second one
is left out (`FormChain.Value.names_perm_of_fieldsEqual`).

So it does not matter which value comes first (`FormChain.Value.looselyEqual_comm`), and every
value whose numbers are finite is equal to itself (`FormChain.Value.looselyEqual_self`). It is no
equivalence: a text may read as a number, and another text may too, without being the same text.
-/

namespace FormChain

namespace Value

/-! ### Finite numbers in a value -/

mutual

/-- **All numbers in a value are finite**, as those of JSON are. -/
def NumbersFinite : Value → Prop
  | .number (.real x) => isFinite x = true
  | .list items => ItemsFinite items
  | .object fields => FieldsFinite fields
  | _ => True

/-- All numbers in the items are finite. -/
def ItemsFinite : List Value → Prop
  | [] => True
  | v :: rest => v.NumbersFinite ∧ ItemsFinite rest

/-- All numbers in the fields are finite. -/
def FieldsFinite : List (String × Value) → Prop
  | [] => True
  | (_, v) :: rest => v.NumbersFinite ∧ FieldsFinite rest

end

theorem wellFormed_of_mem_fields {fields : List (String × Value)} (h : FieldsWellFormed fields)
    {e : String × Value} (he : e ∈ fields) : e.2.WellFormed := by
  induction fields with
  | nil => cases he
  | cons f rest ih =>
    obtain ⟨hf, hrest⟩ := h
    rcases List.mem_cons.mp he with rfl | he
    · exact hf
    · exact ih hrest he

/-! ### Objects -/

section Objects

variable {fs gs : List (String × Value)}

/-- **Every field is found again** with a value that is equal to its own. -/
theorem fieldsEqual_iff : fieldsEqual fs gs = true ↔
    ∀ e ∈ fs, ∃ w, Keyed.get? gs e.1 = some w ∧ looselyEqual e.2 w = true := by
  induction fs with
  | nil => simp [fieldsEqual]
  | cons e rest ih =>
    obtain ⟨name, v⟩ := e
    rw [fieldsEqual, Bool.and_eq_true, ih, List.forall_mem_cons]
    refine and_congr_left fun _ => ?_
    cases Keyed.get? gs name <;> simp

/-- **Objects of one size have the same names** if those of one are found in the other. -/
theorem names_perm_of_fieldsEqual (hfs : Keyed.Sorted fs) (hlength : fs.length = gs.length)
    (h : fieldsEqual fs gs = true) : (Keyed.names fs).Perm (Keyed.names gs) := by
  have hsub : Keyed.names fs ⊆ Keyed.names gs := by
    intro name hname
    obtain ⟨e, he, rfl⟩ := List.mem_map.mp hname
    obtain ⟨w, hw, -⟩ := fieldsEqual_iff.mp h e he
    exact List.mem_map.mpr ⟨_, Keyed.mem_of_get?_eq_some hw, rfl⟩
  exact ((Keyed.names_nodup hfs).subperm hsub).perm_of_length_le (by simp [Keyed.names, hlength])

/-- **The walk over the fields goes both ways**, where it does so for their values. -/
theorem fieldsEqual_swap (hfs : Keyed.Sorted fs) (hgs : Keyed.Sorted gs)
    (hlength : fs.length = gs.length)
    (hvalues : ∀ e ∈ fs, ∀ d ∈ gs, looselyEqual e.2 d.2 = true → looselyEqual d.2 e.2 = true)
    (h : fieldsEqual fs gs = true) : fieldsEqual gs fs = true := by
  refine fieldsEqual_iff.mpr fun d hd => ?_
  have hname : d.1 ∈ Keyed.names fs :=
    (names_perm_of_fieldsEqual hfs hlength h).mem_iff.mpr (List.mem_map_of_mem hd)
  obtain ⟨e, he, hsame⟩ := List.mem_map.mp hname
  obtain ⟨w, hw, hequal⟩ := fieldsEqual_iff.mp h e he
  rw [hsame, Keyed.get?_of_mem hgs hd] at hw
  obtain rfl := Option.some.inj hw
  exact ⟨e.2, hsame ▸ Keyed.get?_of_mem hfs he, hvalues e he d hd hequal⟩

end Objects

/-! ### Which value comes first -/

mutual

/-- **It does not matter which value comes first.** -/
theorem looselyEqual_comm : (l r : Value) → l.WellFormed → r.WellFormed →
    l.looselyEqual r = r.looselyEqual l
  | .null, r, _, _ => by cases r <;> simp only [looselyEqual]
  | .bool a, r, _, _ => by
    cases r with
    | bool b => exact BEq.comm
    | _ => simp only [looselyEqual]
  | .number m, r, _, _ => by
    cases r with
    | number n => exact close_comm _ _
    | _ => simp only [looselyEqual]
  | .text s, r, _, _ => by
    cases r with
    | text t => exact BEq.comm
    | _ => simp only [looselyEqual]
  | .list xs, r, hl, hr => by
    cases r with
    | list ys => exact itemsEqual_comm xs ys hl hr
    | _ => simp only [looselyEqual]
  | .object fs, r, hl, hr => by
    cases r with
    | object gs =>
      have hvalues := fieldsEqual_comm fs hl.2
      simp only [looselyEqual]
      rw [Bool.eq_iff_iff, Bool.and_eq_true, Bool.and_eq_true, beq_iff_eq, beq_iff_eq]
      constructor
      · rintro ⟨hlength, h⟩
        refine ⟨hlength.symm, fieldsEqual_swap hl.1 hr.1 hlength (fun e he d hd hequal => ?_) h⟩
        rwa [← hvalues e he d.2 (wellFormed_of_mem_fields hr.2 hd)]
      · rintro ⟨hlength, h⟩
        refine ⟨hlength.symm, fieldsEqual_swap hr.1 hl.1 hlength (fun d hd e he hequal => ?_) h⟩
        rwa [hvalues e he d.2 (wellFormed_of_mem_fields hr.2 hd)]
    | _ => simp only [looselyEqual]

/-- It does not matter which list of items comes first. -/
theorem itemsEqual_comm : (xs ys : List Value) → ItemsWellFormed xs → ItemsWellFormed ys →
    itemsEqual xs ys = itemsEqual ys xs
  | [], [], _, _ => rfl
  | [], _ :: _, _, _ => rfl
  | _ :: _, [], _, _ => rfl
  | x :: xs, y :: ys, hx, hy => by
    simp only [itemsEqual, looselyEqual_comm x y hx.1 hy.1, itemsEqual_comm xs ys hx.2 hy.2]

/-- Nor does it for the value of a field and another one. -/
theorem fieldsEqual_comm : (fs : List (String × Value)) → FieldsWellFormed fs →
    ∀ e ∈ fs, ∀ w : Value, w.WellFormed → e.2.looselyEqual w = w.looselyEqual e.2
  | [], _, _, he, _, _ => by cases he
  | (name, v) :: rest, h, e, he, w, hw => by
    rcases List.mem_cons.mp he with rfl | he
    · exact looselyEqual_comm v w h.1 hw
    · exact fieldsEqual_comm rest h.2 e he w hw

end

/-! ### A value and itself -/

mutual

/-- **A value is equal to itself** if its numbers are finite. -/
theorem looselyEqual_self : (v : Value) → v.WellFormed → v.NumbersFinite →
    v.looselyEqual v = true
  | .null, _, _ => rfl
  | .bool b, _, _ => beq_self_eq_true b
  | .number n, _, h => close_self (Number.isFinite_toFloat fun x hx => by subst hx; exact h)
  | .text s, _, _ => beq_self_eq_true s
  | .list items, hw, h => itemsEqual_self items hw h
  | .object fields, hw, h => by
    rw [looselyEqual, beq_self_eq_true, Bool.true_and, fieldsEqual_iff]
    exact fun e he => ⟨e.2, Keyed.get?_of_mem hw.1 he, fieldsEqual_self fields hw.2 h e he⟩

/-- So are lists of such values. -/
theorem itemsEqual_self : (items : List Value) → ItemsWellFormed items → ItemsFinite items →
    itemsEqual items items = true
  | [], _, _ => rfl
  | v :: rest, hw, h => by
    rw [itemsEqual, looselyEqual_self v hw.1 h.1, itemsEqual_self rest hw.2 h.2]
    rfl

/-- So are the values of fields. -/
theorem fieldsEqual_self : (fields : List (String × Value)) → FieldsWellFormed fields →
    FieldsFinite fields → ∀ e ∈ fields, e.2.looselyEqual e.2 = true
  | [], _, _, _, he => by cases he
  | (name, v) :: rest, hw, h, e, he => by
    rcases List.mem_cons.mp he with rfl | he
    · exact looselyEqual_self v hw.1 h.1
    · exact fieldsEqual_self rest hw.2 h.2 e he

end

/-- **Loose equality is reflexive and symmetric**: every value whose numbers are finite is equal
to itself, and of any two values it does not matter which comes first. -/
theorem looselyEqual_refl_symm :
    (∀ v : Value, v.WellFormed → v.NumbersFinite → v.looselyEqual v = true) ∧
    ∀ l r : Value, l.WellFormed → r.WellFormed → l.looselyEqual r = r.looselyEqual l :=
  ⟨looselyEqual_self, looselyEqual_comm⟩

/-- Numbers, truth values and texts that stand for them, in lists in objects. -/
theorem spelled_answers_equal :
    let spelled : Value := .object
      [("count", .list [.text " 1.0 ", .bool true]), ("size", .number (.real 2.5))]
    let plain : Value := .object
      [("count", .list [.number (.int 1), .text "TRUE"]), ("size", .text "2.5")]
    spelled.WellFormed ∧ spelled.NumbersFinite ∧ plain.WellFormed ∧
      spelled.looselyEqual plain = true ∧ plain.looselyEqual spelled = true ∧
      spelled.looselyEqual spelled = true := by
  intro spelled plain
  have hnames : ["count", "size"].Pairwise (· < ·) := by decide
  have hspelled : spelled.WellFormed := ⟨hnames, ⟨trivial, trivial, trivial⟩, trivial, trivial⟩
  have hplain : plain.WellFormed := ⟨hnames, ⟨trivial, trivial, trivial⟩, trivial, trivial⟩
  have hsize : isFinite 2.5 = true := by decide
  have hfinite : spelled.NumbersFinite := ⟨⟨trivial, trivial, trivial⟩, hsize, trivial⟩
  have hequal : spelled.looselyEqual plain = true := by decide +kernel
  exact ⟨hspelled, hfinite, hplain, hequal,
    (looselyEqual_refl_symm.2 spelled plain hspelled hplain) ▸ hequal,
    looselyEqual_refl_symm.1 spelled hspelled hfinite⟩

end Value

/-- **Equality as an operator** does not tell the field's value from the one it is compared with,
unless one of them alone is a list. -/
theorem Operator.equal_comm {l r : Value} (hl : l.WellFormed) (hr : r.WellFormed)
    (hlists : l.isList = r.isList) : equal l r = equal r l := by
  have hloose {v w : Value} (h : v.isList = w.isList) : equal v w = v.looselyEqual w := by
    cases v with
    | list items =>
      have hw : w.isList = true := h.symm
      rw [equal, if_pos hw]
    | _ => rfl
  rw [hloose hlists, hloose hlists.symm, Value.looselyEqual_comm l r hl hr]

end FormChain
