import FormChain.Proofs.Form.Places
import Mathlib.Data.Finset.Card
import Mathlib.Data.List.Perm.Subperm

/-!
# Forms without errors

What a form has to be like for the check to find no error in it is said here without the check
(`FormChain.Form.WellFormed`): by the ids of its fields and of all its actions, the names that
they bind, what their loops run on and which groups they refer to, and by where values are
collected. The check finds no error just in the forms that are like this, whichever way their
groups refer to each other.

The last part is the one that reaches through the form. Values may be collected in a group of
the form outside of every loop of its own list, if that group is reached inside a loop; and how
groups are reached is a matter of all references at once, round in circles if there are any. The
walk that finds this out enters every group at most twice
(`FormChain.Form.length_follow_le`).

Main statement: `FormChain.Form.errors_eq_nil_iff_wellFormed`, with the number of ids that are
found twice.
-/

namespace FormChain

/-! ### What is asked of a form -/

/-- **A text that can name a variable**: it starts with a letter or underscore and goes on with
letters, digits, underscores and hyphens. -/
def NamesVariable (s : String) : Prop :=
  ∃ c rest, s.toList = c :: rest ∧ (Unicode.isAlphabetic c = true ∨ c = '_') ∧
    ∀ d ∈ rest, Unicode.isAlphanumeric d = true ∨ d = '_' ∨ d = '-'

theorem isVariableName_iff {s : String} : isVariableName s = true ↔ NamesVariable s := by
  unfold isVariableName NamesVariable
  cases hs : s.toList with
  | nil => simp
  | cons c rest =>
    simp only [startsVariableName, continuesVariableName, Bool.and_eq_true, Bool.or_eq_true,
      decide_eq_true_eq, List.all_eq_true, List.cons.injEq]
    constructor
    · rintro ⟨hc, hrest⟩
      exact ⟨c, rest, ⟨rfl, rfl⟩, hc, fun d hd => or_assoc.mp (hrest d hd)⟩
    · rintro ⟨_, _, ⟨rfl, rfl⟩, hc, hrest⟩
      exact ⟨hc, fun d hd => or_assoc.mpr (hrest d hd)⟩

/-- **The names that an action binds**: the variable that it writes, and the second names that a
loop gives to its item and its index. -/
inductive Action.Binds : Action → String → Prop where
  /-- The path of a created file. -/
  | createFile {head : Head} {spec : CreateFile} {name : String} :
    spec.output = some name → Binds (.createFile head spec) name
  /-- A changed text. -/
  | textTransform {head : Head} {spec : TextTransform} :
    Binds (.textTransform head spec) spec.output
  /-- An answer of the language model. -/
  | ai {head : Head} {spec : Prompt} {name : String} :
    spec.output = some name → Binds (.ai head spec) name
  /-- Collected values. -/
  | collectData {head : Head} {spec : Collect} : Binds (.collectData head spec) spec.output
  /-- A choice of the user. -/
  | suggest {head : Head} {spec : Suggest} : Binds (.suggest head spec) spec.output
  /-- The item of an iteration. -/
  | item {head : Head} {plan : LoopPlan} {body : List Action} {name : String} :
    plan.itemAlias = some name → Binds (.loop head plan body) name
  /-- The index of an iteration. -/
  | index {head : Head} {plan : LoopPlan} {body : List Action} {name : String} :
    plan.indexAlias = some name → Binds (.loop head plan body) name

theorem Action.mem_variableNames_iff {a : Action} {name : String} :
    name ∈ a.variableNames ↔ a.Binds name := by
  constructor
  · intro h
    cases a with
    | createFile => exact .createFile (Option.mem_toList.mp h)
    | textTransform =>
      obtain rfl := List.mem_singleton.mp h
      exact .textTransform
    | ai => exact .ai (Option.mem_toList.mp h)
    | collectData =>
      obtain rfl := List.mem_singleton.mp h
      exact .collectData
    | suggest =>
      obtain rfl := List.mem_singleton.mp h
      exact .suggest
    | loop =>
      rcases List.mem_append.mp h with h | h
      · exact .item (Option.mem_toList.mp h)
      · exact .index (Option.mem_toList.mp h)
    | _ => cases h
  · intro h
    cases h with
    | createFile h => exact Option.mem_toList.mpr h
    | ai h => exact Option.mem_toList.mpr h
    | item h => exact List.mem_append_left _ (Option.mem_toList.mpr h)
    | index h => exact List.mem_append_right _ (Option.mem_toList.mpr h)
    | _ => exact List.mem_singleton.mpr rfl

/-- **A loop has what its kind runs on.** -/
def LoopPlan.Driven (p : LoopPlan) : Prop :=
  match p.kind with
  | .list | .pagination => ∃ v, p.source = some v
  | .count => ∃ range, p.count = some range
  | .condition => ∃ test, p.test = some test

theorem LoopPlan.hasSource_iff {p : LoopPlan} : p.hasSource = true ↔ p.Driven := by
  unfold hasSource Driven
  cases p.kind <;> exact Option.isSome_iff_exists

namespace Form

/-- **A form in which the check finds no error.** -/
structure WellFormed (f : Form) : Prop where
  /-- No two fields have one id. -/
  fields : (f.fields.map (·.id)).Nodup
  /-- No two actions have one id, wherever they stand. -/
  actions : (f.everyAction.map (·.id)).Nodup
  /-- All names that are bound can name variables. -/
  names : ∀ a ∈ f.everyAction, ∀ name, a.Binds name → NamesVariable name
  /-- All loops have what they run on. -/
  loops : ∀ head plan body, .loop head plan body ∈ f.everyAction → plan.Driven
  /-- All groups that are referred to exist. -/
  groups : ∀ head id members, .group head (some id) members ∈ f.everyAction →
    ∃ g ∈ f.groups, g.id = id
  /-- No values are collected outside of every loop of the form itself. -/
  collected : ∀ head spec, ¬Action.Stands f.actions (.collectData head spec) false
  /-- Where values are collected in a group, and there outside of every loop, the group is
  reached inside a loop. -/
  collectedInGroup : ∀ head spec, ∀ g ∈ f.groups,
    Action.Stands g.actions (.collectData head spec) false → f.Reaches g.id true

end Form

/-! ### Ids that occur twice -/

/-- Whether an error is an id that two actions have. -/
def FormError.isDuplicateAction : FormError → Bool
  | .duplicateAction _ => true
  | _ => false

section Duplicates

variable {earlier : List String}

/-- Ids of which none was there before: the first one was not, and the others are neither among
those before nor the first one again. -/
theorem nodup_and_fresh_cons_iff {x : String} {rest : List String} :
    ((x :: rest).Nodup ∧ ∀ y ∈ x :: rest, y ∉ earlier) ↔
      x ∉ earlier ∧ rest.Nodup ∧ ∀ y ∈ rest, y ∉ x :: earlier := by
  rw [List.nodup_cons, List.forall_mem_cons]
  constructor
  · rintro ⟨⟨hx, hnodup⟩, hfirst, hrest⟩
    refine ⟨hfirst, hnodup, fun y hy h => ?_⟩
    rcases List.mem_cons.mp h with rfl | h
    · exact hx hy
    · exact hrest y hy h
  · rintro ⟨hfirst, hnodup, hrest⟩
    refine ⟨⟨fun h => hrest x h (.head _), hnodup⟩, hfirst, fun y hy h => ?_⟩
    exact hrest y hy (.tail _ h)

/-- Nothing is repeated where nothing occurs twice. -/
theorem repeats_eq_nil_iff {xs : List String} :
    repeats earlier xs = [] ↔ xs.Nodup ∧ ∀ x ∈ xs, x ∉ earlier := by
  induction xs generalizing earlier with
  | nil => simp [repeats]
  | cons x rest ih =>
    rw [repeats, nodup_and_fresh_cons_iff]
    split
    case isTrue hx =>
      have hmem : x ∈ earlier := List.contains_iff_mem.mp hx
      exact iff_of_false (List.cons_ne_nil _ _) fun h => h.1 hmem
    case isFalse hx =>
      have hmem : x ∉ earlier := fun h => hx (List.contains_iff_mem.mpr h)
      rw [ih, and_iff_right hmem]

end Duplicates

namespace Form

section Errors

variable {f : Form} {earlier : List String} {v : Visit}

section Own

variable {head : Head} {inLoop : Bool}

/-- An error that is found where something does not hold. -/
theorem ite_nil_eq_nil_iff {b : Bool} {e : FormError} :
    (if b = true then [] else [e]) = [] ↔ b = true := by
  cases b with
  | true => exact iff_of_true rfl rfl
  | false => exact iff_of_false (List.cons_ne_nil _ _) Bool.false_ne_true

theorem ownErrors_collectData_eq_nil_iff {spec : Collect} :
    f.ownErrors ⟨.collectData head spec, inLoop⟩ = [] ↔ inLoop = true :=
  ite_nil_eq_nil_iff

theorem ownErrors_loop_eq_nil_iff {plan : LoopPlan} {body : List Action} :
    f.ownErrors ⟨.loop head plan body, inLoop⟩ = [] ↔ plan.Driven :=
  ite_nil_eq_nil_iff.trans LoopPlan.hasSource_iff

theorem ownErrors_group_eq_nil_iff {id : String} {members : List Action} :
    f.ownErrors ⟨.group head (some id) members, inLoop⟩ = [] ↔ ∃ g ∈ f.groups, g.id = id :=
  ite_nil_eq_nil_iff.trans isSome_group?_iff

end Own

/-- **Nothing is wrong with an action for its type** if values are collected inside a loop, a loop
is driven, and a group that is referred to exists. -/
theorem ownErrors_eq_nil_iff :
    f.ownErrors v = [] ↔
      (∀ head spec, v.action = .collectData head spec → v.inLoop = true) ∧
      (∀ head plan body, v.action = .loop head plan body → plan.Driven) ∧
      ∀ head id members, v.action = .group head (some id) members →
        ∃ g ∈ f.groups, g.id = id := by
  obtain ⟨a, inLoop⟩ := v
  constructor
  · intro hnone
    refine ⟨?_, ?_, ?_⟩
    · rintro head spec rfl
      exact ownErrors_collectData_eq_nil_iff.mp hnone
    · rintro head plan body rfl
      exact ownErrors_loop_eq_nil_iff.mp hnone
    · rintro head id members rfl
      exact ownErrors_group_eq_nil_iff.mp hnone
  · rintro ⟨hcollect, hloop, hgroup⟩
    cases a with
    | collectData head spec => exact ownErrors_collectData_eq_nil_iff.mpr (hcollect head spec rfl)
    | loop head plan body => exact ownErrors_loop_eq_nil_iff.mpr (hloop head plan body rfl)
    | group head id members =>
      cases id with
      | none => rfl
      | some id => exact ownErrors_group_eq_nil_iff.mpr (hgroup head id members rfl)
    | _ => rfl

/-- What is wrong with an action: nothing if its id is new, its names can name variables, and
nothing is wrong with it for its type. -/
theorem visitErrors_eq_nil_iff :
    f.visitErrors earlier v = [] ↔ v.action.id ∉ earlier ∧
      (∀ name, v.action.Binds name → NamesVariable name) ∧ f.ownErrors v = [] := by
  rw [visitErrors, List.append_eq_nil_iff, List.append_eq_nil_iff, and_assoc]
  refine and_congr ?_ (and_congr ?_ Iff.rfl)
  · rw [← List.contains_iff_mem]
    split
    case isTrue h => exact ⟨nofun, fun hnot => absurd h hnot⟩
    case isFalse h => exact ⟨fun _ => h, fun _ => rfl⟩
  · simp only [List.map_eq_nil_iff, List.filter_eq_nil_iff, Bool.not_eq_true', Bool.not_eq_false,
      isVariableName_iff, Action.mem_variableNames_iff]

/-- **The check of the visits finds nothing** if no id is there twice or was there before, and
nothing else is wrong with any of them. -/
theorem errorsOfVisits_eq_nil_iff {vs : List Visit} :
    f.errorsOfVisits earlier vs = [] ↔
      (((vs.map (·.action)).map (·.id)).Nodup ∧
        ∀ id ∈ (vs.map (·.action)).map (·.id), id ∉ earlier) ∧
      ∀ v ∈ vs, (∀ name, v.action.Binds name → NamesVariable name) ∧ f.ownErrors v = [] := by
  induction vs generalizing earlier with
  | nil => simp [errorsOfVisits]
  | cons v rest ih =>
    rw [errorsOfVisits, List.append_eq_nil_iff, visitErrors_eq_nil_iff, ih, List.map_cons,
      List.map_cons, nodup_and_fresh_cons_iff, List.forall_mem_cons]
    exact and_and_and_comm

/-- An id that was there before is found once. -/
theorem countP_visitErrors :
    (f.visitErrors earlier v).countP (·.isDuplicateAction) =
      if v.action.id ∈ earlier then 1 else 0 := by
  have hnames : (((v.action.variableNames.filter (!isVariableName ·)).map
      (FormError.badVariable v.action.id ·)).countP (·.isDuplicateAction)) = 0 := by
    rw [List.countP_map, List.countP_eq_zero]
    exact fun _ _ => Bool.false_ne_true
  have hown : (f.ownErrors v).countP (·.isDuplicateAction) = 0 := by
    rw [ownErrors]
    split
    case h_1 => split <;> rfl
    case h_2 => split <;> rfl
    case h_3 => split <;> rfl
    case h_4 => rfl
  rw [visitErrors, List.countP_append, List.countP_append, hnames, hown, Nat.add_zero]
  by_cases hmem : v.action.id ∈ earlier
  · rw [if_pos hmem, if_pos (List.contains_iff_mem.mpr hmem)]
    rfl
  · rw [if_neg hmem, if_neg fun h => hmem (List.contains_iff_mem.mp h)]
    rfl

/-- **Every visit either brings a new id or an error**: the ids that were not there before and the
ids that are found to be there already are as many as the visits. -/
theorem countP_errorsOfVisits {vs : List Visit} :
    (f.errorsOfVisits earlier vs).countP (·.isDuplicateAction) +
      (((vs.map (·.action)).map (·.id)).toFinset \ earlier.toFinset).card = vs.length := by
  induction vs generalizing earlier with
  | nil => simp [errorsOfVisits]
  | cons v rest ih =>
    rw [errorsOfVisits, List.countP_append, countP_visitErrors, List.length_cons,
      ← @ih (v.action.id :: earlier), List.map_cons, List.map_cons,
      List.toFinset_cons, List.toFinset_cons]
    by_cases hmem : v.action.id ∈ earlier
    · have hmem' : v.action.id ∈ earlier.toFinset := List.mem_toFinset.mpr hmem
      rw [if_pos hmem, Finset.insert_sdiff_of_mem _ hmem', Finset.insert_eq_of_mem hmem']
      omega
    · -- a new id is one more here, and is among those that were there before from now on
      have hmem' : v.action.id ∉ earlier.toFinset := fun h => hmem (List.mem_toFinset.mp h)
      have hnew : v.action.id ∈
          insert v.action.id ((rest.map (·.action)).map (·.id)).toFinset \ earlier.toFinset :=
        Finset.mem_sdiff.mpr ⟨Finset.mem_insert_self _ _, hmem'⟩
      rw [if_neg hmem, ← Finset.card_erase_add_one hnew, ← Finset.sdiff_insert,
        Finset.insert_sdiff_insert]
      omega

end Errors

/-! ### The walk along references -/

section Walk

variable {f : Form} {pending seen : List GroupReference}

/-- No reference is followed twice. -/
theorem nodup_follow (hseen : seen.Nodup) : (f.follow pending seen).Nodup := by
  fun_induction follow f pending seen with
  | case1 => exact hseen
  | case2 _ _ _ _ ih => exact ih hseen
  | case3 _ _ _ _ _ ih => exact ih hseen
  | case4 _ _ _ hnew _ _ ih => exact ih (List.nodup_cons.mpr ⟨hnew, hseen⟩)

/-- Only references that find a group are followed. -/
theorem follow_subset_allReferences (hseen : seen ⊆ f.allReferences) :
    f.follow pending seen ⊆ f.allReferences := by
  fun_induction follow f pending seen with
  | case1 => exact hseen
  | case2 _ _ _ _ ih => exact ih hseen
  | case3 _ _ _ _ _ ih => exact ih hseen
  | case4 _ _ _ _ _ hg ih => exact ih (List.cons_subset.mpr ⟨mem_allReferences hg, hseen⟩)

/-- **Every group is entered at most twice**, once inside a loop and once outside. -/
theorem length_follow_le : (f.follow pending []).length ≤ 2 * f.groups.length := by
  have hnodup : (f.follow pending []).Nodup := nodup_follow List.nodup_nil
  have hsub : f.follow pending [] ⊆ f.allReferences :=
    follow_subset_allReferences (List.nil_subset _)
  have hlength : f.allReferences.length = 2 * f.groups.length := by
    rw [allReferences, List.length_flatMap]
    simp [Nat.mul_comm]
  rw [← hlength]
  exact (List.subperm_of_subset hnodup hsub).length_le

end Walk

/-! ### The check -/

section Check

variable {f : Form}

/-- Of the actions visited, nothing is wrong with any for its type just if the form is well formed
in what its loops run on, its groups refer to and where its values are collected. -/
theorem forall_ownErrors_eq_nil_iff :
    (∀ v ∈ f.visits, f.ownErrors v = []) ↔
      (∀ head plan body, .loop head plan body ∈ f.everyAction → plan.Driven) ∧
      (∀ head id members, .group head (some id) members ∈ f.everyAction →
        ∃ g ∈ f.groups, g.id = id) ∧
      ∀ head spec, ⟨.collectData head spec, false⟩ ∉ f.visits := by
  have hvisited : ∀ {a : Action}, a ∈ f.everyAction ↔ ∃ v ∈ f.visits, v.action = a := by
    intro a
    rw [← map_action_visits, List.mem_map]
  constructor
  · intro hnone
    refine ⟨?_, ?_, ?_⟩
    · intro head plan body hloop
      obtain ⟨v, hv, haction⟩ := hvisited.mp hloop
      exact (ownErrors_eq_nil_iff.mp (hnone v hv)).2.1 head plan body haction
    · intro head id members hgroup
      obtain ⟨v, hv, haction⟩ := hvisited.mp hgroup
      exact (ownErrors_eq_nil_iff.mp (hnone v hv)).2.2 head id members haction
    · intro head spec hv
      exact Bool.false_ne_true ((ownErrors_eq_nil_iff.mp (hnone _ hv)).1 head spec rfl)
  · rintro ⟨hloops, hgroups, hcollected⟩ ⟨a, inLoop⟩ hv
    refine ownErrors_eq_nil_iff.mpr ⟨?_, ?_, ?_⟩
    · -- where values are collected is told by the visit, not by the action alone
      rintro head spec rfl
      cases inLoop with
      | true => rfl
      | false => exact absurd hv (hcollected head spec)
    · intro head plan body haction
      exact hloops head plan body (hvisited.mpr ⟨_, hv, haction⟩)
    · intro head id members haction
      exact hgroups head id members (hvisited.mpr ⟨_, hv, haction⟩)

/-- An action is visited outside of every loop if it stands there in the list of the form, or in
a group that is not reached inside a loop. -/
theorem mem_visits_false_iff {a : Action} :
    ⟨a, false⟩ ∈ f.visits ↔ Action.Stands f.actions a false ∨
      ∃ g ∈ f.groups, Action.Stands g.actions a false ∧ ¬f.Reaches g.id true := by
  rw [mem_visits_iff]
  refine or_congr Iff.rfl (exists_congr fun g => and_congr_right fun hg => ?_)
  rw [← contains_loopedGroups_iff_reaches hg, Bool.not_eq_true]
  constructor
  · rintro ⟨inLoop, hstands, hflag⟩
    obtain ⟨hlooped, rfl⟩ := Bool.or_eq_false_iff.mp hflag.symm
    exact ⟨hstands, hlooped⟩
  · rintro ⟨hstands, hlooped⟩
    exact ⟨false, hstands, (Bool.or_eq_false_iff.mpr ⟨hlooped, rfl⟩).symm⟩

/-- **The check finds no error just in well-formed forms.** -/
theorem wellFormed_iff : f.WellFormed ↔ f.errors = [] := by
  rw [errors, List.append_eq_nil_iff, List.map_eq_nil_iff, repeats_eq_nil_iff,
    errorsOfVisits_eq_nil_iff, map_action_visits]
  have hnames : (∀ v ∈ f.visits, ∀ name, v.action.Binds name → NamesVariable name) ↔
      ∀ a ∈ f.everyAction, ∀ name, a.Binds name → NamesVariable name := by
    rw [← map_action_visits, List.forall_mem_map]
  constructor
  · intro h
    refine ⟨⟨h.fields, fun _ _ => List.not_mem_nil⟩, ⟨h.actions, fun _ _ => List.not_mem_nil⟩,
      fun v hv => ⟨hnames.mpr h.names v hv, forall_ownErrors_eq_nil_iff.mpr ?_ v hv⟩⟩
    refine ⟨h.loops, h.groups, fun head spec hv => ?_⟩
    rcases mem_visits_false_iff.mp hv with hstands | ⟨g, hg, hstands, hnot⟩
    · exact h.collected head spec hstands
    · exact hnot (h.collectedInGroup head spec g hg hstands)
  · rintro ⟨⟨hfields, -⟩, ⟨hactions, -⟩, hrest⟩
    obtain ⟨hloops, hgroups, hcollected⟩ :=
      forall_ownErrors_eq_nil_iff.mp fun v hv => (hrest v hv).2
    refine ⟨hfields, hactions, hnames.mp fun v hv => (hrest v hv).1, hloops, hgroups, ?_, ?_⟩
    · intro head spec hstands
      exact hcollected head spec (mem_visits_false_iff.mpr (Or.inl hstands))
    · intro head spec g hg hstands
      by_contra hnot
      exact hcollected head spec (mem_visits_false_iff.mpr (Or.inr ⟨g, hg, hstands, hnot⟩))

/-- **As many ids are found twice as there are more actions than ids.** -/
theorem countP_errors : f.errors.countP (·.isDuplicateAction) =
    f.everyAction.length - (f.everyAction.map (·.id)).toFinset.card := by
  have hfields : ((repeats [] (f.fields.map (·.id))).map
      FormError.duplicateField).countP (·.isDuplicateAction) = 0 := by
    rw [List.countP_map, List.countP_eq_zero]
    exact fun _ _ => Bool.false_ne_true
  have hcount := @countP_errorsOfVisits f [] f.visits
  rw [List.toFinset_nil, Finset.sdiff_empty, map_action_visits,
    ← List.length_map (·.action), map_action_visits] at hcount
  rw [errors, List.countP_append, hfields]
  omega

end Check

/-- **What it takes for a form to be without errors.** The check of a form finds no error if and
only if the form is well formed: its fields have different ids, and so have all its actions, all
names that are bound can name variables, every loop has what it runs on, every group that is
referred to exists, and values are collected inside loops only, of the same list or on some way on
which a group is reached, in circles or not.

The check comes to an end since the walk along references enters no group more than twice. And the
ids that it finds used again are as many as there are more actions than ids. -/
theorem errors_eq_nil_iff_wellFormed (f : Form) :
    (f.errors = [] ↔ f.WellFormed) ∧
      f.errors.countP (·.isDuplicateAction) =
        f.everyAction.length - (f.everyAction.map (·.id)).toFinset.card ∧
      (f.follow (Action.referencesIn false f.actions) []).Nodup ∧
      (f.follow (Action.referencesIn false f.actions) []).length ≤ 2 * f.groups.length :=
  ⟨wellFormed_iff.symm, countP_errors, nodup_follow List.nodup_nil, length_follow_le⟩

end Form

end FormChain
