import FormChain.Proofs.Form.References

/-!
# Where actions stand

The check of a form carries what it needs along: a flag for being inside a loop, and a list of
references that were followed. Here the same is said of the form alone. An action *stands* in a
list, inside a loop of that list or outside of every loop (`FormChain.Action.Stands`), and a
group of the form is *reached* through the references that stand in the lists
(`FormChain.Form.Reaches`), inside a loop if there is a loop anywhere on the way.

| carried along by the check | said of the form | theorem |
|---|---|---|
| the actions visited | all actions of the form | `FormChain.Form.map_action_visits` |
| the flag of a visit | where the action stands | `FormChain.Action.mem_visitsOf_iff` |
| the references in a list | the groups that stand in it | `FormChain.Action.mem_referencesIn_iff` |
| the references followed | the groups reached | `FormChain.Form.reaches_iff_refers` |

Unlike `FormChain.Action.Live`, nothing is left out here: what stands in a group that has a name
is visited by the check, though no chain comes to it.
-/

namespace FormChain

namespace Action

/-! ### All actions -/

mutual

/-- An action and all that it holds, the action first. -/
def family : Action → List Action
  | .loop head plan body => .loop head plan body :: familyOf body
  | .group head id members => .group head id members :: familyOf members
  | a => [a]

/-- The actions of a list and all that they hold, in order. -/
def familyOf : List Action → List Action
  | [] => []
  | a :: rest => a.family ++ familyOf rest

end

mutual

/-- The check visits an action and all that it holds. -/
theorem map_action_visitsInside (inLoop : Bool) (a : Action) :
    a :: (a.visitsInside inLoop).map (·.action) = a.family := by
  cases a with
  | loop head plan body => rw [visitsInside, family, map_action_visitsOf true body]
  | group head id members => rw [visitsInside, family, map_action_visitsOf inLoop members]
  | _ => rfl

/-- The check visits the actions of a list and all that they hold, in order. -/
theorem map_action_visitsOf (inLoop : Bool) :
    (as : List Action) → (visitsOf inLoop as).map (·.action) = familyOf as
  | [] => rfl
  | a :: rest => by
    rw [visitsOf, familyOf, List.map_append, List.map_cons, map_action_visitsOf inLoop rest,
      map_action_visitsInside inLoop a]

end

/-! ### Where they stand -/

/-- **An action stands in a list**, among its actions or inside one of them, with a loop of the
list around it or without. -/
inductive Stands : List Action → Action → (inLoop : Bool) → Prop where
  /-- Among the actions of the list. -/
  | here {as : List Action} {a : Action} : a ∈ as → Stands as a false
  /-- In the body of a loop. -/
  | inBody {as body : List Action} {head : Head} {plan : LoopPlan} {a : Action} {inLoop : Bool} :
    .loop head plan body ∈ as → Stands body a inLoop → Stands as a true
  /-- In a group. -/
  | inGroup {as members : List Action} {head : Head} {id : Option String} {a : Action}
    {inLoop : Bool} :
    .group head id members ∈ as → Stands members a inLoop → Stands as a inLoop

variable {as : List Action} {a b : Action} {inLoop : Bool}

/-- What stands in the rest of a list stands in the list. -/
theorem Stands.tail (h : Stands as a inLoop) : Stands (b :: as) a inLoop := by
  cases h with
  | here ha => exact .here (.tail _ ha)
  | inBody hloop h => exact .inBody (.tail _ hloop) h
  | inGroup hgroup h => exact .inGroup (.tail _ hgroup) h

/-- What holds of the actions of a list, and passes on from an action to what it holds, holds of
everything that stands in the list. -/
theorem Stands.of_inside {P : Visit → Prop} (hinside : ∀ {v w : Visit}, P v → w ∈ v.inside → P w)
    {around : Bool} (hlist : ∀ b ∈ as, P ⟨b, around⟩) (h : Stands as a inLoop) :
    P ⟨a, around || inLoop⟩ := by
  induction h generalizing around with
  | here ha =>
    rw [Bool.or_false]
    exact hlist _ ha
  | inBody hloop _ ih =>
    have hbody := ih fun b hb => hinside (hlist _ hloop) (List.mem_map.mpr ⟨b, hb, rfl⟩)
    rw [Bool.or_true]
    rwa [Bool.true_or] at hbody
  | inGroup hgroup _ ih =>
    exact ih fun b hb => hinside (hlist _ hgroup) (List.mem_map.mpr ⟨b, hb, rfl⟩)

mutual

/-- What is visited inside an action stands in every list of the action. -/
theorem stands_of_mem_visitsInside {v : Visit} {around : Bool} {as : List Action} (a : Action)
    (ha : a ∈ as) (hv : v ∈ a.visitsInside around) :
    ∃ inLoop, Stands as v.action inLoop ∧ v.inLoop = (around || inLoop) := by
  cases a with
  | loop head plan body =>
    obtain ⟨inLoop, hstands, hinLoop⟩ := stands_of_mem_visitsOf body hv
    refine ⟨true, .inBody ha hstands, ?_⟩
    rw [hinLoop, Bool.true_or, Bool.or_true]
  | group head id members =>
    obtain ⟨inLoop, hstands, hinLoop⟩ := stands_of_mem_visitsOf members hv
    exact ⟨inLoop, .inGroup ha hstands, hinLoop⟩
  | _ => cases hv

/-- What is visited in a list stands in it. -/
theorem stands_of_mem_visitsOf {v : Visit} {around : Bool} :
    (as : List Action) → v ∈ visitsOf around as →
      ∃ inLoop, Stands as v.action inLoop ∧ v.inLoop = (around || inLoop)
  | b :: rest, hv => by
    rw [visitsOf, List.cons_append] at hv
    rcases List.mem_cons.mp hv with rfl | hv
    · exact ⟨false, .here (.head _), (Bool.or_false _).symm⟩
    · rcases List.mem_append.mp hv with hv | hv
      · exact stands_of_mem_visitsInside b (.head _) hv
      · obtain ⟨inLoop, hstands, hinLoop⟩ := stands_of_mem_visitsOf rest hv
        exact ⟨inLoop, hstands.tail, hinLoop⟩

end

/-- **What the check visits is what stands in the list**, and it takes it to be where it is. -/
theorem mem_visitsOf_iff {around flag : Bool} :
    ⟨a, flag⟩ ∈ visitsOf around as ↔ ∃ inLoop, Stands as a inLoop ∧ flag = (around || inLoop) := by
  constructor
  · exact stands_of_mem_visitsOf as
  · rintro ⟨inLoop, hstands, rfl⟩
    exact hstands.of_inside (mem_visitsOf_of_inside as) fun _ hb => mem_visitsOf as hb

end Action

/-! ### References -/

/-- The reference that a visited action is, if it is one. -/
def Visit.reference? (v : Visit) : Option GroupReference :=
  match v.action with
  | .group _ (some id) _ => some ⟨id, v.inLoop⟩
  | _ => none

namespace Action

variable {as : List Action} {a : Action} {inLoop : Bool}

mutual

/-- The references in an action are the visited actions that are references. -/
theorem references_eq (inLoop : Bool) (a : Action) :
    a.references inLoop = (⟨a, inLoop⟩ :: a.visitsInside inLoop).filterMap (·.reference?) := by
  cases a with
  | loop head plan body => exact referencesIn_eq true body
  | group head id members =>
    rw [references, referencesIn_eq inLoop members]
    cases id <;> rfl
  | _ => rfl

/-- The references in a list are the visited actions that are references. -/
theorem referencesIn_eq (inLoop : Bool) :
    (as : List Action) → referencesIn inLoop as = (visitsOf inLoop as).filterMap (·.reference?)
  | [] => rfl
  | a :: rest => by
    rw [referencesIn, visitsOf, references_eq inLoop a, referencesIn_eq inLoop rest,
      List.filterMap_append]

end

/-- **The references in a list are the groups with a name that stand in it.** -/
theorem mem_referencesIn_iff {around flag : Bool} {id : String} :
    ⟨id, flag⟩ ∈ referencesIn around as ↔ ∃ head members inLoop,
      Stands as (.group head (some id) members) inLoop ∧ flag = (around || inLoop) := by
  rw [referencesIn_eq, List.mem_filterMap]
  constructor
  · rintro ⟨⟨a, flag'⟩, hmem, href⟩
    obtain ⟨inLoop, hstands, rfl⟩ := mem_visitsOf_iff.mp hmem
    cases a with
    | group head id' members =>
      cases id' with
      | none => cases href
      | some id' =>
        obtain ⟨rfl, rfl⟩ := GroupReference.mk.inj (Option.some.inj href)
        exact ⟨head, members, inLoop, hstands, rfl⟩
    | _ => cases href
  · rintro ⟨head, members, inLoop, hstands, rfl⟩
    exact ⟨_, mem_visitsOf_iff.mpr ⟨inLoop, hstands, rfl⟩, rfl⟩

end Action

/-! ### All of a form -/

namespace Form

/-- **All actions of a form**: those of its own list and of all its groups, and all that these
hold. -/
def everyAction (f : Form) : List Action :=
  Action.familyOf f.actions ++ f.groups.flatMap fun g => Action.familyOf g.actions

/-- **A group is reached** through references, from the actions of the form on: inside a loop if
there is a loop anywhere on the way. At each reference it is the first group of that id in which
the way goes on. -/
inductive Reaches (f : Form) : (id : String) → (inLoop : Bool) → Prop where
  /-- It is referred to among the actions of the form. -/
  | direct {id : String} {inLoop : Bool} {head : Head} {members : List Action} :
    Action.Stands f.actions (.group head (some id) members) inLoop → Reaches f id inLoop
  /-- It is referred to in a group that is reached. -/
  | through {id id' : String} {inLoop inLoop' : Bool} {g : ActionGroup} {head : Head}
    {members : List Action} :
    Reaches f id inLoop → f.group? id = some g →
    Action.Stands g.actions (.group head (some id') members) inLoop' →
    Reaches f id' (inLoop || inLoop')

variable {f : Form}

/-- **The check comes to a reference just if the group is reached that way.** -/
theorem reaches_iff_refers {id : String} {inLoop : Bool} :
    f.Reaches id inLoop ↔ f.Refers ⟨id, inLoop⟩ := by
  constructor
  · intro h
    induction h with
    | direct hstands =>
      exact .direct (Action.mem_referencesIn_iff.mpr ⟨_, _, _, hstands, (Bool.false_or _).symm⟩)
    | through _ hg hstands ih =>
      exact .through ih hg (Action.mem_referencesIn_iff.mpr ⟨_, _, _, hstands, rfl⟩)
  · intro h
    generalize hr : (⟨id, inLoop⟩ : GroupReference) = r at h
    induction h generalizing id inLoop with
    | direct hmem =>
      subst hr
      obtain ⟨head, members, inLoop', hstands, rfl⟩ := Action.mem_referencesIn_iff.mp hmem
      exact .direct hstands
    | through _ hg hmem ih =>
      subst hr
      obtain ⟨head, members, inLoop', hstands, rfl⟩ := Action.mem_referencesIn_iff.mp hmem
      exact .through (ih rfl) hg hstands

/-- The check visits all actions of the form, in order. -/
theorem map_action_visits : f.visits.map (·.action) = f.everyAction := by
  rw [visits, everyAction, List.map_append, Action.map_action_visitsOf, List.map_flatMap]
  simp only [Action.map_action_visitsOf]

/-- **What the check visits** stands among the actions of the form, or in one of its groups, and
then it counts as inside a loop where the group does. -/
theorem mem_visits_iff {a : Action} {flag : Bool} :
    ⟨a, flag⟩ ∈ f.visits ↔ Action.Stands f.actions a flag ∨
      ∃ g ∈ f.groups, ∃ inLoop, Action.Stands g.actions a inLoop ∧
        flag = (f.loopedGroups.contains g.id || inLoop) := by
  rw [visits, List.mem_append, List.mem_flatMap]
  refine or_congr ?_ (exists_congr fun g => and_congr_right fun _ => Action.mem_visitsOf_iff)
  rw [Action.mem_visitsOf_iff]
  simp only [Bool.false_or]
  constructor
  · rintro ⟨inLoop, hstands, rfl⟩
    exact hstands
  · exact fun hstands => ⟨flag, hstands, rfl⟩

/-- There is a group of an id if some group has that id. -/
theorem isSome_group?_iff {id : String} :
    (f.group? id).isSome = true ↔ ∃ g ∈ f.groups, g.id = id := by
  rw [group?, List.find?_isSome]
  simp only [beq_iff_eq]

/-- A group of the form counts as inside a loop just if it is reached there. -/
theorem contains_loopedGroups_iff_reaches {g : ActionGroup} (hg : g ∈ f.groups) :
    f.loopedGroups.contains g.id = true ↔ f.Reaches g.id true := by
  obtain ⟨g', hg'⟩ : ∃ g', f.group? g.id = some g' :=
    Option.isSome_iff_exists.mp (isSome_group?_iff.mpr ⟨g, hg, rfl⟩)
  rw [reaches_iff_refers, contains_loopedGroups_iff hg']

end Form

end FormChain
