import FormChain.Proofs.Form.Visits

/-!
# Which groups are referred to, and how

Whether a group stands inside a loop is not to be seen from the group: it stands wherever
it is referred to. There are two readings of a form, and this file relates them.

* The **check** follows references from group to group, and notes for each whether there
  was a loop on the way. It follows every reference that is written down
  (`FormChain.Form.Refers`), also those among the members that a group has besides a name.
  The search that does so is a worklist with a list of what was followed; it finds what
  there is to be found and nothing else (`FormChain.Form.contains_loopedGroups_iff`).
* A **chain** comes to fewer places. A group that has a name stands for the group of that
  name, so the members written into it are dead; what is left is what stands live in a
  list (`FormChain.Action.Live`), and the groups that a chain can come to, inside a loop or
  outside of every loop (`FormChain.Form.Enters`).

A group may be entered both ways. The check counts it as a loop body as soon as one
reference is found inside a loop, so of such a group it cannot say where its members stand:
these are the groups that are *entered outside and referred to inside*
(`FormChain.Form.Straddles`).
-/

namespace FormChain

/-! ### What stands live -/

/-- **What stands live in a list** that is inside a loop or not: all but the members of
groups that have a name. -/
inductive Action.Live : (inLoop : Bool) → List Action → Visit → Prop where
  /-- An action of the list. -/
  | here {inLoop : Bool} {actions : List Action} {a : Action} :
    a ∈ actions → Live inLoop actions ⟨a, inLoop⟩
  /-- What stands live in the body of a loop, which is inside a loop. -/
  | inBody {inLoop : Bool} {actions body : List Action} {head : Head} {plan : LoopPlan}
    {v : Visit} :
    .loop head plan body ∈ actions → Live true body v → Live inLoop actions v
  /-- What stands live in a group without a name, which is where the group is. -/
  | inGroup {inLoop : Bool} {actions members : List Action} {head : Head} {v : Visit} :
    .group head none members ∈ actions → Live inLoop members v → Live inLoop actions v

namespace Action

variable {inLoop : Bool} {actions : List Action} {v : Visit} {a : Action}

/-- What holds of the actions of a list, and passes on from an action to what it holds, holds
of everything that stands live in the list. -/
theorem Live.of_inside {P : Visit → Prop} (hinside : ∀ {v w : Visit}, P v → w ∈ v.inside → P w)
    (hlist : ∀ a ∈ actions, P ⟨a, inLoop⟩) (h : Live inLoop actions v) : P v := by
  induction h with
  | here ha => exact hlist _ ha
  | inBody hloop _ ih =>
    exact ih fun a ha => hinside (hlist _ hloop) (List.mem_map.mpr ⟨a, ha, rfl⟩)
  | inGroup hgroup _ ih =>
    exact ih fun a ha => hinside (hlist _ hgroup) (List.mem_map.mpr ⟨a, ha, rfl⟩)

/-- **The check visits what stands live**, and takes it to be where it is. -/
theorem Live.mem_visitsOf (h : Live inLoop actions v) : v ∈ visitsOf inLoop actions :=
  h.of_inside (mem_visitsOf_of_inside actions) fun _ ha => Action.mem_visitsOf actions ha

/-- The members of a live group without a name are live, where the group is. -/
theorem Live.member {head : Head} {members : List Action} {inLoop' : Bool}
    (h : Live inLoop actions ⟨.group head none members, inLoop'⟩) (ha : a ∈ members) :
    Live inLoop actions ⟨a, inLoop'⟩ := by
  generalize hv : (⟨.group head none members, inLoop'⟩ : Visit) = v at h
  induction h with
  | here hgroup =>
    obtain ⟨rfl, rfl⟩ := Visit.mk.inj hv
    exact .inGroup hgroup (.here ha)
  | inBody hloop _ ih => exact .inBody hloop (ih hv)
  | inGroup hgroup _ ih => exact .inGroup hgroup (ih hv)

end Action

namespace Form

variable {f : Form}

/-! ### What the check follows -/

/-- **A reference that the check comes to**, on any way that starts at the actions of the
form. -/
inductive Refers (f : Form) : GroupReference → Prop where
  /-- It is among the actions of the form. -/
  | direct {r : GroupReference} : r ∈ Action.referencesIn false f.actions → Refers f r
  /-- It is in a group that is referred to, and inside a loop if that reference is. -/
  | through {q r : GroupReference} {g : ActionGroup} :
    Refers f q → f.group? q.group = some g → r ∈ Action.referencesIn q.inLoop g.actions →
    Refers f r

/-- The references in a group that was followed are followed as well, are still to be
followed, or lead nowhere. This is what the search keeps up, `seen` being what was followed
and `pending` what is to be. -/
def Pursued (f : Form) (pending seen : List GroupReference) : Prop :=
  ∀ q ∈ seen, ∀ g, f.group? q.group = some g → ∀ r ∈ Action.referencesIn q.inLoop g.actions,
    r ∈ seen ∨ r ∈ pending ∨ f.group? r.group = none

section Search

variable {pending seen : List GroupReference} {r : GroupReference} {g : ActionGroup}

/-- **The search finds only what is there.** -/
theorem refers_of_mem_follow (hpending : ∀ q ∈ pending, f.Refers q)
    (hseen : ∀ q ∈ seen, f.Refers q) (h : r ∈ f.follow pending seen) : f.Refers r := by
  fun_induction follow f pending seen with
  | case1 seen => exact hseen r h
  | case2 seen q rest _ ih => exact ih (fun p hp => hpending p (.tail _ hp)) hseen h
  | case3 seen q rest _ _ ih => exact ih (fun p hp => hpending p (.tail _ hp)) hseen h
  | case4 seen q rest _ g hg ih =>
    have hq : f.Refers q := hpending q (.head _)
    refine ih ?_ ?_ h
    · rintro p hp
      rcases List.mem_append.mp hp with hp | hp
      · exact .through hq hg hp
      · exact hpending p (.tail _ hp)
    · rintro p (_ | ⟨_, hp⟩)
      · exact hq
      · exact hseen p hp

/-- What was followed stays followed. -/
theorem mem_follow_of_seen (h : r ∈ seen) : r ∈ f.follow pending seen := by
  fun_induction follow f pending seen with
  | case1 => exact h
  | case2 _ _ _ _ ih => exact ih h
  | case3 _ _ _ _ _ ih => exact ih h
  | case4 _ _ _ _ _ _ ih => exact ih (.tail _ h)

/-- What is to be followed and leads to a group will be followed. -/
theorem mem_follow_of_pending (hg : f.group? r.group = some g) (h : r ∈ pending) :
    r ∈ f.follow pending seen := by
  fun_induction follow f pending seen with
  | case1 => cases h
  | case2 seen q rest hq ih =>
    rcases List.mem_cons.mp h with rfl | h
    · exact mem_follow_of_seen hq
    · exact ih h
  | case3 seen q rest _ hnone ih =>
    rcases List.mem_cons.mp h with rfl | h
    · rw [hg] at hnone
      cases hnone
    · exact ih h
  | case4 seen q rest _ g' _ ih =>
    rcases List.mem_cons.mp h with rfl | h
    · exact mem_follow_of_seen (.head _)
    · exact ih (List.mem_append_right _ h)

/-- A reference that was followed already, or that leads nowhere, need not be followed. -/
theorem Pursued.tail {q : GroupReference} (h : f.Pursued (q :: pending) seen)
    (hq : q ∈ seen ∨ f.group? q.group = none) : f.Pursued pending seen := by
  intro p hp g hg r hr
  rcases h p hp g hg r hr with hseen | hpending | hnone
  · exact Or.inl hseen
  · rcases List.mem_cons.mp hpending with rfl | hrest
    · exact hq.imp_right Or.inr
    · exact Or.inr (Or.inl hrest)
  · exact Or.inr (Or.inr hnone)

/-- A reference is followed when what is in its group is to be followed. -/
theorem Pursued.enter {q : GroupReference} (h : f.Pursued (q :: pending) seen)
    (hg : f.group? q.group = some g) :
    f.Pursued (Action.referencesIn q.inLoop g.actions ++ pending) (q :: seen) := by
  intro p hp g' hg' r hr
  rcases List.mem_cons.mp hp with rfl | hp
  · obtain rfl : g = g' := Option.some.inj (hg.symm.trans hg')
    exact Or.inr (Or.inl (List.mem_append_left _ hr))
  · rcases h p hp g' hg' r hr with hseen | hpending | hnone
    · exact Or.inl (.tail _ hseen)
    · rcases List.mem_cons.mp hpending with rfl | hrest
      · exact Or.inl (.head _)
      · exact Or.inr (Or.inl (List.mem_append_right _ hrest))
    · exact Or.inr (Or.inr hnone)

/-- **The search stops nowhere on the way**: behind it, the references in a group that was
followed are followed, or lead nowhere. -/
theorem pursued_follow (h : f.Pursued pending seen) : f.Pursued [] (f.follow pending seen) := by
  fun_induction follow f pending seen with
  | case1 => exact h
  | case2 seen q rest hq ih => exact ih (h.tail (Or.inl hq))
  | case3 seen q rest _ hnowhere ih => exact ih (h.tail (Or.inr hnowhere))
  | case4 seen q rest _ g hg ih => exact ih (h.enter hg)

/-- **The search finds what there is**: the references that lead to a group. -/
theorem mem_follow_iff (hg : f.group? r.group = some g) :
    r ∈ f.follow (Action.referencesIn false f.actions) [] ↔ f.Refers r := by
  constructor
  · exact refers_of_mem_follow (fun _ hq => .direct hq) nofun
  · intro h
    induction h generalizing g with
    | direct hr => exact mem_follow_of_pending hg hr
    | through hq hg' hr ih =>
      have hpursued : f.Pursued [] (f.follow (Action.referencesIn false f.actions) []) :=
        pursued_follow nofun
      rcases hpursued _ (ih hg') _ hg' _ hr with hfound | hpending | hnone
      · exact hfound
      · cases hpending
      · rw [hg] at hnone
        cases hnone

end Search

/-- **The check counts a group as a loop body** just if it comes to a reference to it inside
a loop. -/
theorem contains_loopedGroups_iff {id : String} {g : ActionGroup} (hg : f.group? id = some g) :
    f.loopedGroups.contains id = true ↔ f.Refers ⟨id, true⟩ := by
  rw [← mem_follow_iff hg, loopedGroups, List.contains_iff_mem, List.mem_map]
  constructor
  · rintro ⟨⟨id', inLoop⟩, hmem, rfl⟩
    obtain ⟨hfound, rfl : inLoop = true⟩ := List.mem_filter.mp hmem
    exact hfound
  · intro hfound
    exact ⟨_, List.mem_filter.mpr ⟨hfound, rfl⟩, rfl⟩

/-! ### Where chains come to -/

/-- **A group that a chain can come to**, inside a loop or outside of every loop. -/
inductive Enters (f : Form) : (id : String) → (inLoop : Bool) → Prop where
  /-- Its name stands live among the actions of the form. -/
  | direct {id : String} {inLoop : Bool} {head : Head} {members : List Action} :
    Action.Live false f.actions ⟨.group head (some id) members, inLoop⟩ → Enters f id inLoop
  /-- Its name stands live in a group that a chain can come to. -/
  | through {id id' : String} {inLoop inLoop' : Bool} {g : ActionGroup} {head : Head}
    {members : List Action} :
    Enters f id inLoop → f.group? id = some g →
    Action.Live inLoop g.actions ⟨.group head (some id') members, inLoop'⟩ → Enters f id' inLoop'

/-- **What stands outside of every loop**, on some way on which a chain can come to it. -/
inductive Outside (f : Form) (a : Action) : Prop where
  /-- Among the actions of the form. -/
  | direct : Action.Live false f.actions ⟨a, false⟩ → Outside f a
  /-- In a group that a chain comes to outside of every loop. -/
  | through {id : String} {g : ActionGroup} :
    f.Enters id false → f.group? id = some g → Action.Live false g.actions ⟨a, false⟩ →
    Outside f a

/-- **A group on both sides**: a chain can come to it outside of every loop, and the check
comes to a reference to it inside a loop. -/
structure Straddles (f : Form) (id : String) : Prop where
  /-- Chains come to it outside of every loop. -/
  outside : f.Enters id false
  /-- The check comes to it inside a loop. -/
  inside : f.Refers ⟨id, true⟩

/-- The members of a group without a name stand outside of every loop if the group does. -/
theorem Outside.member {head : Head} {members : List Action} {a : Action}
    (h : f.Outside (.group head none members)) (ha : a ∈ members) : f.Outside a := by
  cases h with
  | direct h => exact .direct (h.member ha)
  | through hid hg h => exact .through hid hg (h.member ha)

/-- So do the members of the group that a group refers to. -/
theorem Outside.named {head : Head} {id : String} {members : List Action} {g : ActionGroup}
    {a : Action} (h : f.Outside (.group head (some id) members)) (hg : f.group? id = some g)
    (ha : a ∈ g.actions) : f.Outside a := by
  cases h with
  | direct h => exact .through (.direct h) hg (.here ha)
  | through hid' hg' h => exact .through (.through hid' hg' h) hg (.here ha)

/-- **In a form without errors, values are collected outside of every loop only in groups on
both sides.** -/
theorem Outside.straddles {head : Head} {spec : Collect} (hchecked : f.errors = [])
    (h : f.Outside (.collectData head spec)) :
    ∃ id g, f.group? id = some g ∧ f.Straddles id ∧
      Action.Live false g.actions ⟨.collectData head spec, false⟩ := by
  -- what the check takes to be outside of every loop is an error
  have hvisit : (⟨.collectData head spec, false⟩ : Visit) ∉ f.visits := by
    intro hv
    have hown := ownErrors_eq_nil hchecked hv
    cases hown
  cases h with
  | direct hlive => exact absurd (List.mem_append_left _ hlive.mem_visitsOf) hvisit
  | @through id g hid hg hlive =>
    refine ⟨id, g, hg, ⟨hid, ?_⟩, hlive⟩
    have hgid : g.id = id := by simpa using List.find?_some hg
    rw [← contains_loopedGroups_iff hg]
    cases hlooped : f.loopedGroups.contains id with
    | true => rfl
    | false =>
      refine absurd (List.mem_append_right _ (List.mem_flatMap.mpr ⟨g, ?_, ?_⟩)) hvisit
      · exact List.mem_of_find?_eq_some hg
      · rw [hgid, hlooped]
        exact hlive.mem_visitsOf

end Form

end FormChain
