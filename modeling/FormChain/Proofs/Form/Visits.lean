import FormChain.Form.Validation

/-!
# What the check of a form comes to

The check visits the actions of a form and of its groups, and those inside them. Nothing is
left out: with an action it visits whatever the action holds
(`FormChain.Form.mem_visits_of_inside`), and the members of every group that can be referred
to (`FormChain.Form.mem_visits_of_group?`). Where it finds no error, none of the actions
visited is wrong for its type (`FormChain.Form.ownErrors_eq_nil`).
-/

namespace FormChain

/-- What an action holds, as the check visits it: the body of a loop is inside a loop, and
the members of a group are where the group is. -/
def Visit.inside (v : Visit) : List Visit :=
  match v.action with
  | .loop _ _ body => body.map (⟨·, true⟩)
  | .group _ _ members => members.map (⟨·, v.inLoop⟩)
  | _ => []

namespace Action

/-- The actions of a list are visited. -/
theorem mem_visitsOf {inLoop : Bool} {a : Action} :
    (actions : List Action) → a ∈ actions → ⟨a, inLoop⟩ ∈ visitsOf inLoop actions
  | b :: rest, h => by
    rw [visitsOf]
    rcases List.mem_cons.mp h with rfl | h
    · exact List.mem_append_left _ List.mem_cons_self
    · exact List.mem_append_right _ (mem_visitsOf rest h)

/-- What is visited in a list is one of its actions, or visited inside one. -/
theorem exists_of_mem_visitsOf {inLoop : Bool} {u : Visit} {as : List Action}
    (h : u ∈ visitsOf inLoop as) : ∃ a ∈ as, u = ⟨a, inLoop⟩ ∨ u ∈ a.visitsInside inLoop := by
  induction as with
  | nil => cases h
  | cons a rest ih =>
    rw [visitsOf, List.cons_append] at h
    rcases List.mem_cons.mp h with rfl | h
    · exact ⟨a, List.mem_cons_self, Or.inl rfl⟩
    · rcases List.mem_append.mp h with h | h
      · exact ⟨a, List.mem_cons_self, Or.inr h⟩
      · obtain ⟨b, hb, hu⟩ := ih h
        exact ⟨b, List.mem_cons_of_mem _ hb, hu⟩

/-- What is visited inside an action is visited in the list that it holds. -/
theorem exists_children_of_mem_visitsInside {inLoop : Bool} {u : Visit} {a : Action}
    (h : u ∈ a.visitsInside inLoop) :
    ∃ body inLoop', a.children? = some body ∧ u ∈ visitsOf inLoop' body := by
  cases a with
  | loop _ _ body => exact ⟨body, true, rfl, h⟩
  | group _ _ members => exact ⟨members, inLoop, rfl, h⟩
  | _ => cases h

mutual

/-- **What a visited action holds is visited**, inside an action. -/
theorem mem_visitsInside_of_inside {inLoop : Bool} {v w : Visit} :
    (a : Action) → v ∈ a.visitsInside inLoop → w ∈ v.inside → w ∈ a.visitsInside inLoop
  | a, hv, hw => by
    cases a with
    | loop _ _ body => exact mem_visitsOf_of_inside body hv hw
    | group _ _ members => exact mem_visitsOf_of_inside members hv hw
    | _ => cases hv

/-- **What a visited action holds is visited**, in a list. -/
theorem mem_visitsOf_of_inside {inLoop : Bool} {v w : Visit} :
    (actions : List Action) → v ∈ visitsOf inLoop actions → w ∈ v.inside →
      w ∈ visitsOf inLoop actions
  | a :: rest, hv, hw => by
    rw [visitsOf, List.cons_append] at hv ⊢
    refine List.mem_cons_of_mem _ (List.mem_append.mpr ?_)
    rcases List.mem_cons.mp hv with rfl | hv
    · -- the action itself holds what is visited inside it first of all
      refine Or.inl ?_
      cases a with
      | loop _ _ body =>
        obtain ⟨c, hc, rfl⟩ := List.mem_map.mp hw
        exact mem_visitsOf body hc
      | group _ _ members =>
        obtain ⟨c, hc, rfl⟩ := List.mem_map.mp hw
        exact mem_visitsOf members hc
      | _ => cases hw
    · rcases List.mem_append.mp hv with hv | hv
      · exact Or.inl (mem_visitsInside_of_inside a hv hw)
      · exact Or.inr (mem_visitsOf_of_inside rest hv hw)

end

end Action

namespace Form

variable {f : Form} {v w : Visit}

/-- The actions of a form are visited. -/
theorem mem_visits {a : Action} (h : a ∈ f.actions) : ⟨a, false⟩ ∈ f.visits :=
  List.mem_append_left _ (Action.mem_visitsOf _ h)

/-- **What a visited action holds is visited.** -/
theorem mem_visits_of_inside (hv : v ∈ f.visits) (hw : w ∈ v.inside) : w ∈ f.visits := by
  rcases List.mem_append.mp hv with hv | hv
  · exact List.mem_append_left _ (Action.mem_visitsOf_of_inside _ hv hw)
  · obtain ⟨g, hg, hv⟩ := List.mem_flatMap.mp hv
    exact List.mem_append_right _
      (List.mem_flatMap.mpr ⟨g, hg, Action.mem_visitsOf_of_inside _ hv hw⟩)

/-- **The members of a group that can be referred to are visited.** -/
theorem mem_visits_of_group? {id : String} {g : ActionGroup} {a : Action}
    (hg : f.group? id = some g) (ha : a ∈ g.actions) :
    ⟨a, f.loopedGroups.contains g.id⟩ ∈ f.visits :=
  List.mem_append_right _
    (List.mem_flatMap.mpr ⟨g, List.mem_of_find?_eq_some hg, Action.mem_visitsOf _ ha⟩)

theorem visitErrors_of_errorsOfVisits :
    {earlier : List String} → (vs : List Visit) → f.errorsOfVisits earlier vs = [] → v ∈ vs →
      ∃ earlier', f.visitErrors earlier' v = []
  | earlier, u :: rest, h, hv => by
    obtain ⟨hu, hrest⟩ := List.append_eq_nil_iff.mp h
    rcases List.mem_cons.mp hv with rfl | hv
    · exact ⟨earlier, hu⟩
    · exact visitErrors_of_errorsOfVisits rest hrest hv

/-- **Where the check finds no error**, no visited action is wrong for its type. -/
theorem ownErrors_eq_nil (h : f.errors = []) (hv : v ∈ f.visits) : f.ownErrors v = [] := by
  obtain ⟨earlier, hnone⟩ :=
    visitErrors_of_errorsOfVisits f.visits (List.append_eq_nil_iff.mp h).2 hv
  exact (List.append_eq_nil_iff.mp hnone).2

end Form

end FormChain
