import FormChain.Proofs.Chain.Nesting
import FormChain.Proofs.Form.References
import Mathlib.Data.List.Perm.Subperm
import Mathlib.Logic.Relation

/-!
# How deep acyclic forms go

Lists are carried out to some depth, which is there for groups that refer to each other in a
circle. A form without such circles does not need it: on the way down every group is entered
at most once, and between two groups the lists are nested no deeper than they are written.

The bookkeeping is a *path*, the ids of the groups entered so far. As long as no group names
one from which it was come to, the path has no repetitions, so it is no longer than there are
groups (`FormChain.Form.length_le_of_nodup`). What is left of the depth is a whole height for
every group not on the path, and the height of the list at hand
(`FormChain.Chain.nestedBelow_of_named`).

Main statements: the lists of an acyclic form are nested less than the depth to which they
are carried out (`FormChain.Chain.nestedBelow_depthOf`), and lists that are so never end for
being nested too deep (`FormChain.Chain.Happens.ne_tooDeep`).
-/

namespace FormChain

/-! ### Circles -/

/-- **A group is named in a list**: its name stands live there. Whether it does so inside a
loop does not matter here. -/
def Action.Names (actions : List Action) (id : String) : Prop :=
  ∃ head members, Action.Live true actions ⟨.group head (some id) members, true⟩

namespace Form

/-- **A group calls another** by a name among its actions. -/
def Calls (f : Form) (id id' : String) : Prop :=
  ∃ g, f.group? id = some g ∧ Action.Names g.actions id'

/-- **Groups do not go round in circles**: none calls itself, directly or through others. -/
def Acyclic (f : Form) : Prop :=
  ∀ id, ¬ Relation.TransGen f.Calls id id

/-- A path without repetitions that goes through groups of the form is no longer than there are
groups. -/
theorem length_le_of_nodup {f : Form} {path : List String} (hnodup : path.Nodup)
    (hgroups : ∀ id ∈ path, ∃ g, f.group? id = some g) : path.length ≤ f.groups.length := by
  have hsub : path ⊆ f.groups.map (·.id) := by
    intro id hid
    obtain ⟨g, hg⟩ := hgroups id hid
    have hgid : g.id = id := by simpa using List.find?_some hg
    exact List.mem_map.mpr ⟨g, List.mem_of_find?_eq_some hg, hgid⟩
  have hle := (List.subperm_of_subset hnodup hsub).length_le
  rwa [List.length_map] at hle

end Form

/-! ### Heights -/

/-- An action is no higher than the list in which it is. -/
theorem Action.height_le {a : Action} {actions : List Action} (h : a ∈ actions) :
    a.height ≤ Action.listHeight actions := by
  induction actions with
  | nil => cases h
  | cons b rest ih =>
    rw [Action.listHeight]
    rcases List.mem_cons.mp h with rfl | h
    · exact Nat.le_max_left ..
    · exact Nat.le_trans (ih h) (Nat.le_max_right ..)

namespace Chain

/-- The greatest of some heights is no less than that it starts from, and no less than any. -/
theorem le_foldl_height (groups : List ActionGroup) (least : Nat) :
    let most := groups.foldl (fun h g => max h (Action.listHeight g.actions)) least
    least ≤ most ∧ ∀ g ∈ groups, Action.listHeight g.actions ≤ most := by
  induction groups generalizing least with
  | nil => exact ⟨Nat.le_refl _, nofun⟩
  | cons g rest ih =>
    obtain ⟨hstart, hrest⟩ := ih (max least (Action.listHeight g.actions))
    refine ⟨Nat.le_trans (Nat.le_max_left ..) hstart, fun g' hg' => ?_⟩
    rcases List.mem_cons.mp hg' with rfl | hg'
    · exact Nat.le_trans (Nat.le_max_right ..) hstart
    · exact hrest g' hg'

theorem listHeight_le_heightOf (f : Form) : Action.listHeight f.actions ≤ heightOf f :=
  (le_foldl_height f.groups _).1

theorem listHeight_le_of_group? {f : Form} {id : String} {g : ActionGroup}
    (h : f.group? id = some g) : Action.listHeight g.actions ≤ heightOf f :=
  (le_foldl_height f.groups _).2 g (List.mem_of_find?_eq_some h)

/-! ### The depth that suffices -/

/-- **The lists of an acyclic form are nested less than some depth**, in a list that a path of
groups has led to, where there is a height for each group that is not on the path. -/
theorem nestedBelow_of_named {f : Form} (hacyclic : f.Acyclic) {depth : Nat} {path : List String}
    {actions : List Action} (hnodup : path.Nodup)
    (hgroups : ∀ id ∈ path, ∃ g, f.group? id = some g)
    (hnamed : ∀ id', Action.Names actions id' → ∀ id ∈ path, Relation.TransGen f.Calls id id')
    (hdepth : (f.groups.length - path.length) * (heightOf f + 1) + Action.listHeight actions <
      depth) :
    NestedBelow f depth actions := by
  induction depth generalizing path actions with
  | zero => omega
  | succ depth ih =>
    intro a ha inner hinner
    have hheight : a.height ≤ Action.listHeight actions := Action.height_le ha
    cases a with
    | loop head plan body =>
      obtain rfl : body = inner := Option.some.inj hinner
      rw [Action.height] at hheight
      refine ih hnodup hgroups (fun id' hid' => hnamed id' ?_) (by omega)
      obtain ⟨head', members, hlive⟩ := hid'
      exact ⟨head', members, .inBody ha hlive⟩
    | group head id? members =>
      rw [Action.height] at hheight
      cases id? with
      | none =>
        obtain rfl : members = inner := Option.some.inj hinner
        refine ih hnodup hgroups (fun id' hid' => hnamed id' ?_) (by omega)
        obtain ⟨head', members', hlive⟩ := hid'
        exact ⟨head', members', .inGroup ha hlive⟩
      | some id =>
        have hcalled : ∀ id₀ ∈ path, Relation.TransGen f.Calls id₀ id :=
          hnamed id ⟨head, members, .here ha⟩
        simp only [inner?, membersOf] at hinner
        cases hg : f.group? id with
        | none =>
          rw [hg] at hinner
          cases hinner
        | some g =>
          rw [hg] at hinner
          obtain rfl : g.actions = inner := Option.some.inj hinner
          -- the group is not on the path, from which it is called
          have hnodup' : (id :: path).Nodup :=
            List.nodup_cons.mpr ⟨fun hmem => hacyclic id (hcalled id hmem), hnodup⟩
          have hgroups' : ∀ id₀ ∈ id :: path, ∃ g, f.group? id₀ = some g :=
            List.forall_mem_cons.mpr ⟨⟨g, hg⟩, hgroups⟩
          refine ih hnodup' hgroups' (fun id' hid' => List.forall_mem_cons.mpr ?_) ?_
          · have hcalls : f.Calls id id' := ⟨g, hg, hid'⟩
            exact ⟨.single hcalls, fun id₀ hid₀ => .tail (hcalled id₀ hid₀) hcalls⟩
          · have hlength := Form.length_le_of_nodup hnodup' hgroups'
            have hlow := listHeight_le_of_group? hg
            rw [List.length_cons] at hlength ⊢
            -- one height is used up for the group
            obtain ⟨k, hk⟩ : ∃ k, f.groups.length - path.length = k + 1 :=
              ⟨f.groups.length - path.length - 1, by omega⟩
            have hk' : f.groups.length - (path.length + 1) = k := by omega
            rw [hk, Nat.succ_mul] at hdepth
            rw [hk']
            omega
    | _ => cases hinner

/-- **The lists of an acyclic form are nested less than the depth to which they are carried
out.** -/
theorem nestedBelow_depthOf {f : Form} (hacyclic : f.Acyclic) (circles : Nat) :
    NestedBelow f (depthOf f circles) f.actions := by
  refine nestedBelow_of_named hacyclic .nil nofun nofun ?_
  have hheight := listHeight_le_heightOf f
  have hdepth : depthOf f circles =
      f.groups.length * (heightOf f + 1) + (heightOf f + 1) + circles := by
    rw [depthOf, Nat.succ_mul]
  rw [hdepth, List.length_nil, Nat.sub_zero]
  omega

/-! ### Never too deep -/

/-- **A task whose lists are nested less than its depth.** -/
def Task.Nested (f : Form) : Task → Prop
  | .list depth _ actions => NestedBelow f depth actions
  | .attempts depth _ a _ _ => ∀ inner, inner? f a = some inner → NestedBelow f depth inner
  | .effect depth _ a => ∀ inner, inner? f a = some inner → NestedBelow f depth inner
  | .iterations depth _ _ body _ _ => NestedBelow f depth body

/-- No verdict is that lists are nested too deep, unless the attempt has come to that. -/
theorem ne_tooDeep_of_verdict {strategy : Recovery} {left : Nat} {a : Action}
    {r r' : Except Failure Flow} (h : verdict strategy left a r = some r')
    (hr : r ≠ .error (.chain .tooDeep)) : r' ≠ .error (.chain .tooDeep) := by
  rintro rfl
  unfold verdict at h
  split at h
  · cases h
  · obtain rfl := Failure.chain.inj (Except.error.inj (Option.some.inj h))
    exact hr rfl
  · cases h
  · split at h <;> cases h

/-- What remains of lists that are nested less than some depth. -/
theorem nestedBelow_tail {f : Form} {depth : Nat} {a : Action} {rest : List Action}
    (h : NestedBelow f (depth + 1) (a :: rest)) : NestedBelow f (depth + 1) rest :=
  fun b hb => h b (.tail _ hb)

/-- **Where lists are nested less than the depth, no chain ends for being nested too
deep.** -/
theorem Happens.ne_tooDeep {s : ChainSetting} {t : Task} {st st' : ChainState} {es : List Event}
    {r : Except Failure Flow} (h : Happens s t st es r st') (hnested : t.Nested s.form) :
    r ≠ .error (.chain .tooDeep) := by
  induction h with
  | tooDeep => exact hnested.elim
  | passedOver _ _ _ _ ih => exact ih (nestedBelow_tail hnested)
  | listLeft _ _ _ _ _ ih => exact ih (hnested _ (.head _))
  | listWentOn _ _ _ _ _ _ ih => exact ih (nestedBelow_tail hnested)
  | attemptSettled _ _ _ hv ih => exact ne_tooDeep_of_verdict hv (ih hnested)
  | triedAgain _ _ _ _ _ _ _ _ ih => exact ih hnested
  | waited => split <;> simp
  | grouped hm _ ih => exact ih (hnested _ (by rw [inner?, hm]))
  | looped _ _ _ ih => exact ih (hnested _ rfl)
  | bodyFailed _ _ _ _ _ ih => exact ih hnested
  | bodyWentOn _ _ _ _ _ _ _ ih => exact ih hnested
  | _ => simp

end Chain

end FormChain
