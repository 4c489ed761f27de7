import FormChain.Form.Basic
import FormChain.Form.VariableName

/-!
# Checking forms

What can be said against a form before it is submitted: ids used twice, references to
groups that do not exist, names that no variable can have, values collected outside of
every loop, loops without what drives them; and, less gravely, loops and groups that do
nothing.

The check visits every action of the form once: those of the form, then those of its
groups, each before the actions inside it. A group counts as being inside a loop when it
is referred to, directly or through other groups, from inside a loop
(`Form.loopedGroups`); references may go round in circles.
-/

namespace FormChain

/-! ### Findings -/

/-- What makes a submission fail. -/
inductive FormError where
  /-- Two actions have one id. -/
  | duplicateAction (id : String)
  /-- Two fields have one id. -/
  | duplicateField (id : String)
  /-- An action refers to a group that does not exist. -/
  | unknownGroup (action group : String)
  /-- An action writes a variable of an impossible name. -/
  | badVariable (action name : String)
  /-- A value is collected outside of every loop. -/
  | collectOutsideLoop (action : String)
  /-- A loop lacks what drives it. -/
  | loopWithoutSource (action : String) (kind : LoopKind)
  deriving DecidableEq, Repr

/-- What does no harm but has no effect. -/
inductive FormWarning where
  /-- A loop without actions. -/
  | emptyLoop (action : String)
  /-- A group without actions. -/
  | emptyGroup (action : String)
  deriving DecidableEq, Repr

/-- A text in single quotes. -/
def inQuotes (s : String) : String := "'" ++ s ++ "'"

/-- The wording of an error. -/
def FormError.message : FormError → String
  | duplicateAction id => "[F001] Action id " ++ inQuotes id ++ " is used more than once"
  | duplicateField id => "[F002] Field id " ++ inQuotes id ++ " is used more than once"
  | unknownGroup action group =>
    "[F003] Action " ++ inQuotes action ++ " references unknown action group " ++
      inQuotes group
  | badVariable action name =>
    "[F004] Action " ++ inQuotes action ++ " uses invalid variable name " ++ inQuotes name
  | collectOutsideLoop action =>
    "[F005] Collect-data action " ++ inQuotes action ++ " must be placed inside a loop"
  | loopWithoutSource action kind =>
    "[F006] Loop " ++ inQuotes action ++ " of type " ++ inQuotes (Spelled.word kind) ++
      " has no data source"

/-- The wording of a warning. -/
def FormWarning.message : FormWarning → String
  | emptyLoop action => "[W001] Loop " ++ inQuotes action ++ " has no actions"
  | emptyGroup action => "[W002] Group " ++ inQuotes action ++ " has no actions"

/-! ### Groups inside loops -/

/-- A reference to a group, and whether it stands inside a loop. -/
structure GroupReference where
  /-- The id referred to. -/
  group : String
  /-- Whether the reference stands inside a loop. -/
  inLoop : Bool
  deriving DecidableEq, Repr

mutual

/-- The references in an action, in order. -/
def Action.references (inLoop : Bool) : Action → List GroupReference
  | .loop _ _ body => Action.referencesIn true body
  | .group _ groupId members =>
    groupId.toList.map (⟨·, inLoop⟩) ++ Action.referencesIn inLoop members
  | _ => []

/-- The references in a list of actions, in order. -/
def Action.referencesIn (inLoop : Bool) : List Action → List GroupReference
  | [] => []
  | a :: rest => a.references inLoop ++ Action.referencesIn inLoop rest

end

namespace Form

/-- All references that name a group of the form. -/
def allReferences (f : Form) : List GroupReference :=
  f.groups.flatMap fun g => [⟨g.id, false⟩, ⟨g.id, true⟩]

/-- A reference that finds a group is one of all. -/
theorem mem_allReferences {f : Form} {r : GroupReference} {g : ActionGroup}
    (h : f.group? r.group = some g) : r ∈ f.allReferences := by
  have hid : g.id = r.group := by simpa using List.find?_some h
  have hg : g ∈ f.groups := List.mem_of_find?_eq_some h
  obtain ⟨id, b⟩ := r
  simp only at hid
  refine List.mem_flatMap.2 ⟨g, hg, ?_⟩
  cases b <;> simp [hid]

/-- How many references are still to be followed. -/
def unfollowed (f : Form) (seen : List GroupReference) : Nat :=
  (f.allReferences.filter fun r => !seen.contains r).length

/-- Following one more reference leaves fewer. -/
theorem unfollowed_cons_lt {f : Form} {seen : List GroupReference} {r : GroupReference}
    {g : ActionGroup} (h : f.group? r.group = some g) (hr : r ∉ seen) :
    f.unfollowed (r :: seen) < f.unfollowed seen := by
  have hmem := mem_allReferences h
  unfold unfollowed
  generalize f.allReferences = all at hmem
  induction all with
  | nil => cases hmem
  | cons x xs ih =>
    have hle : (xs.filter fun y => !(r :: seen).contains y).length ≤
        (xs.filter fun y => !seen.contains y).length := by
      rw [← List.countP_eq_length_filter, ← List.countP_eq_length_filter]
      refine List.countP_mono_left fun y _ hy => ?_
      simp only [List.contains_cons, Bool.not_or, Bool.and_eq_true, Bool.not_eq_true'] at hy ⊢
      exact hy.2
    by_cases hx : x = r
    · -- the reference itself is followed now and was not before
      subst hx
      have h1 : (!(x :: seen).contains x) = false := by simp
      have h2 : (!seen.contains x) = true := by simpa using hr
      rw [List.filter_cons, List.filter_cons, h1, h2]
      simpa using Nat.lt_succ_of_le hle
    · -- another reference counts on both sides, and `r` stands further behind
      have hx' : r ∈ xs := by
        rcases List.mem_cons.1 hmem with h' | h'
        · exact absurd h'.symm hx
        · exact h'
      have hiff : (!(r :: seen).contains x) = (!seen.contains x) := by
        simp [hx]
      rw [List.filter_cons, List.filter_cons, hiff]
      split
      · simpa using ih hx'
      · exact ih hx'

/-- **Follow references** from group to group. `seen` are those already followed. -/
def follow (f : Form) (pending seen : List GroupReference) : List GroupReference :=
  match pending with
  | [] => seen
  | r :: rest =>
    if _hr : r ∈ seen then f.follow rest seen
    else match _hg : f.group? r.group with
      | none => f.follow rest seen
      | some g =>
        f.follow (Action.referencesIn r.inLoop g.actions ++ rest) (r :: seen)
termination_by (f.unfollowed seen, pending.length)
decreasing_by
  · exact Prod.Lex.right _ (by simp)
  · exact Prod.Lex.right _ (by simp)
  · exact Prod.Lex.left _ _ (unfollowed_cons_lt _hg _hr)

/-- The ids of the groups that are referred to from inside a loop, on any way that starts
at the actions of the form. -/
def loopedGroups (f : Form) : List String :=
  ((f.follow (Action.referencesIn false f.actions) []).filter (·.inLoop)).map (·.group)

end Form

/-! ### Visits -/

/-- An action that the check comes to, and whether it is inside a loop. -/
structure Visit where
  /-- The action. -/
  action : Action
  /-- Whether it is inside a loop. -/
  inLoop : Bool

mutual

/-- The actions inside an action, in the order of the check. -/
def Action.visitsInside (inLoop : Bool) : Action → List Visit
  | .loop _ _ body => Action.visitsOf true body
  | .group _ _ members => Action.visitsOf inLoop members
  | _ => []

/-- The actions of a list and inside them, in the order of the check. -/
def Action.visitsOf (inLoop : Bool) : List Action → List Visit
  | [] => []
  | a :: rest => ⟨a, inLoop⟩ :: a.visitsInside inLoop ++ Action.visitsOf inLoop rest

end

/-- **All actions of a form**, in the order of the check. -/
def Form.visits (f : Form) : List Visit :=
  Action.visitsOf false f.actions ++
    f.groups.flatMap fun g => Action.visitsOf (f.loopedGroups.contains g.id) g.actions

/-! ### The check -/

/-- The names of the variables that an action writes or binds. -/
def Action.variableNames : Action → List String
  | .createFile _ s => s.output.toList
  | .textTransform _ s => [s.output]
  | .ai _ s => s.output.toList
  | .collectData _ s => [s.output]
  | .suggest _ s => [s.output]
  | .loop _ plan _ => plan.itemAlias.toList ++ plan.indexAlias.toList
  | _ => []

/-- Whether a loop has what drives it. -/
def LoopPlan.hasSource (p : LoopPlan) : Bool :=
  match p.kind with
  | .list | .pagination => p.source.isSome
  | .count => p.count.isSome
  | .condition => p.test.isSome

/-- What is wrong with an action for its type alone. -/
def Form.ownErrors (f : Form) (v : Visit) : List FormError :=
  match v.action with
  | .collectData h _ => if v.inLoop then [] else [.collectOutsideLoop h.id]
  | .loop h plan _ => if plan.hasSource then [] else [.loopWithoutSource h.id plan.kind]
  | .group h (some id) _ => if (f.group? id).isSome then [] else [.unknownGroup h.id id]
  | _ => []

/-- What is wrong with an action, given the ids of those visited before. -/
def Form.visitErrors (f : Form) (earlier : List String) (v : Visit) : List FormError :=
  let id := v.action.id
  (if earlier.contains id then [.duplicateAction id] else []) ++
    (v.action.variableNames.filter (!isVariableName ·)).map (.badVariable id ·) ++
    f.ownErrors v

/-- What is wrong with the visited actions, given the ids of those before. -/
def Form.errorsOfVisits (f : Form) (earlier : List String) : List Visit → List FormError
  | [] => []
  | v :: rest =>
    f.visitErrors earlier v ++ f.errorsOfVisits (v.action.id :: earlier) rest

/-- The ids that occur again behind an occurrence, one for each repetition. -/
def repeats (earlier : List String) : List String → List String
  | [] => []
  | x :: rest =>
    if earlier.contains x then x :: repeats earlier rest else repeats (x :: earlier) rest

/-- **The errors of a form**, in the order of the check. -/
def Form.errors (f : Form) : List FormError :=
  (repeats [] (f.fields.map (·.id))).map .duplicateField ++ f.errorsOfVisits [] f.visits

/-- What has no effect in a visited action. -/
def Visit.warnings (v : Visit) : List FormWarning :=
  match v.action with
  | .loop h _ [] => [.emptyLoop h.id]
  | .group h none [] => [.emptyGroup h.id]
  | _ => []

/-- **The warnings of a form**, in the order of the check. -/
def Form.warnings (f : Form) : List FormWarning :=
  f.visits.flatMap Visit.warnings

end FormChain
