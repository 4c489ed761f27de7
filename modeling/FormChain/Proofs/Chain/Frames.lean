import FormChain.Proofs.Form.Fields
import FormChain.Proofs.Template.Shadowing
import Mathlib.Data.List.Nodup

/-!
# What is in scope

A scope is asked in two ways. A name is looked up from the innermost frame outwards
(`FormChain.Scope.get?`), and all names are listed by a walk over the same frames that remembers
the names it has met (`FormChain.Scope.entries`). The two agree: what is listed are the innermost
bindings, each with what its own frame says of it (`FormChain.Scope.mem_entries_iff`), and the
names stand by the depth of the frame that binds them (`FormChain.Scope.entries_in_order`).

A frame binds no name twice; that is all that has to be known of frames, and it stays true
whatever is done to a scope. What is done are the four things of
`FormChain.Scope.Change`. Frames that are put on top and taken away again leave nothing behind
(`FormChain.Scope.run_of_isBalanced`).

Main statement: of every scope that is reached, the list has every bound name once, with its
innermost meaning, and every excursion gives the scope back (`FormChain.Scope.run_lists_bound`).
-/

namespace FormChain

namespace Scope

/-! ### What is done to a scope -/

/-- **Something done to a scope.** The bindings of a frame are in order of their names, so none
of them stands there twice. -/
inductive Change where
  /-- Enter an iteration. -/
  | push (f : Frame) (inOrder : f.bindings.Sorted)
  /-- Leave an iteration. -/
  | pop
  /-- Leave iterations down to a depth. -/
  | truncate (depth : Nat)
  /-- Leave all iterations. -/
  | clear

/-- What a scope becomes by a change. -/
def changed (s : Scope) : Change → Scope
  | .push f _ => s.push f
  | .pop => s.pop
  | .truncate depth => s.truncate depth
  | .clear => empty

/-- What a scope becomes by changes, one after another. -/
def run (s : Scope) (cs : List Change) : Scope :=
  cs.foldl changed s

/-- **Iterations that are entered and left again**, in between as in brackets. -/
inductive IsBalanced : List Change → Prop where
  /-- Nothing is done. -/
  | nil : IsBalanced []
  /-- An iteration is entered and left, and more is done behind it. -/
  | enclosed {f : Frame} {inOrder : f.bindings.Sorted} {inside behind : List Change} :
    IsBalanced inside → IsBalanced behind →
    IsBalanced (.push f inOrder :: inside ++ .pop :: behind)

section Changes

variable {s : Scope} {cs : List Change}

theorem run_append (s : Scope) (cs ds : List Change) : s.run (cs ++ ds) = (s.run cs).run ds :=
  List.foldl_append

/-- **Balanced changes leave a scope as it is.** -/
theorem run_of_isBalanced (h : IsBalanced cs) (s : Scope) : s.run cs = s := by
  induction h generalizing s with
  | nil => rfl
  | @enclosed f inOrder inside behind _ _ ihInside ihBehind =>
    calc s.run (.push f inOrder :: inside ++ .pop :: behind)
        = ((s.push f).run inside).run (.pop :: behind) := run_append (s.push f) inside _
      _ = (s.push f).run (.pop :: behind) := by rw [ihInside]
      _ = s.run behind := rfl
      _ = s := ihBehind s

/-- **All frames have their bindings in order.** -/
def InOrder (s : Scope) : Prop :=
  ∀ f ∈ s.frames, f.bindings.Sorted

theorem InOrder.changed (h : s.InOrder) (c : Change) : (s.changed c).InOrder := by
  cases c with
  | push f inOrder => exact List.forall_mem_cons.mpr ⟨inOrder, h⟩
  | pop => exact fun f hf => h f (List.mem_of_mem_tail hf)
  | truncate depth => exact fun f hf => h f (List.mem_of_mem_drop hf)
  | clear => exact fun f hf => absurd hf List.not_mem_nil

/-- Whatever is done to a scope keeps its frames in order. -/
theorem InOrder.run (h : s.InOrder) (cs : List Change) : (s.run cs).InOrder := by
  induction cs generalizing s with
  | nil => exact h
  | cons c rest ih => exact ih (h.changed c)

end Changes

/-! ### The innermost binding -/

/-- The frames from the innermost one on that binds a name. -/
def framesBinding (frames : List Frame) (name : String) : List Frame :=
  frames.dropWhile fun f => !f.bindings.has name

/-- **How deep a name is bound**: the depth of the innermost frame that binds it, the outermost
frame being at depth one. -/
def depthOf (s : Scope) (name : String) : Nat :=
  (framesBinding s.frames name).length

section Walk

variable {f : Frame} {frames : List Frame} {hidden : List String} {name : String}
  {e e' : ScopeEntry}

theorem framesBinding_of_bound (h : name ∈ f.bindings.names) :
    framesBinding (f :: frames) name = f :: frames := by
  rw [framesBinding, List.dropWhile_cons, Keyed.mem_names_iff.mp h]
  rfl

theorem framesBinding_of_unbound (h : name ∉ f.bindings.names) :
    framesBinding (f :: frames) name = framesBinding frames name := by
  rw [framesBinding, List.dropWhile_cons,
    Bool.eq_false_iff.mpr fun hbound => h (Keyed.mem_names_iff.mpr hbound)]
  rfl

/-- The entry of a binding of a frame. -/
def entryOf (f : Frame) (b : String × Value) : ScopeEntry :=
  ⟨b.1, b.2, f.description? b.1⟩

theorem entriesBeyond_cons : entriesBeyond hidden (f :: frames) =
    (f.bindings.filter fun b => !hidden.contains b.1).map (entryOf f) ++
      entriesBeyond (f.bindings.names ++ hidden) frames := rfl

/-- The entries that a frame adds itself are its bindings of names that are not hidden. -/
theorem mem_map_entryOf_iff (hf : f.bindings.Sorted) :
    e ∈ (f.bindings.filter fun b => !hidden.contains b.1).map (entryOf f) ↔
      f.bindings.get? e.name = some e.value ∧ e.description = f.description? e.name ∧
        e.name ∉ hidden := by
  simp only [List.mem_map, List.mem_filter, Bool.not_eq_eq_eq_not, Bool.not_true,
    List.contains_eq_mem, decide_eq_false_iff_not]
  constructor
  · rintro ⟨b, ⟨hb, hhidden⟩, rfl⟩
    exact ⟨Keyed.get?_of_mem hf hb, rfl, hhidden⟩
  · rintro ⟨hget, hdescription, hhidden⟩
    refine ⟨(e.name, e.value), ⟨Keyed.mem_of_get?_eq_some hget, hhidden⟩, ?_⟩
    rw [entryOf, ← hdescription]

/-- **What the walk lists** are the innermost bindings of names that are not hidden. -/
theorem mem_entriesBeyond_iff (h : ∀ f ∈ frames, f.bindings.Sorted) :
    e ∈ entriesBeyond hidden frames ↔ e.name ∉ hidden ∧
      ∃ frame, Binds ⟨frames⟩ e.name frame e.value ∧
        e.description = frame.description? e.name := by
  induction frames generalizing hidden with
  | nil =>
    refine ⟨fun he => absurd he List.not_mem_nil, ?_⟩
    rintro ⟨-, frame, ⟨⟨inner, outer, hframes, -⟩, -⟩, -⟩
    simp at hframes
  | cons f rest ih =>
    rw [entriesBeyond_cons, List.mem_append, mem_map_entryOf_iff (h f List.mem_cons_self),
      ih fun f hf => h f (List.mem_cons_of_mem _ hf)]
    constructor
    · rintro (⟨hget, hdescription, hhidden⟩ | ⟨hhidden, frame, ⟨⟨inner, outer, hframes, hinner⟩,
        hget⟩, hdescription⟩)
      · exact ⟨hhidden, f, ⟨⟨[], rest, rfl, fun _ hf => absurd hf List.not_mem_nil⟩, hget⟩,
          hdescription⟩
      · have hnames : e.name ∉ f.bindings.names := fun hmem => hhidden (List.mem_append_left _ hmem)
        have hnone : f.bindings.get? e.name = none := by
          simpa [Keyed.mem_names_iff, Keyed.has] using hnames
        exact ⟨fun hmem => hhidden (List.mem_append_right _ hmem), frame,
          ⟨⟨f :: inner, outer, congrArg (f :: ·) hframes,
            List.forall_mem_cons.mpr ⟨hnone, hinner⟩⟩, hget⟩, hdescription⟩
    · rintro ⟨hhidden, frame, ⟨⟨inner, outer, hframes, hinner⟩, hget⟩, hdescription⟩
      -- the frame that binds the name is the first one, or one of the rest
      cases inner with
      | nil =>
        obtain ⟨rfl, -⟩ := List.cons.inj hframes
        exact .inl ⟨hget, hdescription, hhidden⟩
      | cons g inner =>
        obtain ⟨rfl, hrest⟩ := List.cons.inj hframes
        obtain ⟨hnone, hinner⟩ := List.forall_mem_cons.mp hinner
        have hnames : e.name ∉ f.bindings.names := Keyed.not_mem_of_get?_eq_none hnone
        refine .inr ⟨fun hmem => ?_, frame, ⟨⟨inner, outer, hrest, hinner⟩, hget⟩, hdescription⟩
        exact (List.mem_append.mp hmem).elim hnames hhidden

/-- **One entry stands before another**: its name is bound deeper, or in the same frame and comes
before the other one. -/
def Precedes (frames : List Frame) (e e' : ScopeEntry) : Prop :=
  (framesBinding frames e'.name).length < (framesBinding frames e.name).length ∨
    (framesBinding frames e'.name).length = (framesBinding frames e.name).length ∧
      e.name < e'.name

/-- The walk lists entries by the depth of their frames. -/
theorem pairwise_entriesBeyond (h : ∀ f ∈ frames, f.bindings.Sorted) :
    (entriesBeyond hidden frames).Pairwise (Precedes frames) := by
  induction frames generalizing hidden with
  | nil => exact List.Pairwise.nil
  | cons f rest ih =>
    have hf := h f List.mem_cons_self
    have hrest : ∀ f ∈ rest, f.bindings.Sorted := fun f hf => h f (List.mem_cons_of_mem _ hf)
    have hbound {e : ScopeEntry}
        (he : e ∈ (f.bindings.filter fun b => !hidden.contains b.1).map (entryOf f)) :
        framesBinding (f :: rest) e.name = f :: rest := by
      have hget := ((mem_map_entryOf_iff hf).mp he).1
      exact framesBinding_of_bound
        (List.mem_map.mpr ⟨_, Keyed.mem_of_get?_eq_some hget, rfl⟩)
    have hunbound {e : ScopeEntry} (he : e ∈ entriesBeyond (f.bindings.names ++ hidden) rest) :
        framesBinding (f :: rest) e.name = framesBinding rest e.name :=
      framesBinding_of_unbound fun hmem =>
        ((mem_entriesBeyond_iff hrest).mp he).1 (List.mem_append_left _ hmem)
    rw [entriesBeyond_cons, List.pairwise_append]
    refine ⟨?_, ?_, ?_⟩
    · -- in one frame names come in their order
      have hnames : ((f.bindings.filter fun b => !hidden.contains b.1).map (entryOf f)).Pairwise
          fun e e' => e.name < e'.name :=
        List.pairwise_map.mpr ((List.pairwise_map.mp hf).filter _)
      exact hnames.imp_of_mem fun he he' hlt => .inr ⟨by rw [hbound he, hbound he'], hlt⟩
    · refine (ih hrest).imp_of_mem fun he he' hprecedes => ?_
      rwa [Precedes, hunbound he, hunbound he']
    · intro e he e' he'
      refine .inl ?_
      rw [hbound he, hunbound he']
      exact Nat.lt_succ_of_le (List.dropWhile_suffix _).length_le

end Walk

/-! ### Lists and lookups -/

section Entries

variable {s : Scope} {e : ScopeEntry} {name : String}

/-- **What is listed are the innermost bindings**, each with what its frame says of it. -/
theorem mem_entries_iff (h : s.InOrder) : e ∈ s.entries ↔
    ∃ frame, s.Binds e.name frame e.value ∧ e.description = frame.description? e.name :=
  (mem_entriesBeyond_iff h).trans (and_iff_right List.not_mem_nil)

/-- **Entries stand in order** of decreasing depth, and of their names at one depth. -/
theorem entries_in_order (h : s.InOrder) : s.entries.Pairwise fun e e' =>
    s.depthOf e'.name < s.depthOf e.name ∨
      s.depthOf e'.name = s.depthOf e.name ∧ e.name < e'.name :=
  pairwise_entriesBeyond h

/-- A name that some frame binds is bound by an innermost one. -/
theorem exists_binds_iff : (∃ f ∈ s.frames, f.bindings.has name = true) ↔
    ∃ frame v, s.Binds name frame v := by
  constructor
  · rintro ⟨f, hf, hbound⟩
    have hget : (s.get? name).isSome = true := by
      rw [get?, List.findSome?_isSome_iff]
      exact ⟨f, hf, hbound⟩
    obtain ⟨v, hv⟩ := Option.isSome_iff_exists.mp hget
    obtain ⟨inner, frame, outer, hframes, hframe, hinner⟩ := List.findSome?_eq_some_iff.mp hv
    exact ⟨frame, v, ⟨inner, outer, hframes, hinner⟩, hframe⟩
  · rintro ⟨frame, v, ⟨inner, outer, hframes, -⟩, hget⟩
    exact ⟨frame, by rw [hframes]; simp, by rw [Keyed.has, hget]; rfl⟩

/-- **Every bound name is listed once**, and no other one. -/
theorem count_names_entries (h : s.InOrder) : (s.entries.map (·.name)).count name =
    if ∃ f ∈ s.frames, f.bindings.has name = true then 1 else 0 := by
  have hnodup : (s.entries.map (·.name)).Nodup := by
    refine List.pairwise_map.mpr ((entries_in_order h).imp fun {e e'} hprecedes hname => ?_)
    rcases hprecedes with hdepth | ⟨-, hlt⟩
    · exact Nat.lt_irrefl _ (hname ▸ hdepth)
    · exact String.lt_irrefl _ (hname ▸ hlt)
  have hmem : name ∈ s.entries.map (·.name) ↔ ∃ f ∈ s.frames, f.bindings.has name = true := by
    rw [exists_binds_iff, List.mem_map]
    constructor
    · rintro ⟨e, he, rfl⟩
      obtain ⟨frame, hbinds, -⟩ := (mem_entries_iff h).mp he
      exact ⟨frame, e.value, hbinds⟩
    · rintro ⟨frame, v, hbinds⟩
      exact ⟨⟨name, v, frame.description? name⟩, (mem_entries_iff h).mpr ⟨frame, hbinds, rfl⟩, rfl⟩
  split
  case isTrue hbound => exact List.count_eq_one_of_mem hnodup (hmem.mpr hbound)
  case isFalse hfree => exact List.count_eq_zero.mpr fun hlisted => hfree (hmem.mp hlisted)

end Entries

/-- **Of every scope that is reached, the list has every bound name once and no other one**: with
the value that the name is looked up to, and the description of the innermost frame that binds
it, deeper frames first. And when an iteration has been entered, whatever iterations were entered
and left inside of it, leaving it makes every name, every path and the list what they were. -/
theorem run_lists_bound (changes : List Change) :
    let s := empty.run changes
    (∀ name, (s.entries.map (·.name)).count name =
      if ∃ f ∈ s.frames, f.bindings.has name = true then 1 else 0) ∧
    (∀ e ∈ s.entries, s.get? e.name = some e.value ∧
      ∃ frame, s.Binds e.name frame e.value ∧ e.description = frame.description? e.name) ∧
    (s.entries.Pairwise fun e e' => s.depthOf e'.name < s.depthOf e.name ∨
      s.depthOf e'.name = s.depthOf e.name ∧ e.name < e'.name) ∧
    ∀ (f : Frame) (inOrder : f.bindings.Sorted) (inside : List Change), IsBalanced inside →
      let s' := s.run (.push f inOrder :: inside ++ [.pop])
      (∀ name, s'.get? name = s.get? name) ∧ (∀ path, s'.resolve? path = s.resolve? path) ∧
        s'.entries = s.entries := by
  intro s
  have hs : s.InOrder := InOrder.run (fun f hf => absurd hf List.not_mem_nil) changes
  refine ⟨fun name => count_names_entries hs, fun e he => ?_, entries_in_order hs,
    fun f inOrder inside hinside => ?_⟩
  · obtain ⟨frame, hbinds, hdescription⟩ := (mem_entries_iff hs).mp he
    exact ⟨hbinds.get?_eq, frame, hbinds, hdescription⟩
  · have hback : s.run (.push f inOrder :: inside ++ [.pop]) = s :=
      run_of_isBalanced (.enclosed hinside .nil) s
    rw [hback]
    exact ⟨fun _ => rfl, fun _ => rfl, rfl⟩

/-- A name that two frames bind is listed once, and an excursion of two iterations leaves the list
as it is. -/
theorem hidden_row_listed_once :
    ∃ (outer inner : Frame) (ho : outer.bindings.Sorted) (hi : inner.bindings.Sorted),
      let s := empty.run [.pop, .push outer ho, .push inner hi]
      outer.bindings.has "row" = true ∧ inner.bindings.has "row" = true ∧
        (s.entries.map (·.name)).count "row" = 1 ∧
        (s.run (.push outer ho :: [.push inner hi, .pop] ++ [.pop])).entries = s.entries := by
  have ho : Keyed.Sorted [("page", Value.text "first"), ("row", Value.text "outer")] :=
    show ["page", "row"].Pairwise (· < ·) by decide
  have hi : Keyed.Sorted [("row", Value.text "inner")] :=
    show ["row"].Pairwise (· < ·) by decide
  have hinside : IsBalanced [.push ⟨_, []⟩ hi, .pop] := .enclosed .nil .nil
  obtain ⟨hcount, -, -, hback⟩ := run_lists_bound
    [.pop, .push ⟨_, [{ name := "row", description := "Current row" }]⟩ ho, .push ⟨_, []⟩ hi]
  refine ⟨⟨_, [{ name := "row", description := "Current row" }]⟩, ⟨_, []⟩, ho, hi, rfl, rfl, ?_,
    (hback _ ho _ hinside).2.2⟩
  exact (hcount "row").trans (if_pos ⟨_, List.mem_cons_self, rfl⟩)

end Scope

end FormChain
