import FormChain.Proofs.Template.Expansion

/-!
# What a binding hides

A name that loops bind means what the innermost frame that binds it says
(`FormChain.Scope.Binds`), and of a path into this value all frames further out are hidden, along
with the variables that actions have written and the answers of the form – as long as the path
leads on inside the value. Where it does not, only the frames stay hidden: the path as a whole is
looked up among the variables, and for a filter then among the answers. So whether a path with a
bound root means the same whatever variables and answers there are, is told by whether it leads on
(`FormChain.Template.bound_path_decided_iff`).

References are taken to paths that are references to nothing else
(`FormChain.Template.RefersTo`). The empty path cannot be referred to.
-/

namespace FormChain

/-! ### The innermost binding -/

/-- **A name is bound to a value** by a frame of a scope, and by no frame further in. -/
def Scope.Binds (s : Scope) (name : String) (frame : Frame) (v : Value) : Prop :=
  (∃ inner outer, s.frames = inner ++ frame :: outer ∧
    ∀ f ∈ inner, f.bindings.get? name = none) ∧
  frame.bindings.get? name = some v

section Binding

variable {s : Scope} {path root : String} {segments : List String} {frame : Frame} {v : Value}
  {e : Environment}

theorem Scope.Binds.get?_eq (h : s.Binds root frame v) : s.get? root = some v := by
  obtain ⟨⟨inner, outer, hframes, hinner⟩, hframe⟩ := h
  refine List.findSome?_eq_some_iff.mpr ⟨inner, frame, outer, hframes, hframe, hinner⟩

/-- What a path means whose root is bound is found inside the value that this is bound to. -/
theorem Scope.Binds.resolve?_eq (h : s.Binds root frame v)
    (hpath : pathSegments path = root :: segments) : s.resolve? path = v.descend? segments := by
  simp only [Scope.resolve?, resolvePath?, hpath, h.get?_eq, Option.bind_some]

theorem chainValue?_of_binds (h : e.scope.Binds root frame v)
    (hpath : pathSegments path = root :: segments) :
    e.chainValue? path = (v.descend? segments).or (e.output? path) := by
  rw [Environment.chainValue?, h.resolve?_eq hpath]

theorem lookup?_of_binds (h : e.scope.Binds root frame v)
    (hpath : pathSegments path = root :: segments) :
    e.lookup? path = ((v.descend? segments).or (e.output? path)).or (e.formValue? path) := by
  rw [Environment.lookup?, chainValue?_of_binds h hpath]

/-! ### Values that paths lead to -/

/-- A value in which a path leads to a value. -/
def Value.reaching (v : Value) : List String → Value
  | [] => v
  | segment :: rest => .object [(segment, v.reaching rest)]

theorem descend?_reaching (v : Value) (segments : List String) :
    (v.reaching segments).descend? segments = some v := by
  induction segments with
  | nil => rfl
  | cons segment rest ih =>
    have hstep : (v.reaching (segment :: rest)).step? segment = some (v.reaching rest) := by
      simp [Value.reaching, Value.step?, Keyed.get?_cons]
    rw [Value.descend?, List.foldlM_cons, hstep]
    exact ih

/-- Every path leads to every value in some variables. -/
theorem output?_reaching (hpath : pathSegments path = root :: segments)
    (houtputs : e.outputs = [(root, v.reaching segments)]) : e.output? path = some v := by
  simp only [Environment.output?, resolvePath?, hpath, houtputs, Keyed.get?_cons, if_true,
    Option.bind_some, descend?_reaching]

end Binding

namespace Template

/-! ### References to paths -/

/-- **A text is one reference to a path**, and the path is nothing that references are read as
otherwise: no date or time, nothing behind a word and a colon, and no answer of the form. -/
structure RefersTo (reference path : String) : Prop where
  /-- There are braces around the path, and perhaps blanks. So there is a path, and there are no
  braces in it. -/
  written : ∃ m : Match, m.Fits reference.toList ∧ m.rest = [] ∧ m.body = path.toList
  /-- It is no date. -/
  ne_date : path ≠ "date"
  /-- It is no time. -/
  ne_time : path ≠ "time"
  /-- There is no colon in it. -/
  no_colon : ':' ∉ path.toList
  /-- It does not start as an answer of the form does. -/
  no_at : path.toList.head? ≠ some '@'
  /-- The blanks around it do not belong to it. -/
  trimmed : Text.trim path.toList = path.toList

section References

variable {reference path : String} {e : Environment}

/-- It is one piece. -/
theorem RefersTo.cuts (h : RefersTo reference path) :
    Cuts reference.toList [.reference reference.toList path.toList] := by
  obtain ⟨m, hfits, hrest, hbody⟩ := h.written
  have htrim : Text.trim m.body = m.body := by rw [hbody, h.trimmed]
  exact cuts_single_iff.mpr ⟨m, hfits.isFirst_of_trimmed htrim, hrest, hbody⟩

/-- It is read as a path. -/
theorem RefersTo.ofBody (h : RefersTo reference path) :
    Reference.ofBody path.toList = .chainValue path := by
  have hat : Text.after? ['@'] path.toList = none := by
    cases hafter : Text.after? ['@'] path.toList with
    | none => rfl
    | some key => exact absurd (by rw [Text.after?_eq_some_iff.mp hafter]; rfl) h.no_at
  have houtput : Text.after? "output:".toList path.toList = none :=
    Text.after?_of_not_mem (by decide) h.no_colon
  have hdate : path.toList ≠ "date".toList := fun heq => h.ne_date (String.toList_inj.mp heq)
  have htime : path.toList ≠ "time".toList := fun heq => h.ne_time (String.toList_inj.mp heq)
  simp only [Reference.ofBody, hat, houtput, Text.cutFirst?_of_not_mem h.no_colon, if_neg hdate,
    if_neg htime, String.ofList_toList]

/-- It expands to the text of what the path means, and stays what it is where this is nothing. -/
theorem RefersTo.expand_eq (h : RefersTo reference path) :
    expand e reference = pure (((e.chainValue? path).map Value.render).getD reference) := by
  have hpieces := cuts_iff.mp h.cuts
  have hmeaning : (Piece.reference reference.toList path.toList).meaning? e =
      e.chainValue? path := by
    rw [Piece.meaning?, Piece.reference?, Option.bind_some, h.ofBody]
    rfl
  have hsteady : IsSteady reference := by
    intro p hp r hr
    rw [← hpieces, List.mem_singleton] at hp
    subst hp
    obtain rfl := Option.some.inj hr
    rw [h.ofBody]
    rfl
  rw [expand_of_isSteady hsteady, ← hpieces, List.flatMap_singleton, Piece.filled, hmeaning]
  cases e.chainValue? path with
  | none => exact congrArg pure String.ofList_toList
  | some w => exact congrArg pure String.ofList_toList

theorem RefersTo.reference_ne_empty (h : RefersTo reference path) : reference ≠ "" := by
  obtain ⟨m, hfits, -, -⟩ := h.written
  rintro rfl
  exact absurd hfits.text nofun

end References

/-! ### What decides on a path -/

/-- **What a path means whose root is bound.** As long as it leads on inside the value that the
innermost frame with that name binds, this value alone decides on what a filter looks up and on
what a reference expands to. Where it does not, the variables are asked for the path as a whole,
and for a filter then the answers; a reference that is not found there stays what it is. So filters
and references come to the same whatever variables and answers there are just if the path leads
on. -/
theorem bound_path_decided_iff {s : Scope} {path root : String} {segments : List String}
    {frame : Frame} {v : Value} (hpath : pathSegments path = root :: segments)
    (hbinds : s.Binds root frame v) :
    (∀ w, v.descend? segments = some w → ∀ e : Environment, e.scope = s →
      e.lookup? path = some w ∧
      ∀ reference, RefersTo reference path → expand e reference = pure w.render) ∧
    (v.descend? segments = none → ∀ e : Environment, e.scope = s →
      e.lookup? path = (e.output? path).or (e.formValue? path) ∧
      ∀ reference, RefersTo reference path →
        expand e reference = pure (((e.output? path).map Value.render).getD reference)) ∧
    ((∀ e e' : Environment, e.scope = s → e'.scope = s → e.lookup? path = e'.lookup? path) ↔
      (v.descend? segments).isSome = true) ∧
    ∀ reference, RefersTo reference path →
      ((∀ e e' : Environment, e.scope = s → e'.scope = s →
        expand e reference = expand e' reference) ↔ (v.descend? segments).isSome = true) := by
  have hlookup (e : Environment) (he : e.scope = s) : e.lookup? path =
      ((v.descend? segments).or (e.output? path)).or (e.formValue? path) :=
    lookup?_of_binds (he ▸ hbinds) hpath
  have hexpand (e : Environment) (he : e.scope = s) (reference : String)
      (h : RefersTo reference path) : expand e reference =
        pure ((((v.descend? segments).or (e.output? path)).map Value.render).getD reference) := by
    rw [h.expand_eq, chainValue?_of_binds (he ▸ hbinds) hpath]
  -- two runs that differ where the path does not lead on
  let without : Environment := { scope := s }
  let within : Environment :=
    { scope := s, outputs := [(root, (Value.text "").reaching segments)] }
  have hwithout : without.output? path = none := by
    simp only [Environment.output?, resolvePath?, hpath, without, Keyed.get?_nil, Option.bind_none]
  have hwithin : within.output? path = some (.text "") := output?_reaching hpath rfl
  refine ⟨fun w hw e he => ⟨?_, fun reference h => ?_⟩,
    fun hnone e he => ⟨?_, fun reference h => ?_⟩, ⟨fun h => ?_, fun h e e' he he' => ?_⟩,
    fun reference href => ⟨fun h => ?_, fun h e e' he he' => ?_⟩⟩
  · rw [hlookup e he, hw]
    rfl
  · rw [hexpand e he reference h, hw]
    rfl
  · rw [hlookup e he, hnone, Option.none_or]
  · rw [hexpand e he reference h, hnone, Option.none_or]
  · have hsame := h without within rfl rfl
    rw [hlookup without rfl, hlookup within rfl, hwithout, hwithin] at hsame
    cases hlead : v.descend? segments with
    | some w => rfl
    | none =>
      rw [hlead] at hsame
      cases hsame
  · obtain ⟨w, hw⟩ := Option.isSome_iff_exists.mp h
    rw [hlookup e he, hlookup e' he', hw]
    rfl
  · have hsame := h without within rfl rfl
    rw [hexpand without rfl reference href, hexpand within rfl reference href, hwithout,
      hwithin] at hsame
    cases hlead : v.descend? segments with
    | some w => rfl
    | none =>
      rw [hlead] at hsame
      have hempty : reference = "" := congrArg (fun run => (run.run 0).1) hsame
      exact absurd hempty href.reference_ne_empty
  · obtain ⟨w, hw⟩ := Option.isSome_iff_exists.mp h
    rw [hexpand e he reference href, hexpand e' he' reference href, hw]
    rfl

/-- Two loops whose items are called the same, the inner one over titles. -/
def libraryScope : Scope where
  frames := [⟨[("item", .object [("title", .text "Emma")])], []⟩,
    ⟨[("item", .object [("author", .text "Austen")])], []⟩]

/-- Everywhere in the inner loop the title of the item is the same. Its author is not: there is
none in the inner item, and that of the outer one is hidden. -/
theorem item_of_inner_loop :
    let inner : Frame := ⟨[("item", .object [("title", .text "Emma")])], []⟩
    let item : Value := .object [("title", .text "Emma")]
    pathSegments "item.title" = ["item", "title"] ∧
      pathSegments "item.author" = ["item", "author"] ∧ libraryScope.Binds "item" inner item ∧
      RefersTo "\x7b\x7b item.title \x7d\x7d" "item.title" ∧
      RefersTo "\x7b\x7bitem.author\x7d\x7d" "item.author" ∧
      (∀ e : Environment, e.scope = libraryScope → e.lookup? "item.title" = some (.text "Emma") ∧
        expand e "\x7b\x7b item.title \x7d\x7d" = pure "Emma") ∧
      ¬∀ e e' : Environment, e.scope = libraryScope → e'.scope = libraryScope →
        expand e "\x7b\x7bitem.author\x7d\x7d" = expand e' "\x7b\x7bitem.author\x7d\x7d" := by
  intro inner item
  have htitle : pathSegments "item.title" = ["item", "title"] := by decide
  have hauthor : pathSegments "item.author" = ["item", "author"] := by decide
  have hbinds : libraryScope.Binds "item" inner item := ⟨⟨[], _, rfl, nofun⟩, rfl⟩
  have htitled : RefersTo "\x7b\x7b item.title \x7d\x7d" "item.title" :=
    ⟨⟨⟨[' '], "item.title".toList, [' '], []⟩, by decide, rfl, rfl⟩, by decide, by decide,
      by decide, by decide, by decide⟩
  have hauthored : RefersTo "\x7b\x7bitem.author\x7d\x7d" "item.author" :=
    ⟨⟨⟨[], "item.author".toList, [], []⟩, by decide, rfl, rfl⟩, by decide, by decide, by decide,
      by decide, by decide⟩
  obtain ⟨hleads, -, -, -⟩ := bound_path_decided_iff htitle hbinds
  obtain ⟨-, -, -, hsame⟩ := bound_path_decided_iff hauthor hbinds
  refine ⟨htitle, hauthor, hbinds, htitled, hauthored, fun e he => ?_, fun h => ?_⟩
  · obtain ⟨hlookup, hexpand⟩ := hleads (.text "Emma") rfl e he
    exact ⟨hlookup, hexpand _ htitled⟩
  · cases (hsame _ hauthored).mp h

/-- **A variable comes through where a path ends early**: the item of a loop is empty, so there is
no title in it. Without variables nothing is found and the reference stays; with a variable that is
called as the item its title is found, and filled in. -/
theorem missing_segment_falls_through :
    let frame : Frame := ⟨[("item", .object [])], []⟩
    let without : Environment := { scope := ⟨[frame]⟩ }
    let within : Environment :=
      { scope := ⟨[frame]⟩, outputs := [("item", .object [("title", .text "x")])] }
    let reference := "\x7b\x7bitem.title\x7d\x7d"
    without.scope = within.scope ∧ within.scope.Binds "item" frame (.object []) ∧
      (Value.object []).descend? ["title"] = none ∧ RefersTo reference "item.title" ∧
      without.lookup? "item.title" = none ∧ within.lookup? "item.title" = some (.text "x") ∧
      ((expand without reference).run 0).1 = reference ∧
      ((expand within reference).run 0).1 = "x" := by
  intro frame without within reference
  refine ⟨rfl, ⟨⟨[], [], rfl, nofun⟩, rfl⟩, rfl, ?_, rfl, rfl, by decide, by decide⟩
  exact ⟨⟨⟨[], "item.title".toList, [], []⟩, by decide, rfl, rfl⟩, by decide, by decide,
    by decide, by decide, by decide⟩

end Template

end FormChain
