import FormChain.Form.Validation
import FormChain.Proofs.Chain.Pages

/-!
# What loops bind

The names that a loop has for its body are written down twice: as a list with descriptions, for
people who write the body (`FormChain.LoopPlan.loopVariables`), and as the bindings of the frame
that every iteration puts on the scope. They are the same names, whatever second names there are
and whichever names these hide (`FormChain.LoopPlan.mem_names_frame`); so nothing that is offered
is unbound, and nothing that is bound lacks its description.

What the names are bound to depends on the second name for the index alone. The second name for
the item stands in front of all names that a loop has of itself, and so hides none of them. The
one for the index stands behind the item and the numbers of the iteration: if it is `item` or
`iteration`, then these are the index, as the check of a form lets pass. The total and the numbers
of a page come last and are never hidden (`FormChain.LoopPlan.Shows`).

Main statements: at every iteration of whatever loop, the frame on top of the scope binds what the
loop offers (`FormChain.Chain.loop_offers_variables`), and binds it as told
(`FormChain.Chain.loop_shows_iterations`).
-/

namespace FormChain

/-! ### The names of a frame -/

/-- **What the frame of an iteration has** besides its number, by the kind of its loop: an item,
and the numbers that come last. -/
def LoopPlan.Fits (p : LoopPlan) (item : Option Value) (more : List (String × Value)) : Prop :=
  match p.kind with
  | .list | .count => item.isSome ∧ more.map Prod.fst = [LoopVariable.totalName]
  | .pagination => item.isSome ∧ more.map Prod.fst =
      [LoopVariable.totalName, LoopVariable.currentPageName, LoopVariable.pageSizeName,
        LoopVariable.totalPageName]
  | .condition => item = none ∧ more = []

namespace LoopPlan

variable {p : LoopPlan} {config : Config} {source : Option Value} {course : LoopCourse}
  {item : Option Value} {more : List (String × Value)} {k : Nat} {name : String}
  {st : ChainState} {f : Frame}

/-- What a loop offers: the names of its kind and its second names. -/
theorem mem_names_loopVariables : name ∈ p.loopVariables.map (·.name) ↔
    name ∈ (LoopVariable.standard (some p.kind)).map (·.name) ∨
      p.kind ≠ .condition ∧ givenAlias p.itemAlias = some name ∨
      givenAlias p.indexAlias = some name := by
  have hany : (LoopVariable.standard (some p.kind)).any (·.name == LoopVariable.itemName) =
      decide (p.kind ≠ .condition) := by
    cases p.kind <;> rfl
  rw [loopVariables, hany]
  by_cases hkind : p.kind = .condition <;>
    simp [hkind, LoopVariable.ofAlias, List.map_map, Function.comp_def]

/-- What a frame binds, with an item or without. -/
theorem mem_names_frame_iff : name ∈ (p.frame k item more).bindings.names ↔
    item.isSome ∧ (givenAlias p.itemAlias = some name ∨ name = LoopVariable.itemName) ∨
      name = LoopVariable.indexName ∨ name = LoopVariable.iterationName ∨
      givenAlias p.indexAlias = some name ∨ name ∈ more.map Prod.fst := by
  have hitem : name ∈ ((item.map p.itemBindings).getD []).map Prod.fst ↔
      item.isSome ∧
        (givenAlias p.itemAlias = some name ∨ name = LoopVariable.itemName) := by
    cases item <;> simp [itemBindings, List.map_map, Function.comp_def]
  have hindex : name ∈ (p.indexBindings k).map Prod.fst ↔ name = LoopVariable.indexName ∨
      name = LoopVariable.iterationName ∨ givenAlias p.indexAlias = some name := by
    simp [indexBindings, List.map_map, Function.comp_def]
  rw [frame, Keyed.mem_names_ofList, List.map_append, List.map_append, List.mem_append,
    List.mem_append, hitem, hindex]
  tauto

/-- **A frame binds the names that its loop offers**, and no others. -/
theorem mem_names_frame (h : p.Fits item more) : name ∈ (p.frame k item more).bindings.names ↔
    name ∈ p.loopVariables.map (·.name) := by
  rw [mem_names_frame_iff, mem_names_loopVariables]
  unfold Fits at h
  -- both sides are the same names in another order
  cases hkind : p.kind <;> simp only [hkind] at h <;> obtain ⟨hitem, hmore⟩ := h <;>
    simp only [hitem, hmore, LoopVariable.standard, LoopVariable.index, LoopVariable.iteration,
      List.map_cons, List.map_nil, List.mem_cons, List.not_mem_nil, or_false, ne_eq,
      reduceCtorEq, not_false_eq_true, not_true_eq_false, true_and, false_and, false_or,
      Option.isSome_none, Bool.false_eq_true] <;>
    tauto

/-- **The frames that a loop gives its iterations** are frames of its kind. -/
theorem fits_of_gives (hcourse : p.course config source = .ok course)
    (h : course.Gives s p k es st f) : ∃ item more, f = p.frame k item more ∧ p.Fits item more := by
  have hframes {fs : List Frame} {more : Nat → List (String × Value)} {vs : List Value}
      (hfs : fs = p.framesFrom more 0 vs) (h : fs[k]? = some f) :
      ∃ v, f = p.frame k (some v) (more k) := by
    rw [hfs, getElem?_framesFrom, Nat.zero_add] at h
    obtain ⟨v, -, hv⟩ := Option.map_eq_some_iff.mp h
    exact ⟨v, hv.symm⟩
  unfold LoopPlan.course at hcourse
  unfold Fits
  cases hkind : p.kind with
  | list =>
    simp only [hkind] at hcourse ⊢
    split at hcourse
    · cases hcourse
    · obtain rfl := Except.ok.inj hcourse
      obtain ⟨v, rfl⟩ := hframes rfl h.1
      exact ⟨_, _, rfl, rfl, rfl⟩
  | pagination =>
    simp only [hkind] at hcourse ⊢
    split at hcourse
    · cases hcourse
    · split at hcourse
      · cases hcourse
      · obtain rfl := Except.ok.inj hcourse
        obtain ⟨v, rfl⟩ := hframes rfl h.1
        exact ⟨_, _, rfl, rfl, rfl⟩
  | count =>
    simp only [hkind] at hcourse ⊢
    split at hcourse
    · cases hcourse
    · split at hcourse
      · cases hcourse
      · obtain rfl := Except.ok.inj hcourse
        obtain ⟨v, rfl⟩ := hframes rfl h.1
        exact ⟨_, _, rfl, rfl, rfl⟩
  | condition =>
    simp only [hkind] at hcourse ⊢
    split at hcourse
    · cases hcourse
    · obtain rfl := Except.ok.inj hcourse
      exact ⟨none, [], h.1, rfl, rfl⟩

/-! ### The values of a frame -/

variable {v : Value} {l : Layout}

/-- **A frame shows an item** and the numbers that come with it. -/
structure ShowsItem (p : LoopPlan) (k : Nat) (f : Frame) (v : Value)
    (numbers : List (String × Value)) : Prop where
  /-- The item, unless the second name for the index is the same. -/
  item : f.bindings.get? LoopVariable.itemName =
    some (if p.indexAlias = some LoopVariable.itemName then .ofNat k else v)
  /-- The numbers. -/
  numbers : ∀ b ∈ numbers, f.bindings.get? b.1 = some b.2

/-- **A frame shows the iteration of some number**, given the source of the loop. The total of
a counting loop is counted no further than one over its cap. -/
structure Shows (p : LoopPlan) (config : Config) (source : Option Value) (k : Nat)
    (f : Frame) : Prop where
  /-- The number of the iteration, from zero. -/
  index : f.bindings.get? LoopVariable.indexName = some (.ofNat k)
  /-- The number of the iteration, from one, unless the second name for the index is the
  same. -/
  iteration : f.bindings.get? LoopVariable.iterationName =
    some (.ofNat (if p.indexAlias = some LoopVariable.iterationName then k else k + 1))
  /-- What the loop goes over. -/
  element : match p.kind with
    | .list => ∃ items v, source = some items ∧ items.toItems[k]? = some v ∧
        p.ShowsItem k f v [(LoopVariable.totalName, .ofNat items.toItems.length)]
    | .count => ∃ r, p.count = some r ∧ k < r.size ∧
        p.ShowsItem k f (.ofInt (r.nth k))
          [(LoopVariable.totalName, .ofNat (min r.size (p.cap config + 1)))]
    | .pagination => ∃ items, source = some items ∧
        let size := p.pageSize.getD defaultPageSize
        let length := items.toItems.length
        k * size < length ∧
          p.ShowsItem k f (.list ((items.toItems.drop (k * size)).take size))
            [(LoopVariable.totalName, .ofNat length),
              (LoopVariable.currentPageName, .ofNat (k + 1)),
              (LoopVariable.pageSizeName, .ofNat size),
              (LoopVariable.totalPageName, .ofNat ((length + size - 1) / size))]
    | .condition => True

/-- A frame shows its item and what comes last in it. -/
theorem showsItem_frame (hnames : (more.map Prod.fst).Nodup)
    (hitem : LoopVariable.itemName ∉ more.map Prod.fst) :
    p.ShowsItem k (p.frame k (some v) more) v more :=
  ⟨get?_frame_item (Keyed.get?_ofList_of_not_mem hitem),
    fun _ hb => get?_frame_of_more (Keyed.get?_ofList_of_mem hnames hb)⟩

/-- A loop that has its source and goes over nothing goes by its test. -/
theorem kind_of_layout_eq_none (hcourse : p.course config source = .ok course)
    (hl : p.layout? config source = none) : p.kind = .condition := by
  unfold LoopPlan.course at hcourse
  unfold layout? at hl
  cases hkind : p.kind with
  | condition => rfl
  | list | count | pagination =>
    simp only [hkind, Option.map_eq_none_iff] at hcourse hl
    simp only [hl] at hcourse
    cases hcourse

/-- What comes last in the frames of a loop over elements: the total, and where it goes over
pages, the numbers of the page. -/
theorem names_more (hl : p.layout? config source = some l) :
    (l.more k).map Prod.fst = [LoopVariable.totalName] ∨
      (l.more k).map Prod.fst = [LoopVariable.totalName, LoopVariable.currentPageName,
        LoopVariable.pageSizeName, LoopVariable.totalPageName] := by
  unfold layout? at hl
  split at hl
  case h_4 => cases hl
  all_goals obtain ⟨_, -, rfl⟩ := Option.map_eq_some_iff.mp hl
  · exact Or.inl rfl
  · exact Or.inl rfl
  · exact Or.inr rfl

/-- **The frame of an iteration shows it**, with the element of its number. -/
theorem shows_frame_of_layout (hcourse : p.course config source = .ok course)
    (hl : p.layout? config source = some l) (hv : l.elements[k]? = some v) :
    p.Shows config source k (p.frame k (some v) (l.more k)) := by
  have hmore : ((l.more k).map Prod.fst).Nodup ∧
      LoopVariable.itemName ∉ (l.more k).map Prod.fst ∧
      LoopVariable.indexName ∉ (l.more k).map Prod.fst ∧
      LoopVariable.iterationName ∉ (l.more k).map Prod.fst := by
    rcases names_more (k := k) hl with h | h <;> rw [h] <;> decide
  obtain ⟨hnames, hitem, hindex, hiteration⟩ := hmore
  have hshows := showsItem_frame (p := p) (k := k) (v := v) hnames hitem
  refine ⟨get?_frame_index (Keyed.get?_ofList_of_not_mem hindex),
    get?_frame_iteration (Keyed.get?_ofList_of_not_mem hiteration), ?_⟩
  unfold LoopPlan.course at hcourse
  unfold layout? at hl
  cases hkind : p.kind with
  | list =>
    simp only [hkind] at hl ⊢
    obtain ⟨items, hsource, rfl⟩ := Option.map_eq_some_iff.mp hl
    exact ⟨items, v, hsource, hv, hshows⟩
  | count =>
    simp only [hkind] at hl ⊢
    obtain ⟨r, hcount, rfl⟩ := Option.map_eq_some_iff.mp hl
    rw [List.getElem?_map] at hv
    obtain ⟨n, hn, rfl⟩ := Option.map_eq_some_iff.mp hv
    rw [CountRange.all, List.getElem?_map] at hn
    obtain ⟨i, hi, rfl⟩ := Option.map_eq_some_iff.mp hn
    obtain ⟨hk, rfl⟩ := List.getElem?_eq_some_iff.mp hi
    rw [List.length_range] at hk
    rw [List.getElem_range] at hshows
    refine ⟨r, hcount, hk, ?_⟩
    simpa [CountRange.all] using hshows
  | pagination =>
    simp only [hkind] at hl ⊢
    obtain ⟨items, rfl, rfl⟩ := Option.map_eq_some_iff.mp hl
    simp only [hkind] at hcourse
    split at hcourse
    case isTrue => cases hcourse
    case isFalse hsize =>
      have hpos := Nat.pos_of_ne_zero hsize
      rw [List.getElem?_map, getElem?_pages hpos] at hv
      split at hv
      case isFalse => cases hv
      case isTrue hlt =>
        obtain rfl := Option.some.inj hv
        refine ⟨items, rfl, hlt, ?_⟩
        rw [← length_pages hpos]
        exact hshows
  | condition => trivial

/-- Without an item, the frame of an iteration shows its number. -/
theorem shows_frame_of_test (hkind : p.kind = .condition) :
    p.Shows config source k (p.frame k none []) :=
  ⟨get?_frame_index rfl, get?_frame_iteration rfl, by rw [hkind]; trivial⟩

end LoopPlan

/-! ### Names that are listed -/

/-- What a frame binds is listed in the scope that it is on top of, with its description. -/
theorem Scope.mem_entries_push {s : Scope} {f : Frame} {name : String} {v : Value}
    (h : f.bindings.get? name = some v) :
    ⟨name, v, f.description? name⟩ ∈ (s.push f).entries := by
  have hmem := Keyed.mem_of_get?_eq_some h
  have hshown : f.bindings.filter (fun b => !([] : List String).contains b.1) = f.bindings :=
    List.filter_eq_self.mpr fun _ _ => rfl
  rw [entries, push, entriesBeyond, hshown]
  exact List.mem_append_left _ (List.mem_map.mpr ⟨(name, v), hmem, rfl⟩)

/-- A name has a description if it is one of those described. -/
theorem Frame.exists_description {f : Frame} {name : String}
    (h : name ∈ f.described.map (·.name)) :
    ∃ x ∈ f.described, x.name = name ∧ f.description? name = some x.description := by
  obtain ⟨y, hy, hyname⟩ := List.mem_map.mp h
  cases hfind : f.described.find? (·.name == name) with
  | none => exact absurd (List.find?_eq_none.mp hfind y hy) (by simp [hyname])
  | some x =>
    refine ⟨x, List.mem_of_find?_eq_some hfind, by simpa using List.find?_some hfind, ?_⟩
    rw [description?, hfind]
    rfl

namespace Chain

/-! ### Every iteration of a chain -/

/-- Whether the iterations of a part have been laid out by the plan of its loop. -/
def Part.LaidOut (s : ChainSetting) : Part → Prop
  | .iterations plan _ course _ => ∃ source, plan.course s.config source = .ok course
  | _ => True

/-- **At every iteration that is told of**, the frame on top of the scope is one that its loop
gives. -/
theorem Tale.exists_frame {s : ChainSetting} {part : Part} {scope : Scope} {es : List Event}
    (h : Tale s part scope es) (hpart : part.LaidOut s) {plan : LoopPlan} {k : Nat}
    {st : ChainState} (hmem : .remark (.iteration plan k st) ∈ es) :
    ∃ outer f source course front, st.scope = Scope.push outer f ∧
      plan.course s.config source = .ok course ∧ course.Gives s plan k front st f := by
  induction h with
  | listOver => cases hmem
  | passedOver _ hw _ ih => exact ih trivial (by simpa [hw.decodes.remark_notMem] using hmem)
  | carriedOut _ hw _ _ ih₁ ih₂ =>
    rcases List.mem_append.mp (by simpa [hw.decodes.remark_notMem] using hmem) with hmem | hmem
    · exact ih₁ trivial hmem
    · exact ih₂ trivial hmem
  | lastAttempt _ _ ih => exact ih trivial (by simpa using hmem)
  | attempted _ _ _ ih₁ ih₂ =>
    rcases List.mem_append.mp (by simpa using hmem) with hmem | hmem
    · exact ih₁ trivial hmem
    · exact ih₂ trivial hmem
  | silent => cases hmem
  | grouped _ _ ih => exact ih trivial hmem
  | looped _ _ hcourse _ ih => exact ih ⟨_, hcourse⟩ hmem
  | loopOver => cases hmem
  | loopEnded _ _ htest => exact absurd hmem htest.decodes.remark_notMem
  | iterated hscope _ hgives _ _ ih₁ ih₂ =>
    have hmem := (List.mem_append.mp hmem).resolve_left hgives.remark_notMem
    rcases List.mem_cons.mp hmem with heq | hmem
    · obtain ⟨rfl, rfl, rfl⟩ := Remark.iteration.inj (Event.remark.inj heq)
      obtain ⟨source, hcourse⟩ := hpart
      exact ⟨_, _, source, _, _, hscope, hcourse, hgives⟩
    · rcases List.mem_append.mp hmem with hmem | hmem
      · exact ih₁ trivial hmem
      · exact ih₂ hpart hmem

/-- **At every iteration among some events**, the names that the frame on top of the scope binds
are those that the loop offers, and what is listed of them has their descriptions. -/
def OffersVariables (events : List Event) : Prop :=
  ∀ plan k st, .remark (.iteration plan k st) ∈ events →
    ∃ outer f, st.scope = Scope.push outer f ∧
      (∀ name, name ∈ f.bindings.names ↔ name ∈ plan.loopVariables.map (·.name)) ∧
      ∀ name v, f.bindings.get? name = some v → ∃ x ∈ plan.loopVariables, x.name = name ∧
        ⟨name, v, some x.description⟩ ∈ st.scope.entries

/-- Where a tale is told of some events, every iteration offers its variables. -/
theorem offersVariables_of_tale {s : ChainSetting} {part : Part} {scope : Scope}
    {es : List Event} (h : Tale s part scope (toldOf es)) (hpart : part.LaidOut s) :
    OffersVariables es := by
  intro plan k st hmem
  obtain ⟨outer, f, source, course, front, hscope, hcourse, hgives⟩ :=
    h.exists_frame hpart (mem_toldOf_of_remark hmem)
  obtain ⟨item, more, rfl, hfits⟩ := LoopPlan.fits_of_gives hcourse hgives
  refine ⟨outer, _, hscope, fun _ => LoopPlan.mem_names_frame hfits, fun name v hv => ?_⟩
  have hoffered : name ∈ plan.loopVariables.map (·.name) :=
    (LoopPlan.mem_names_frame hfits).mp
      (Keyed.mem_names_iff.mpr (Option.isSome_iff_exists.mpr ⟨v, hv⟩))
  obtain ⟨x, hx, hname, hdescription⟩ := Frame.exists_description
    (f := plan.frame k item more) hoffered
  refine ⟨x, hx, hname, ?_⟩
  rw [hscope, ← hdescription]
  exact Scope.mem_entries_push hv

/-- **What a loop offers is what its frames bind.** Whatever the surroundings do, at every
iteration in a chain, and in every action of one, the frame on top of the scope binds the variables
that the loop offers and no other names; and each of its bindings is listed in the scope with the
description of such a variable. Nothing is asked of the second names. -/
theorem loop_offers_variables (s : ChainSetting) (st : ChainState) (b : Behaviour)
    (before : List Event) :
    (∀ actions, OffersVariables ((execute s actions st).under b before).1) ∧
      ∀ depth strategy a,
        OffersVariables ((effect s (runDepth s depth) strategy a st).under b before).1 := by
  constructor
  · intro actions
    obtain ⟨es, r, st', hes, hlist, -⟩ :=
      run_execute (Script.run_under b (execute s actions st) before)
    have hoffers := offersVariables_of_tale (happens_of_run hlist).told trivial
    rw [hes]
    intro plan k st₁ hmem
    exact hoffers plan k st₁ (by simpa using hmem)
  · intro depth strategy a
    have hrun := Script.run_under b (effect s (runDepth s depth) strategy a st) before
    exact offersVariables_of_tale (happens_of_effect (listsKeep s depth) hrun).told trivial

/-- **Loops show their iterations.** Whatever the surroundings do, what happens in a loop is a
row of rounds, and the frame that a round puts on the scope shows the iteration of its number.
-/
theorem loop_shows_iterations (s : ChainSetting) (depth : Nat) (strategy : Recovery) (head : Head)
    (plan : LoopPlan) (body : List Action) (hint : ∀ r, plan.count = some r → r.IsInt64)
    (st : ChainState) (b : Behaviour) (before : List Event) :
    let run := (effect s (runDepth s depth) strategy (.loop head plan body) st).under b before
    ∃ source st₁, (sourceOf plan).Run st [] (.ok source) st₁ ∧
      ∀ course, plan.course s.config source = .ok course → ∃ rounds,
        Rounds s plan (runDepth s depth (some strategy) body) 0 st₁ run.1 rounds run.2.1 run.2.2 ∧
        ∀ (k : Nat) (x : Round), rounds[k]? = some x →
          x.start.scope = st.scope.push x.frame ∧ plan.Shows s.config source k x.frame := by
  have hrun := Script.run_under b
    (effect s (runDepth s depth) strategy (.loop head plan body) st) before
  generalize (effect s (runDepth s depth) strategy (.loop head plan body) st).under b before =
    run at hrun
  obtain ⟨events, result, after⟩ := run
  obtain ⟨source, st₁, hsource, hloop⟩ := run_loop hrun
  refine ⟨source, st₁, hsource, fun course hcourse => ?_⟩
  obtain ⟨r, rfl, hiterations⟩ := hloop course hcourse
  obtain ⟨rounds, hrounds, hscope, hover⟩ :=
    rounds_of_loop (fun _ => hint) hsource hcourse hiterations
  refine ⟨rounds, hrounds, fun k x hx => ⟨hscope x (List.mem_of_getElem? hx), ?_⟩⟩
  split at hover
  case h_1 l hl =>
    obtain ⟨v, hv, hframe⟩ := hover.frame k x hx
    rw [hframe]
    exact LoopPlan.shows_frame_of_layout hcourse hl hv
  case h_2 hl =>
    obtain ⟨test, -, hwhile⟩ := hover
    rw [hwhile.frame_eq hx]
    exact LoopPlan.shows_frame_of_test (LoopPlan.kind_of_layout_eq_none hcourse hl)

/-- A loop that counts to two and calls the index by another name shows its
iterations. -/
theorem counting_shows_iterations :
    let upToTwo : CountRange := { start := 1, stop := 2, step := 1 }
    let plan : LoopPlan :=
      { kind := .count, count := some upToTwo, indexAlias := some "number" }
    let body := [Action.proceed { id := "on" }]
    let s : ChainSetting := { form := {} }
    let run := (effect s (runDepth s 1) .abort (.loop { id := "each" } plan body) {}).under
      withoutUser []
    (∀ r, plan.count = some r → r.IsInt64) ∧ run.2.1 = .ok .next ∧ ∃ rounds,
      Rounds s plan (runDepth s 1 (some .abort) body) 0 {} run.1 rounds run.2.1 run.2.2 ∧
      ∀ (k : Nat) (x : Round), rounds[k]? = some x →
        x.start.scope = ({} : ChainState).scope.push x.frame ∧ plan.Shows s.config none k x.frame := by
  intro upToTwo plan body s
  have hint : ∀ r, plan.count = some r → r.IsInt64 := by
    rintro _ ⟨⟩
    exact ⟨by decide, by decide⟩
  have hresult : ((effect s (runDepth s 1) .abort (.loop { id := "each" } plan body) {}).under
      withoutUser []).2.1 = .ok .next := rfl
  obtain ⟨source, st₁, hsource, hrounds⟩ :=
    loop_shows_iterations s 1 .abort { id := "each" } plan body hint {} withoutUser []
  generalize (effect s (runDepth s 1) .abort (.loop { id := "each" } plan body) {}).under
    withoutUser [] = run at hresult hrounds ⊢
  obtain ⟨-, hnone, rfl⟩ := Step.run_pure.mp hsource
  obtain rfl := Except.ok.inj hnone
  obtain ⟨rounds, hrounds, hshows⟩ := hrounds _ rfl
  exact ⟨hint, hresult, rounds, hrounds, hshows⟩

/-- What a name means in the iterations among some events. -/
def meantIn (name : String) (es : List Event) : List (Option Value) :=
  (remarksOf es).filterMap fun
    | .iteration _ _ st => some (st.scope.get? name)
    | _ => none

/-- **The index can hide the item, and the number of the iteration.** The check of a form finds
nothing wrong with that. -/
theorem index_hides_item :
    let letters := Value.list [.text "a"]
    let form (other : String) : Form := { actions := [.loop { id := "each" }
      { kind := .list, source := some letters, indexAlias := some other }
      [.proceed { id := "on" }]] }
    let meant (name : String) (f : Form) :=
      meantIn name ((execute { form := f } f.actions {}).under withoutUser []).1
    (form "item").errors = [] ∧
      meant "item" (form "item") = [some (.ofNat 0)] ∧
      (form "iteration").errors = [] ∧
      meant "iteration" (form "iteration") = [some (.ofNat 0)] :=
  ⟨by decide, rfl, by decide, rfl⟩

end Chain

end FormChain
