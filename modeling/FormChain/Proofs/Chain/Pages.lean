import FormChain.Proofs.Chain.Iterations
import FormChain.Proofs.Form.Fields

/-!
# The pages of a loop

A loop over pages cuts its list from the front (`FormChain.LoopPlan.pages_of_ne_nil`): the page
of some number is what the list has from a multiple of the size on
(`FormChain.LoopPlan.getElem?_pages`). So nothing gets lost
(`FormChain.LoopPlan.flatten_pages`), there are as many pages as the quotient of the lengths,
rounded up (`FormChain.LoopPlan.length_pages`), and only the last may be short
(`FormChain.LoopPlan.length_of_getElem?_pages`).

What the body sees of this is in the frame of the iteration. The numbers of a loop over pages
come last in it, so no second name hides them; the item and the number of the iteration are
hidden by a second name for the index that is the same.

Main statement: whatever the surroundings do, a loop over pages that is undisturbed and may have
enough iterations shows its body every page, with the right numbers
(`FormChain.Chain.loop_turns_pages`).
-/

namespace FormChain

namespace LoopPlan

/-! ### Cutting a list -/

section Cutting

variable {α : Type} {size k : Nat} {items page : List α}

/-- The items behind a page that is begun fill it up before there is a next page. -/
theorem pagesFrom_eq (h : page.length ≤ size) : pagesFrom size page items =
    if page.reverse ++ items = [] then []
    else (page.reverse ++ items).take (size + 1) ::
      pagesFrom size [] ((page.reverse ++ items).drop (size + 1)) := by
  induction items generalizing page with
  | nil =>
    cases page with
    | nil => rfl
    | cons a rest =>
      have hall : (a :: rest).reverse.length ≤ size + 1 := by
        rw [List.length_reverse]
        exact Nat.le_succ_of_le h
      rw [List.append_nil, List.take_of_length_le hall, List.drop_of_length_le hall]
      simp [pagesFrom]
  | cons a rest ih =>
    have hwhole : page.reverse ++ a :: rest = (a :: page).reverse ++ rest := by simp
    rw [pagesFrom, hwhole]
    split
    case isTrue hlt => exact ih hlt
    case isFalse hge =>
      have hfull : (a :: page).reverse.length = size + 1 := by
        rw [List.length_reverse, List.length_cons]
        omega
      rw [if_neg (by simp), ← hfull, List.take_left, List.drop_left]

@[simp] theorem pages_nil : pages size ([] : List α) = [] := rfl

/-- **A list is cut from the front.** -/
theorem pages_of_ne_nil (hsize : 0 < size) (h : items ≠ []) :
    pages size items = items.take size :: pages size (items.drop size) := by
  have heq := @pagesFrom_eq α (size - 1) items [] (Nat.zero_le _)
  rw [List.reverse_nil, List.nil_append, if_neg h, Nat.sub_add_cancel hsize] at heq
  exact heq

/-- **The page of some number** is what the list has from a multiple of the size on. -/
theorem getElem?_pages (hsize : 0 < size) : (pages size items)[k]? =
    if k * size < items.length then some ((items.drop (k * size)).take size) else none := by
  induction k generalizing items with
  | zero =>
    cases items with
    | nil => simp
    | cons a rest => simp [pages_of_ne_nil hsize]
  | succ k ih =>
    cases items with
    | nil => simp
    | cons a rest =>
      rw [pages_of_ne_nil hsize (by simp), List.getElem?_cons_succ, ih, List.drop_drop,
        List.length_drop, Nat.add_one_mul, Nat.add_comm size]
      simp only [Nat.lt_sub_iff_add_lt]

/-- The pages together are the list. -/
theorem flatten_pagesFrom : (pagesFrom size page items).flatten = page.reverse ++ items := by
  induction items generalizing page with
  | nil => cases page <;> simp [pagesFrom]
  | cons a rest ih =>
    rw [pagesFrom]
    split <;> simp [ih]

/-- **Nothing of a list gets lost between its pages**, and nothing comes twice. -/
theorem flatten_pages : (pages size items).flatten = items :=
  flatten_pagesFrom

/-- There is a page of some number if it begins inside of the list. -/
theorem lt_length_pages (hsize : 0 < size) :
    k < (pages size items).length ↔ k * size < items.length := by
  have hat : (pages size items)[k]? = _ := getElem?_pages hsize
  split at hat
  case isTrue h => exact iff_of_true (List.getElem?_eq_some_iff.mp hat).1 h
  case isFalse h => exact iff_of_false (Nat.not_lt.mpr (List.getElem?_eq_none_iff.mp hat)) h

/-- **There are as many pages** as the quotient of the lengths, rounded up. -/
theorem length_pages (hsize : 0 < size) :
    (pages size items).length = (items.length + size - 1) / size := by
  have hlt (k : Nat) : k < (pages size items).length ↔ k < (items.length + size - 1) / size := by
    rw [lt_length_pages hsize, ← Nat.add_one_le_iff (n := k), Nat.le_div_iff_mul_le hsize,
      Nat.add_one_mul]
    omega
  exact Nat.le_antisymm (Nat.not_lt.mp fun h => Nat.lt_irrefl _ ((hlt _).mp h))
    (Nat.not_lt.mp fun h => Nat.lt_irrefl _ ((hlt _).mpr h))

/-- **Only the last page may be short**, and it is not empty either. -/
theorem length_of_getElem?_pages (hsize : 0 < size) (h : (pages size items)[k]? = some page) :
    (k + 1 < (pages size items).length → page.length = size) ∧
      1 ≤ page.length ∧ page.length ≤ size := by
  rw [getElem?_pages hsize] at h
  split at h
  case isFalse => cases h
  case isTrue hbegins =>
    have hlength : page.length = min size (items.length - k * size) := by
      rw [← Option.some.inj h, List.length_take, List.length_drop]
    rw [lt_length_pages hsize, Nat.add_one_mul]
    omega

end Cutting

/-! ### What an iteration sees of its page -/

section Frames

variable {p : LoopPlan} {k : Nat} {item : Option Value} {v : Value}
  {more : List (String × Value)} {name : String}

/-- A second name is given if it is there, and it is not empty. -/
theorem givenAlias_eq_some_iff {given : Option String} (h : name ≠ "") :
    givenAlias given = some name ↔ given = some name := by
  simp [givenAlias, Option.filter_eq_some_iff, h]

/-- **What is found in a frame**: what comes last in it, else a number of the iteration, else
its item. -/
theorem get?_frame : (p.frame k item more).bindings.get? name =
    ((Keyed.ofList more).get? name).or (((Keyed.ofList (p.indexBindings k)).get? name).or
      ((Keyed.ofList ((item.map p.itemBindings).getD [])).get? name)) := by
  rw [frame, Keyed.get?_ofList_append, Keyed.get?_ofList_append]

/-- A second name for the index counts more than the names that a loop has of itself. -/
theorem get?_indexBindings : (Keyed.ofList (p.indexBindings k)).get? name =
    if givenAlias p.indexAlias = some name then some (.ofNat k)
    else if name = LoopVariable.iterationName then some (.ofNat (k + 1))
    else if name = LoopVariable.indexName then some (.ofNat k) else none := by
  have hstandard : (Keyed.ofList [(LoopVariable.indexName, Value.ofNat k),
      (LoopVariable.iterationName, .ofNat (k + 1))]).get? name =
      if name = LoopVariable.iterationName then some (.ofNat (k + 1))
      else if name = LoopVariable.indexName then some (.ofNat k) else none := by
    rw [Keyed.get?_ofList_cons, Keyed.get?_ofList_cons, Keyed.get?_ofList_nil]
    split <;> rfl
  rw [indexBindings, Keyed.get?_ofList_append, hstandard]
  cases givenAlias p.indexAlias with
  | none => rfl
  | some other =>
    rw [Option.toList_some, List.map_singleton, Keyed.get?_ofList_cons, Keyed.get?_ofList_nil,
      Option.none_or]
    by_cases heq : name = other
    · rw [if_pos heq, if_pos (congrArg some heq.symm)]
      rfl
    · rw [if_neg heq, if_neg fun h => heq (Option.some.inj h).symm]
      rfl

/-- What comes last in a frame counts. -/
theorem get?_frame_of_more {w : Value} (h : (Keyed.ofList more).get? name = some w) :
    (p.frame k item more).bindings.get? name = some w := by
  rw [get?_frame, h]
  rfl

/-- A frame binds the index, whatever second names there are. -/
theorem get?_frame_index (h : (Keyed.ofList more).get? LoopVariable.indexName = none) :
    (p.frame k item more).bindings.get? LoopVariable.indexName = some (.ofNat k) := by
  have hother : ¬ LoopVariable.indexName = LoopVariable.iterationName := by decide
  rw [get?_frame, h, get?_indexBindings, if_neg hother, if_pos rfl, ite_self]
  rfl

/-- A frame binds the number of the iteration, unless the index hides it. -/
theorem get?_frame_iteration (h : (Keyed.ofList more).get? LoopVariable.iterationName = none) :
    (p.frame k item more).bindings.get? LoopVariable.iterationName =
      some (.ofNat (if p.indexAlias = some LoopVariable.iterationName then k else k + 1)) := by
  have hname : LoopVariable.iterationName ≠ "" := by decide
  rw [get?_frame, h, get?_indexBindings, if_pos rfl]
  simp only [givenAlias_eq_some_iff hname]
  split <;> rfl

/-- A frame binds its item, unless the index hides it. -/
theorem get?_frame_item (h : (Keyed.ofList more).get? LoopVariable.itemName = none) :
    (p.frame k (some v) more).bindings.get? LoopVariable.itemName =
      some (if p.indexAlias = some LoopVariable.itemName then .ofNat k else v) := by
  have hitem : (Keyed.ofList (p.itemBindings v)).get? LoopVariable.itemName = some v := by
    rw [itemBindings, Keyed.get?_ofList_append, Keyed.get?_ofList_cons, if_pos rfl]
    rfl
  have hname : LoopVariable.itemName ≠ "" := by decide
  have hiteration : ¬ LoopVariable.itemName = LoopVariable.iterationName := by decide
  have hindex : ¬ LoopVariable.itemName = LoopVariable.indexName := by decide
  rw [get?_frame, h, get?_indexBindings, if_neg hiteration, if_neg hindex, Option.map_some,
    Option.getD_some, hitem]
  simp only [givenAlias_eq_some_iff hname]
  split <;> rfl

/-- **The numbers of a page.** -/
theorem get?_pageNumbers (size : Nat) (items : List Value) (k : Nat) :
    let numbers := Keyed.ofList (pageNumbers size items k)
    numbers.get? LoopVariable.itemName = none ∧
      numbers.get? LoopVariable.indexName = none ∧
      numbers.get? LoopVariable.iterationName = none ∧
      numbers.get? LoopVariable.currentPageName = some (.ofNat (k + 1)) ∧
      numbers.get? LoopVariable.totalPageName = some (.ofNat (pages size items).length) ∧
      numbers.get? LoopVariable.totalName = some (.ofNat items.length) ∧
      numbers.get? LoopVariable.pageSizeName = some (.ofNat size) := by
  simp [pageNumbers, Keyed.get?_ofList_cons, Keyed.get?_ofList_nil, LoopVariable.itemName,
    LoopVariable.indexName, LoopVariable.iterationName, LoopVariable.currentPageName,
    LoopVariable.totalPageName, LoopVariable.totalName, LoopVariable.pageSizeName]

end Frames

end LoopPlan

namespace Chain

/-! ### Turning pages -/

/-- What a name means to the body of a round. -/
def Round.sees (x : Round) (name : String) : Option Value :=
  x.start.scope.get? name

/-- **What the rounds of a loop over pages show its body**: the items `items`, with `size` of
them to a page. -/
structure TurnsPages (size : Nat) (items : List Value) (rounds : List Round) : Prop where
  /-- There are as many rounds as the quotient of the lengths, rounded up. -/
  length_eq : rounds.length = (items.length + size - 1) / size
  /-- The items of the rounds are pages, which together are the list; only the last page may
  be short. -/
  item : ∃ pages : List (List Value),
    rounds.map (·.sees LoopVariable.itemName) = pages.map (some <| .list ·) ∧
      pages.flatten = items ∧
      ∀ (k : Nat) (page : List Value), pages[k]? = some page →
        (k + 1 < pages.length → page.length = size) ∧ 1 ≤ page.length ∧ page.length ≤ size
  /-- The numbers of a round. -/
  numbers : ∀ (k : Nat) (x : Round), rounds[k]? = some x →
    x.sees LoopVariable.currentPageName = some (.ofNat (k + 1)) ∧
      x.sees LoopVariable.iterationName = some (.ofNat (k + 1)) ∧
      x.sees LoopVariable.totalPageName = some (.ofNat ((items.length + size - 1) / size)) ∧
      x.sees LoopVariable.totalName = some (.ofNat items.length) ∧
      x.sees LoopVariable.pageSizeName = some (.ofNat size)

section Turning

variable {s : ChainSetting} {plan : LoopPlan} {rounds : List Round} {scope : Scope} {size : Nat}
  {items : List Value}

theorem sees_of_frame {x : Round} {name : String} {v : Value}
    (hscope : x.start.scope = scope.push x.frame)
    (h : x.frame.bindings.get? name = some v) : x.sees name = some v := by
  rw [Round.sees, hscope]
  exact Scope.get?_push_of_bound h

/-- **Rounds over all the pages of a list show them.** -/
theorem turnsPages_of_roundsOver {cap : Nat} {undisturbed : Prop} (hsize : 0 < size)
    (hitem : plan.indexAlias ≠ some LoopVariable.itemName)
    (hiteration : plan.indexAlias ≠ some LoopVariable.iterationName)
    (hcap : (items.length + size - 1) / size ≤ cap)
    (hscope : ∀ x ∈ rounds, x.start.scope = scope.push x.frame)
    (h : RoundsOver plan cap
      ⟨(LoopPlan.pages size items).map .list, LoopPlan.pageNumbers size items⟩ rounds
      undisturbed)
    (hall : undisturbed) : TurnsPages size items rounds := by
  have hlength : rounds.length = (items.length + size - 1) / size := by
    rw [h.length_eq hall, List.length_map, LoopPlan.length_pages hsize, Nat.min_eq_left hcap]
  -- what the frame of a round binds is what its body sees
  have hround (k : Nat) (x : Round) (hx : rounds[k]? = some x) :
      ∃ page, (LoopPlan.pages size items)[k]? = some page ∧
        x.frame = plan.frame k (some (.list page)) (LoopPlan.pageNumbers size items k) ∧
        x.start.scope = scope.push x.frame := by
    obtain ⟨v, hv, hframe⟩ := h.frame k x hx
    rw [List.getElem?_map] at hv
    obtain ⟨page, hpage, rfl⟩ := Option.map_eq_some_iff.mp hv
    exact ⟨page, hpage, hframe, hscope x (List.mem_of_getElem? hx)⟩
  refine ⟨hlength, ⟨LoopPlan.pages size items, ?_, LoopPlan.flatten_pages,
    fun _ _ => LoopPlan.length_of_getElem?_pages hsize⟩, fun k x hx => ?_⟩
  · refine List.ext_getElem? fun k => ?_
    rw [List.getElem?_map, List.getElem?_map]
    cases hx : rounds[k]? with
    | none =>
      have hover := List.getElem?_eq_none_iff.mp hx
      rw [hlength, ← LoopPlan.length_pages hsize] at hover
      rw [List.getElem?_eq_none_iff.mpr hover]
      rfl
    | some x =>
      obtain ⟨page, hpage, hframe, hpush⟩ := hround k x hx
      obtain ⟨hnone, -⟩ := LoopPlan.get?_pageNumbers size items k
      have hsees : x.sees LoopVariable.itemName = some (.list page) := by
        rw [sees_of_frame hpush (hframe ▸ LoopPlan.get?_frame_item hnone), if_neg hitem]
      rw [hpage, Option.map_some, Option.map_some, hsees]
  · obtain ⟨page, -, hframe, hpush⟩ := hround k x hx
    obtain ⟨-, -, hnone, hcurrent, hpages, htotal, hpageSize⟩ :=
      LoopPlan.get?_pageNumbers size items k
    rw [LoopPlan.length_pages hsize] at hpages
    have hsees : x.sees LoopVariable.iterationName = some (.ofNat (k + 1)) := by
      rw [sees_of_frame hpush (hframe ▸ LoopPlan.get?_frame_iteration hnone), if_neg hiteration]
    exact ⟨sees_of_frame hpush (hframe ▸ LoopPlan.get?_frame_of_more hcurrent), hsees,
      sees_of_frame hpush (hframe ▸ LoopPlan.get?_frame_of_more hpages),
      sees_of_frame hpush (hframe ▸ LoopPlan.get?_frame_of_more htotal),
      sees_of_frame hpush (hframe ▸ LoopPlan.get?_frame_of_more hpageSize)⟩

end Turning

/-- **A loop over pages shows its body every page, with the right numbers**, where it is
undisturbed and may have an iteration for every page. -/
theorem loop_turns_pages (s : ChainSetting) (depth : Nat) (strategy : Recovery) (head : Head)
    (plan : LoopPlan) (body : List Action) (hkind : plan.kind = .pagination)
    (hsize : 0 < plan.pageSize.getD LoopPlan.defaultPageSize)
    (hitem : plan.indexAlias ≠ some LoopVariable.itemName)
    (hiteration : plan.indexAlias ≠ some LoopVariable.iterationName)
    (st : ChainState) (b : Behaviour) (before : List Event) :
    let run := (effect s (runDepth s depth) strategy (.loop head plan body) st).under b before
    let size := plan.pageSize.getD LoopPlan.defaultPageSize
    ∃ source st₁, (sourceOf plan).Run st [] (.ok source) st₁ ∧
      ∀ v, source = some v → (v.toItems.length + size - 1) / size ≤ plan.cap s.config →
        ∃ rounds, Rounds s plan (runDepth s depth (some strategy) body) 0 st₁ run.1 rounds
            run.2.1 run.2.2 ∧
          (Undisturbed rounds run.2.1 → TurnsPages size v.toItems rounds) := by
  have hrun := Script.run_under b
    (effect s (runDepth s depth) strategy (.loop head plan body) st) before
  generalize (effect s (runDepth s depth) strategy (.loop head plan body) st).under b before =
    run at hrun
  obtain ⟨events, result, after⟩ := run
  obtain ⟨source, st₁, hsource, hloop⟩ := run_loop hrun
  refine ⟨source, st₁, hsource, ?_⟩
  rintro v rfl hcap
  have hcourse : plan.course s.config (some v) = .ok (.frames (plan.pageFrames
      (plan.pageSize.getD LoopPlan.defaultPageSize) v.toItems)) := by
    simp [LoopPlan.course, hkind, Nat.ne_of_gt hsize]
  have hlayout : plan.layout? s.config (some v) = some
      ⟨(LoopPlan.pages (plan.pageSize.getD LoopPlan.defaultPageSize) v.toItems).map .list,
        LoopPlan.pageNumbers (plan.pageSize.getD LoopPlan.defaultPageSize) v.toItems⟩ := by
    simp [LoopPlan.layout?, hkind]
  obtain ⟨r, rfl, hiterations⟩ := hloop _ hcourse
  obtain ⟨rounds, hrounds, hscope, hover⟩ :=
    rounds_of_loop (by simp [hkind]) hsource hcourse hiterations
  rw [hlayout] at hover
  exact ⟨rounds, hrounds, turnsPages_of_roundsOver hsize hitem hiteration hcap hscope hover⟩

/-- A loop with two of three numbers to a page turns two pages. -/
theorem numbers_turn_pages :
    let numbers := Value.list [.ofNat 1, .ofNat 2, .ofNat 3]
    let plan : LoopPlan := { kind := .pagination, source := some numbers, pageSize := some 2 }
    let body := [Action.proceed { id := "on" }]
    let s : ChainSetting := { form := {} }
    let run := (effect s (runDepth s 1) .abort (.loop { id := "numbers" } plan body) {}).under
      withoutUser []
    plan.kind = .pagination ∧ 0 < plan.pageSize.getD LoopPlan.defaultPageSize ∧
      plan.indexAlias ≠ some LoopVariable.itemName ∧
      plan.indexAlias ≠ some LoopVariable.iterationName ∧
      (numbers.toItems.length + 2 - 1) / 2 ≤ plan.cap s.config ∧ run.2.1 = .ok .next ∧
      ∃ rounds st₁, Rounds s plan (runDepth s 1 (some .abort) body) 0 st₁ run.1 rounds run.2.1
          run.2.2 ∧
        (Undisturbed rounds run.2.1 → TurnsPages 2 numbers.toItems rounds) := by
  intro numbers plan body s
  have hresult : ((effect s (runDepth s 1) .abort (.loop { id := "numbers" } plan body)
      {}).under withoutUser []).2.1 = .ok .next := rfl
  obtain ⟨source, st₁, hsource, hrounds⟩ := loop_turns_pages s 1 .abort { id := "numbers" } plan
    body rfl (by decide) (by decide) (by decide) {} withoutUser []
  generalize (effect s (runDepth s 1) .abort (.loop { id := "numbers" } plan body) {}).under
    withoutUser [] = run at hresult hrounds ⊢
  have hnumbers : ∃ st', sourceOf plan {} = .done (.ok (some numbers), st') := ⟨_, rfl⟩
  obtain ⟨st', hst'⟩ := hnumbers
  rw [Step.Run, hst', Script.run_done] at hsource
  obtain rfl : source = some numbers := Except.ok.inj (congrArg Prod.fst hsource.2)
  obtain ⟨rounds, hrounds, hpages⟩ := hrounds numbers rfl (by decide)
  exact ⟨rfl, by decide, by decide, by decide, by decide, hresult, rounds, st₁, hrounds, hpages⟩

end Chain

end FormChain
