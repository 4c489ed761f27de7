import FormChain.Chain.Error
import FormChain.Chain.Items
import FormChain.Chain.Scope
import FormChain.Config

/-!
# How loops run

A loop over a list, a range or pages has its iterations laid out before the first one
starts; each has a frame with what it binds. A loop under a condition goes on for as
long as the condition holds. No loop has more iterations than its cap allows.

What a frame binds: the item under its second name and its own name, the number of the
iteration from zero and from one, the second name of the former, and the numbers that
belong to the kind of loop. Where names are the same, the later of these counts.
-/

namespace FormChain

namespace LoopPlan

/-- The greatest number of iterations. -/
def cap (p : LoopPlan) (config : Config) : Nat :=
  p.maxIterations.getD config.maxLoopIterations

/-- **The source of a loop over a list or pages.** Other loops do not look at theirs. -/
def listed (p : LoopPlan) : Option Value :=
  match p.kind with
  | .list | .pagination => p.source
  | .count | .condition => none

/-! ### Frames -/

/-- The bindings of an item. -/
def itemBindings (p : LoopPlan) (item : Value) : List (String × Value) :=
  (givenAlias p.itemAlias).toList.map (·, item) ++ [(LoopVariable.itemName, item)]

/-- The bindings of the number of an iteration. -/
def indexBindings (p : LoopPlan) (index : Nat) : List (String × Value) :=
  [(LoopVariable.indexName, .ofNat index), (LoopVariable.iterationName, .ofNat (index + 1))] ++
    (givenAlias p.indexAlias).toList.map (·, .ofNat index)

/-- **The frame of an iteration**, with an item if there is one and with further
bindings. -/
def frame (p : LoopPlan) (index : Nat) (item : Option Value) (more : List (String × Value)) :
    Frame where
  bindings := Keyed.ofList
    ((item.map p.itemBindings).getD [] ++ p.indexBindings index ++ more)
  described := p.loopVariables

/-- The frames of a loop over items, from some number on. -/
def framesFrom (p : LoopPlan) (more : Nat → List (String × Value)) :
    (index : Nat) → List Value → List Frame
  | _, [] => []
  | i, v :: rest => p.frame i (some v) (more i) :: framesFrom p more (i + 1) rest

/-- The frames of a loop over items. -/
def itemFrames (p : LoopPlan) (items : List Value) : List Frame :=
  let total := items.length
  p.framesFrom (fun _ => [(LoopVariable.totalName, .ofNat total)]) 0 items

/-! ### Pages -/

/-- The pages of a list, each with `size + 1` items but for the last, which may have
fewer. -/
def pagesFrom {α : Type} (size : Nat) (page : List α) : List α → List (List α)
  | [] => if page.isEmpty then [] else [page.reverse]
  | a :: rest =>
    if page.length < size then pagesFrom size (a :: page) rest
    else (a :: page).reverse :: pagesFrom size [] rest

/-- **The pages of a list**, with a positive number of items to a page. -/
def pages {α : Type} (size : Nat) (items : List α) : List (List α) :=
  pagesFrom (size - 1) [] items

/-- The frames of a loop over pages. -/
def pageFrames (p : LoopPlan) (size : Nat) (items : List Value) : List Frame :=
  let cut := pages size items
  let more (i : Nat) : List (String × Value) :=
    [(LoopVariable.totalName, .ofNat items.length),
      (LoopVariable.currentPageName, .ofNat (i + 1)),
      (LoopVariable.pageSizeName, .ofNat size),
      (LoopVariable.totalPageName, .ofNat cut.length)]
  p.framesFrom more 0 (cut.map .list)

/-- The size of pages where none is given. -/
def defaultPageSize : Nat := 10

end LoopPlan

/-! ### Ranges -/

namespace CountRange

/-- Whether an integer lies before the end of a range, or on it. -/
def reaches (r : CountRange) (n : Int) : Bool :=
  (0 < r.step && n ≤ r.stop) || (r.step < 0 && r.stop ≤ n)

/-- At most `room` integers of a range, from one on. The range ends where the next one
would not be an integer of 64 bits. -/
def integersFrom (r : CountRange) : (room : Nat) → Int → List Int
  | 0, _ => []
  | room + 1, n =>
    if r.reaches n then
      let next := n + r.step
      if Decimal.minInt64 ≤ next && next ≤ Decimal.maxInt64 then
        n :: integersFrom r room next
      else [n]
    else []

/-- **The integers of a range**, no more than one over a cap. -/
def integers (r : CountRange) (cap : Nat) : List Int :=
  r.integersFrom (cap + 1) r.start

end CountRange

/-! ### Plans -/

/-- **What a loop does**, once its source is known. -/
inductive LoopCourse where
  /-- One iteration for every frame. -/
  | frames (fs : List Frame)
  /-- Iterations while a condition holds. -/
  | whileHolds (test : Filter)

/-- **How a loop runs**, given the value of its source. -/
def LoopPlan.course (p : LoopPlan) (config : Config) (source : Option Value) :
    Except Misuse LoopCourse :=
  match p.kind with
  | .list =>
    match source with
    | none => .error (.sourceNeeded .list)
    | some v => .ok (.frames (p.itemFrames v.toItems))
  | .pagination =>
    match source with
    | none => .error (.sourceNeeded .pagination)
    | some v =>
      let size := p.pageSize.getD LoopPlan.defaultPageSize
      if size = 0 then .error .emptyPages else .ok (.frames (p.pageFrames size v.toItems))
  | .count =>
    match p.count with
    | none => .error .rangeNeeded
    | some r =>
      if r.step = 0 then .error .zeroStep
      else .ok (.frames (p.itemFrames ((r.integers (p.cap config)).map .ofInt)))
  | .condition =>
    match p.test with
    | none => .error .conditionNeeded
    | some test => .ok (.whileHolds test)

end FormChain
