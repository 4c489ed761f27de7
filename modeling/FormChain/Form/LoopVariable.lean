import FormChain.Form.Basic

/-!
# Variables of loops

The names that a loop binds while its body runs, with a description for people. The
same list serves the editor, which offers the names, and the scope, which describes
them.
-/

namespace FormChain

/-- **A variable that a loop binds.** -/
structure LoopVariable where
  /-- The name. -/
  name : String
  /-- What it holds. -/
  description : String
  /-- Whether the name is one that every loop of the kind binds. -/
  isStandard : Bool := true
  deriving DecidableEq, Repr

namespace LoopVariable

/-! ### Names -/

/-- The name of the current item. -/
def itemName : String := "item"

/-- The name of the number of the iteration, from zero. -/
def indexName : String := "index"

/-- The name of the number of items. -/
def totalName : String := "total"

/-- The name of the number of the iteration, from one. -/
def iterationName : String := "iteration"

/-- The name of the number of the page, from one. -/
def currentPageName : String := "currentPage"

/-- The name of the size of a page. -/
def pageSizeName : String := "pageSize"

/-- The name of the number of pages. -/
def totalPageName : String := "totalPage"

/-! ### Standard variables -/

/-- The number of the iteration, from zero. -/
def index : LoopVariable := ⟨indexName, "Zero-based iteration index", true⟩

/-- The number of the iteration, from one. -/
def iteration : LoopVariable := ⟨iterationName, "One-based iteration number", true⟩

/-- **The variables that every loop of a kind binds**; without a kind, those that every
loop binds. -/
def standard : Option LoopKind → List LoopVariable
  | some .list | some .count =>
    [⟨itemName, "Current element", true⟩, index,
      ⟨totalName, "Total number of iterations", true⟩, iteration]
  | some .pagination =>
    [⟨itemName, "Elements of the current page", true⟩, index,
      ⟨totalName, "Total number of elements", true⟩, iteration,
      ⟨currentPageName, "One-based page number", true⟩,
      ⟨pageSizeName, "Elements per page", true⟩,
      ⟨totalPageName, "Number of pages", true⟩]
  | some .condition | none => [index, iteration]

end LoopVariable

/-- A second name that is not empty. -/
def givenAlias (given : Option String) : Option String :=
  given.filter (!·.isEmpty)

/-- The variable of a second name for `name`. -/
def LoopVariable.ofAlias (name given : String) : LoopVariable :=
  ⟨given, "Alias of `" ++ name ++ "`", false⟩

/-- **The variables that a loop binds**: the standard ones of its kind and its second
names, the one for the item only where there is an item. -/
def LoopPlan.loopVariables (p : LoopPlan) : List LoopVariable :=
  let standard := LoopVariable.standard (some p.kind)
  let hasItem := standard.any (·.name == LoopVariable.itemName)
  let items := if hasItem then (givenAlias p.itemAlias).toList else []
  standard ++ items.map (.ofAlias LoopVariable.itemName) ++
    (givenAlias p.indexAlias).toList.map (.ofAlias LoopVariable.indexName)

end FormChain
