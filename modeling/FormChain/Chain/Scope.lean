import FormChain.Form.LoopVariable
import FormChain.Value.Path

/-!
# The scope of loops

A stack of frames, one for every loop whose body is running, the innermost first. A name
means what the innermost frame that binds it says; frames further out are hidden.

Main statements: a frame decides the names it binds (`get?_push_of_bound`) and leaves
the others alone (`get?_push_of_unbound`), and cutting back to the old depth undoes any
pushing (`truncate_depth_push`).
-/

namespace FormChain

/-- **The bindings of one iteration.** -/
structure Frame where
  /-- What the names are bound to. -/
  bindings : Bag
  /-- Descriptions of the names. -/
  described : List LoopVariable := []

/-- The description of a name. -/
def Frame.description? (f : Frame) (name : String) : Option String :=
  (f.described.find? (·.name == name)).map (·.description)

/-- **A stack of frames**, the innermost first. -/
structure Scope where
  /-- The frames. -/
  frames : List Frame := []

/-- A name in scope, with what it means. -/
structure ScopeEntry where
  /-- The name. -/
  name : String
  /-- What it is bound to. -/
  value : Value
  /-- Its description. -/
  description : Option String

namespace Scope

/-- The scope outside of every loop. -/
def empty : Scope := {}

/-- Enter an iteration. -/
def push (s : Scope) (f : Frame) : Scope := ⟨f :: s.frames⟩

/-- Leave an iteration; outside of every loop nothing happens. -/
def pop (s : Scope) : Scope := ⟨s.frames.tail⟩

/-- How many loops are running. -/
def depth (s : Scope) : Nat := s.frames.length

/-- Leave iterations until no more than `depth` loops are running. -/
def truncate (s : Scope) (depth : Nat) : Scope :=
  ⟨s.frames.drop (s.frames.length - depth)⟩

/-- Whether any loop is running. -/
def insideLoop (s : Scope) : Bool := !s.frames.isEmpty

/-- The bindings of the innermost iteration. -/
def current? (s : Scope) : Option Bag := s.frames.head?.map (·.bindings)

/-- **What a name means.** -/
def get? (s : Scope) (name : String) : Option Value :=
  s.frames.findSome? (·.bindings.get? name)

/-- What a path means. -/
def resolve? (s : Scope) (path : String) : Option Value :=
  resolvePath? s.get? path

/-- The entries of frames whose names are not among `hidden`. -/
def entriesBeyond (hidden : List String) : List Frame → List ScopeEntry
  | [] => []
  | f :: rest =>
    let shown := f.bindings.filter fun b => !hidden.contains b.1
    shown.map (fun b => ⟨b.1, b.2, f.description? b.1⟩) ++
      entriesBeyond (f.bindings.names ++ hidden) rest

/-- **Every name in scope**, once, with its innermost meaning: innermost frames first, and
in a frame in order of names. -/
def entries (s : Scope) : List ScopeEntry :=
  entriesBeyond [] s.frames

/-! ### Laws -/

/-- A frame decides the names that it binds. -/
theorem get?_push_of_bound {s : Scope} {f : Frame} {name : String} {v : Value}
    (h : f.bindings.get? name = some v) : (s.push f).get? name = some v := by
  simp [get?, push, h]

/-- A frame leaves the names alone that it does not bind. -/
theorem get?_push_of_unbound {s : Scope} {f : Frame} {name : String}
    (h : f.bindings.get? name = none) : (s.push f).get? name = s.get? name := by
  simp [get?, push, h]

/-- Leaving the iteration just entered gives the scope back. -/
@[simp] theorem pop_push (s : Scope) (f : Frame) : (s.push f).pop = s := rfl

/-- Entering an iteration makes the scope one deeper. -/
@[simp] theorem depth_push (s : Scope) (f : Frame) : (s.push f).depth = s.depth + 1 := rfl

/-- Cutting back to the old depth undoes the entering of an iteration. -/
@[simp] theorem truncate_depth_push (s : Scope) (f : Frame) :
    (s.push f).truncate s.depth = s := by
  simp [truncate, push, depth]

/-- Cutting back to the depth there is changes nothing. -/
@[simp] theorem truncate_depth (s : Scope) : s.truncate s.depth = s := by
  simp [truncate, depth]

end Scope

end FormChain
