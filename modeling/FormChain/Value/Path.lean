import FormChain.Value.Basic
import FormChain.Text.Pieces
import FormChain.Decimal.Integer

/-!
# Paths into values

A path is a name and further segments, parted by points: in an object a segment names
a field, in a list it counts items from zero.
-/

namespace FormChain

/-- The segments of a path. There is always at least one. -/
def pathSegments (path : String) : List String :=
  (Text.pieces '.' path.toList).map String.ofList

namespace Value

/-- One step down. -/
def step? (v : Value) (segment : String) : Option Value :=
  match v with
  | .object fields => Keyed.get? fields segment
  | .list items => (Decimal.nat64? segment).bind fun i => items[i]?
  | _ => none

/-- All steps down, one after another. -/
def descend? (v : Value) (segments : List String) : Option Value :=
  segments.foldlM step? v

end Value

/-- **The value at a path**, where the first segment is looked up by `root`. -/
def resolvePath? (root : String → Option Value) (path : String) : Option Value :=
  match pathSegments path with
  | [] => none
  | name :: segments => (root name).bind (·.descend? segments)

end FormChain
