import FormChain.Text.Blank
import FormChain.Text.Pieces
import FormChain.Vault.Error

/-!
# Paths in a vault

A path is a row of segments with slashes between them; a backslash is as good as a
slash. Blanks at the ends of segments, empty segments and single points do not count. A
path in which two points stand for a segment is refused wherever they stand, so no path
leads out of its vault.
-/

namespace FormChain

namespace VaultPath

/-- A slash for a backslash. -/
def slashed (c : Char) : Char :=
  if c = '\\' then '/' else c

/-- The pieces between slashes, without blanks at their ends. -/
def rawSegments (path : String) : List (List Char) :=
  (Text.pieces '/' (path.toList.map slashed)).map Text.trim

/-- Whether a segment does not count. -/
def isIdle (segment : List Char) : Bool :=
  segment.isEmpty || segment = ['.']

/-- Whether a segment leads up. -/
def leadsUp (segment : List Char) : Bool :=
  segment = ['.', '.']

/-- **The segments of a path**; there is at least one. -/
def segments? (path : String) : Except VaultError (List String) :=
  let raw := rawSegments path
  let kept := raw.filter fun s => !isIdle s
  if raw.any leadsUp || kept.isEmpty then .error (.invalidPath path)
  else .ok (kept.map String.ofList)

/-- The path with slashes between segments. -/
def ofSegments (segments : List String) : String :=
  Text.joined "/" segments

/-- **The plain form of a path**, under which a vault keeps its file. -/
def normalize? (path : String) : Except VaultError String :=
  (segments? path).map ofSegments

/-- The paths of the folders on the way to the last of some segments, below a folder. -/
def foldersBelow (place : List String) : List String → List String
  | [] => []
  | [_] => []
  | s :: rest => ofSegments (place ++ [s]) :: foldersBelow (place ++ [s]) rest

/-- The segments of a path in plain form. -/
def segmentsOf (path : String) : List String :=
  (Text.pieces '/' path.toList).map String.ofList

/-- The paths of the folders that a path in plain form lies in, outermost first. -/
def parentFolders (path : String) : List String :=
  foldersBelow [] (segmentsOf path)

/-- What follows the last slash. -/
def lastName (path : String) : String :=
  match Text.cutLast? '/' path.toList with
  | some (_, name) => String.ofList name
  | none => path

end VaultPath

end FormChain
