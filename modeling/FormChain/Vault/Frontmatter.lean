import FormChain.Text.Blank
import FormChain.Text.Pieces
import FormChain.Text.Utf8

/-!
# Frontmatter

A note may start with a block of properties between two fences: its first line and a
later one that read `---`, blanks at their ends aside. Places in a text are told in
bytes of its UTF-8 form.
-/

namespace FormChain

/-- A range of bytes in a text. -/
structure ByteRange where
  /-- The first byte. -/
  start : Nat
  /-- The byte behind the last one. -/
  stop : Nat
  deriving DecidableEq, Repr

namespace Frontmatter

/-- Whether a line is a fence. -/
def isFence (line : List Char) : Bool :=
  Text.trimEnd line = ['-', '-', '-']

/-- Lines up to the first fence, which is the last of them. -/
def uptoFence? : List (List Char) → Option (List (List Char))
  | [] => none
  | line :: rest =>
    if isFence line then some [line] else (uptoFence? rest).map (line :: ·)

/-- The lines of the block at the start of a text, the fences among them. -/
def block? (text : List Char) : Option (List (List Char)) :=
  match Text.linesWithEnds text with
  | first :: rest =>
    if first.getLast? = some '\n' && isFence first then (uptoFence? rest).map (first :: ·)
    else none
  | [] => none

/-- **Where the frontmatter of a text is**, if it has any. -/
def range? (text : String) : Option ByteRange :=
  (block? text.toList).map fun lines => ⟨0, Utf8.size lines.flatten⟩

end Frontmatter

end FormChain
