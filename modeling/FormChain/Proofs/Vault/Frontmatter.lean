import FormChain.Proofs.Text.Cutting
import FormChain.Vault.Frontmatter

/-!
# What the frontmatter of a text is

The block of properties at the start of a text is told by its lines
(`FormChain.Frontmatter.IsBlock`): the first one is a fence with a line feed behind it, and the
block goes up to the next fence, which may be the last line of the text and lack its line feed.
There is at most one such block. It is a start of the text, so the bytes that are said to be the
frontmatter are whole characters (`FormChain.Frontmatter.range?_eq_some_iff`).

A text that has no block has nothing as its frontmatter, which is a start of it as well
(`FormChain.Frontmatter.front_isPrefix`).
-/

namespace FormChain

namespace Frontmatter

/-- **The block of properties of a text**: its first line, which has a line feed and is a fence,
and all lines behind it up to the next fence. -/
def IsBlock (text block : List Char) : Prop :=
  ∃ first inner last rest, Text.linesWithEnds text = first :: (inner ++ last :: rest) ∧
    first.getLast? = some '\n' ∧ isFence first = true ∧ (∀ line ∈ inner, isFence line = false) ∧
      isFence last = true ∧ block = first ++ inner.flatten ++ last

/-- **The frontmatter of a text**: its block of properties, or nothing if there is none. -/
def IsFront (text start : List Char) : Prop :=
  IsBlock text start ∨ (∀ block, ¬ IsBlock text block) ∧ start = []

section Lines

variable {lines upto : List (List Char)}

/-- The lines up to the first fence. -/
theorem uptoFence?_eq_some_iff : uptoFence? lines = some upto ↔
    ∃ inner last rest, lines = inner ++ last :: rest ∧ (∀ line ∈ inner, isFence line = false) ∧
      isFence last = true ∧ upto = inner ++ [last] := by
  have hsearch := @Text.search_eq_some_iff _ _ (isFence · = true) _ uptoFence?
    (fun last _ => [last]) List.cons rfl (fun _ _ => rfl) lines upto
  simp only [hsearch, Bool.not_eq_true, List.foldr_cons_eq_append', eq_comm (b := upto)]

end Lines

section Blocks

variable {text block start : List Char}

/-- **The lines that are found** are those of the block. -/
theorem isBlock_iff : IsBlock text block ↔ (block? text).map List.flatten = some block := by
  rw [Option.map_eq_some_iff, block?]
  constructor
  · rintro ⟨first, inner, last, rest, hlines, hfeed, hfirst, hinner, hlast, rfl⟩
    have hupto : uptoFence? (inner ++ last :: rest) = some (inner ++ [last]) :=
      uptoFence?_eq_some_iff.mpr ⟨inner, last, rest, rfl, hinner, hlast, rfl⟩
    refine ⟨first :: (inner ++ [last]), ?_, by simp⟩
    simp only [hlines, hfeed, hfirst, hupto, decide_true, Bool.and_self, if_true,
      Option.map_some]
  · rintro ⟨found, h, rfl⟩
    split at h
    case h_2 => cases h
    case h_1 first lines hlines =>
      split at h
      case isFalse => cases h
      case isTrue hopens =>
        obtain ⟨hfeed, hfirst⟩ := Bool.and_eq_true_iff.mp hopens
        obtain ⟨upto, hupto, rfl⟩ := Option.map_eq_some_iff.mp h
        obtain ⟨inner, last, rest, rfl, hinner, hlast, rfl⟩ := uptoFence?_eq_some_iff.mp hupto
        exact ⟨first, inner, last, rest, hlines, of_decide_eq_true hfeed, hfirst, hinner, hlast,
          by simp⟩

/-- **A block is a start of its text.** -/
theorem IsBlock.isPrefix (h : IsBlock text block) : block <+: text := by
  obtain ⟨first, inner, last, rest, hlines, -, -, -, -, rfl⟩ := h
  refine ⟨rest.flatten, ?_⟩
  rw [← Text.flatten_linesWithEnds text, hlines]
  simp

/-- The frontmatter of a text, as it is found. -/
def front (text : List Char) : List Char := ((block? text).map List.flatten).getD []

/-- **Every text has one frontmatter**, if it may be nothing. -/
theorem isFront_iff : IsFront text start ↔ start = front text := by
  rw [IsFront, front]
  simp only [isBlock_iff]
  cases hblock : (block? text).map List.flatten with
  | none => simp
  | some block => simp [eq_comm]

/-- **The frontmatter of a text is a start of it.** -/
theorem front_isPrefix : front text <+: text := by
  rcases isFront_iff.mpr rfl with hblock | ⟨-, hnone⟩
  · exact hblock.isPrefix
  · rw [hnone]
    exact List.nil_prefix

end Blocks

/-- **Where the frontmatter is said to be**: from the start on, as far as the block of properties
goes. -/
theorem range?_eq_some_iff {text : String} {range : ByteRange} :
    range? text = some range ↔
      ∃ block, IsBlock text.toList block ∧ range = ⟨0, Utf8.size block⟩ := by
  simp only [range?, isBlock_iff, Option.map_eq_some_iff]
  constructor
  · rintro ⟨lines, hlines, rfl⟩
    exact ⟨lines.flatten, ⟨lines, hlines, rfl⟩, rfl⟩
  · rintro ⟨_, ⟨lines, hlines, rfl⟩, rfl⟩
    exact ⟨lines, hlines, rfl⟩

/-- How far the frontmatter is said to go, taking none as nothing. -/
theorem stop_range? (text : String) :
    ((range? text).map (·.stop)).getD 0 = Utf8.size (front text.toList) := by
  rw [range?, front]
  cases block? text.toList <;> rfl

end Frontmatter

end FormChain
