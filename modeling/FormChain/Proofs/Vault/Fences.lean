import FormChain.Proofs.Text.Cutting
import FormChain.Proofs.Vault.Frontmatter
import FormChain.Proofs.Vault.Placing

/-!
# Fences around the frontmatter

The block of properties at the start of a text is told here by the text itself and not by its list
of lines: a line that is a fence, with its line feed, lines that are no fences, and the next fence,
which may be the last line of the text and lack its line feed (`FormChain.Frontmatter.Encloses`).
It is the block of the text (`FormChain.Frontmatter.isBlock_iff_encloses`).

The block can be scanned for as well, from place to place in the text, where places are told in
bytes (`FormChain.Frontmatter.Scanned`). A scan stands at the start of a line at every time, so it
tears no character; it goes on by the bytes of that line, and a line that takes none is the end of
the text. So it ends on every text, and with the block that is found
(`FormChain.Frontmatter.scanned_iff`).

Main statement: the frontmatter of a text is said to be where the scan ends, which is the place that
cuts the text behind the block, or nowhere if the text does not start with one
(`FormChain.Frontmatter.range?_cuts_block`).
-/

namespace FormChain

namespace Frontmatter

/-! ### Lines up to a fence -/

/-- **Lines up to the first fence**, and what is behind them: lines that are no fences, and a fence
with its line feed, which the last line of a text may lack. -/
def Closes (upto rest : List Char) : Prop :=
  ∃ (inner : List (List Char)) (last ending : List Char),
    upto = inner.flatMap (· ++ ['\n']) ++ last ++ ending ∧
      (∀ line ∈ inner, '\n' ∉ line ∧ isFence line = false) ∧ '\n' ∉ last ∧ isFence last = true ∧
        (ending = ['\n'] ∨ ending = [] ∧ rest = [])

/-- **A text that starts with a block of properties**, and what is behind the block. -/
def Encloses (block rest : List Char) : Prop :=
  ∃ first upto, block = first ++ '\n' :: upto ∧ '\n' ∉ first ∧ isFence first = true ∧
    Closes upto rest

/-- What is found of a text up to the first fence. -/
def closed? (cs : List Char) : Option (List Char) :=
  (uptoFence? (Text.linesWithEnds cs)).map List.flatten

section Fences

variable {text cs line rest upto block : List Char}

/-- The line feed of a line is a blank. -/
theorem isFence_feed : isFence (line ++ ['\n']) = isFence line := by
  rw [isFence, isFence, Text.trimEnd_append (List.all_eq_true.mp rfl)]

theorem closed?_of_not_mem (h : '\n' ∉ line) :
    closed? line = if isFence line = true then some line else none := by
  rw [closed?, Text.linesWithEnds_of_not_mem h]
  split
  case isTrue hnil =>
    subst hnil
    rfl
  case isFalse =>
    rw [uptoFence?]
    split
    · exact congrArg some (List.append_nil _)
    · rfl

theorem closed?_append (h : '\n' ∉ line) :
    closed? (line ++ '\n' :: rest) =
      if isFence line = true then some (line ++ ['\n'])
      else (closed? rest).map (line ++ '\n' :: ·) := by
  rw [closed?, Text.linesWithEnds_append h, uptoFence?, isFence_feed]
  split
  · exact congrArg some (List.append_nil _)
  · simp [closed?, Function.comp_def]

theorem closed?_of_closes (h : Closes upto rest) : closed? (upto ++ rest) = some upto := by
  obtain ⟨inner, last, ending, rfl, hinner, hnot, hlast, hending⟩ := h
  induction inner with
  | nil =>
    rw [List.flatMap_nil, List.nil_append]
    rcases hending with rfl | ⟨rfl, rfl⟩
    · rw [List.append_assoc]
      exact (closed?_append hnot).trans (if_pos hlast)
    · rw [List.append_nil, List.append_nil]
      exact (closed?_of_not_mem hnot).trans (if_pos hlast)
  | cons line inner ih =>
    obtain ⟨⟨hline, hfence⟩, hinner⟩ := List.forall_mem_cons.mp hinner
    have hsplit : List.flatMap (· ++ ['\n']) (line :: inner) ++ last ++ ending =
        line ++ '\n' :: (inner.flatMap (· ++ ['\n']) ++ last ++ ending) := by
      simp
    rw [hsplit, List.append_assoc, List.cons_append, closed?_append hline,
      if_neg (Bool.eq_false_iff.mp hfence), ih hinner]
    rfl

theorem exists_closes (h : closed? cs = some upto) :
    ∃ rest, upto ++ rest = cs ∧ Closes upto rest := by
  induction cs using Text.lines_induction generalizing upto with
  | last line hline =>
    rw [closed?_of_not_mem hline] at h
    split at h
    case isTrue hfence =>
      obtain rfl := Option.some.inj h
      exact ⟨[], List.append_nil _, [], line, [], by simp, by simp, hline, hfence, .inr ⟨rfl, rfl⟩⟩
    case isFalse => cases h
  | more line rest hline ih =>
    rw [closed?_append hline] at h
    split at h
    case isTrue hfence =>
      obtain rfl := Option.some.inj h
      exact ⟨rest, by simp, [], line, ['\n'], by simp, by simp, hline, hfence, .inl rfl⟩
    case isFalse hfence =>
      obtain ⟨upto, hclosed, rfl⟩ := Option.map_eq_some_iff.mp h
      obtain ⟨behind, rfl, inner, last, ending, rfl, hinner, hrest⟩ := ih hclosed
      refine ⟨behind, by simp, line :: inner, last, ending, by simp, ?_, hrest⟩
      exact List.forall_mem_cons.mpr ⟨⟨hline, Bool.eq_false_iff.mpr hfence⟩, hinner⟩

/-- The block is found behind the first line. -/
theorem block?_append (h : '\n' ∉ line) :
    (block? (line ++ '\n' :: rest)).map List.flatten =
      if isFence line = true then (closed? rest).map (line ++ '\n' :: ·) else none := by
  rw [block?, Text.linesWithEnds_append h]
  simp only [List.getLast?_concat, decide_true, Bool.true_and, isFence_feed]
  split
  · simp [closed?, Function.comp_def]
  · rfl

theorem block?_of_not_mem (h : '\n' ∉ text) : block? text = none := by
  rw [block?, Text.linesWithEnds_of_not_mem h]
  split_ifs with hnil
  · rfl
  · have hfeed : text.getLast? ≠ some '\n' := fun hlast => h (List.mem_of_mem_getLast? hlast)
    simp [hfeed]

/-- **The block of a text** is the one that the text starts with. -/
theorem isBlock_iff_encloses :
    IsBlock text block ↔ ∃ rest, block ++ rest = text ∧ Encloses block rest := by
  rw [isBlock_iff]
  constructor
  · intro h
    by_cases hmem : '\n' ∈ text
    · obtain ⟨first, rest, rfl, hfirst⟩ := List.eq_append_cons_of_mem hmem
      rw [block?_append hfirst] at h
      split at h
      case isTrue hfence =>
        obtain ⟨upto, hclosed, rfl⟩ := Option.map_eq_some_iff.mp h
        obtain ⟨behind, rfl, hcloses⟩ := exists_closes hclosed
        exact ⟨behind, by simp, first, upto, rfl, hfirst, hfence, hcloses⟩
      case isFalse => cases h
    · rw [block?_of_not_mem hmem] at h
      cases h
  · rintro ⟨rest, rfl, first, upto, rfl, hfirst, hfence, hcloses⟩
    rw [List.append_assoc, List.cons_append, block?_append hfirst, if_pos hfence,
      closed?_of_closes hcloses]
    rfl

/-- The frontmatter goes as far as the block that is found. -/
theorem range?_eq_map (text : String) : range? text =
    ((block? text.toList).map List.flatten).map fun block => ⟨0, Utf8.size block⟩ := by
  rw [range?, Option.map_map]
  rfl

end Fences

/-! ### The scan -/

/-- The line that starts at a place of a text, told in bytes, without its line feed, and how many
bytes it takes with it. -/
def lineAt? (text : List Char) (place : Nat) : Option (List Char × Nat) :=
  (Edit.cutBytes? place text).map fun (_, rest) =>
    match Text.cutFirst? '\n' rest with
    | some (line, _) => (line, Utf8.size line + 1)
    | none => (rest, Utf8.size rest)

/-- **A scan for a fence** from a place of a text on, with what it ends with. -/
inductive Scan (text : List Char) : Nat → Option ByteRange → Prop where
  /-- The text is at an end before the place. -/
  | beyond {place : Nat} (h : Utf8.size text < place) : Scan text place none
  /-- A fence ends the block. -/
  | fence {place taken : Nat} {line : List Char} (hat : lineAt? text place = some (line, taken))
      (hline : isFence line = true) : Scan text place (some ⟨0, place + taken⟩)
  /-- A line that takes no bytes is the last one. -/
  | spent {place : Nat} {line : List Char} (hat : lineAt? text place = some (line, 0))
      (hline : isFence line = false) : Scan text place none
  /-- Any other line is passed. -/
  | pass {place taken : Nat} {line : List Char} {result : Option ByteRange}
      (hat : lineAt? text place = some (line, taken)) (hline : isFence line = false)
      (htaken : taken ≠ 0) (behind : Scan text (place + taken) result) : Scan text place result

/-- **A scan of a text**: its first line has a line feed and is a fence, or nothing is found;
another fence is scanned for behind it. -/
inductive Scanned (text : List Char) : Option ByteRange → Prop where
  /-- There is no line feed. -/
  | endless (h : Text.cutFirst? '\n' text = none) : Scanned text none
  /-- The first line is no fence. -/
  | bare {first rest : List Char} (h : Text.cutFirst? '\n' text = some (first, rest))
      (hfirst : isFence first = false) : Scanned text none
  /-- The first line is a fence. -/
  | opened {first rest : List Char} {result : Option ByteRange}
      (h : Text.cutFirst? '\n' text = some (first, rest)) (hfirst : isFence first = true)
      (scan : Scan text (Utf8.size first + 1) result) : Scanned text result

section Scans

variable {text front cs line rest : List Char} {place : Nat} {result result' : Option ByteRange}

theorem lineAt?_of_not_mem (h : '\n' ∉ line) :
    lineAt? (front ++ line) (Utf8.size front) = some (line, Utf8.size line) := by
  rw [lineAt?, Edit.cutBytes?_eq_some_iff.mpr ⟨rfl, rfl⟩]
  simp only [Option.map_some, Text.cutFirst?_of_not_mem h]

theorem lineAt?_append (h : '\n' ∉ line) :
    lineAt? (front ++ (line ++ '\n' :: rest)) (Utf8.size front) =
      some (line, Utf8.size line + 1) := by
  rw [lineAt?, Edit.cutBytes?_eq_some_iff.mpr ⟨rfl, rfl⟩]
  simp only [Option.map_some, Text.cutFirst?_eq_some_iff.mpr ⟨rfl, h⟩]

/-- There is no line beyond the end. -/
theorem lineAt?_beyond (h : Utf8.size text < place) : lineAt? text place = none := by
  rw [lineAt?, Option.map_eq_none_iff, Option.eq_none_iff_forall_ne_some]
  rintro ⟨a, b⟩ hcut
  obtain ⟨rfl, rfl⟩ := Edit.cutBytes?_eq_some_iff.mp hcut
  rw [Utf8.size_append] at h
  omega

/-- **A scan ends in one way.** -/
theorem Scan.unique (h : Scan text place result) (h' : Scan text place result') :
    result = result' := by
  induction h with
  | beyond h =>
    have hnone := lineAt?_beyond h
    cases h' <;> simp_all
  | fence hat hline | spent hat hline =>
    cases h' with
    | beyond h => simp_all [lineAt?_beyond h]
    | fence | spent | pass => simp_all
  | pass hat hline htaken _ ih =>
    cases h' with
    | beyond h => simp_all [lineAt?_beyond h]
    | fence | spent => simp_all
    | pass hat' _ _ behind =>
      obtain ⟨rfl, rfl⟩ := Prod.mk.inj (Option.some.inj (hat.symm.trans hat'))
      exact ih behind

/-- A line feed takes one byte. -/
theorem size_line (line : List Char) : Utf8.size (line ++ ['\n']) = Utf8.size line + 1 := by
  have hone : Utf8.size ['\n'] = 1 := by decide
  rw [Utf8.size_append, hone]

theorem size_line_append (line behind : List Char) :
    Utf8.size (line ++ '\n' :: behind) = Utf8.size line + 1 + Utf8.size behind := by
  rw [← size_line, ← Utf8.size_append, List.append_assoc, List.singleton_append]

/-- **A scan ends behind the first fence** that there is, from any line on. -/
theorem scan_closed (front cs : List Char) :
    Scan (front ++ cs) (Utf8.size front)
      ((closed? cs).map fun upto => ⟨0, Utf8.size front + Utf8.size upto⟩) := by
  induction cs using Text.lines_induction generalizing front with
  | last line hline =>
    have hat := @lineAt?_of_not_mem front line hline
    rw [closed?_of_not_mem hline]
    split_ifs with hfence
    · exact .fence hat hfence
    · have hfence := Bool.eq_false_iff.mpr hfence
      by_cases hnone : Utf8.size line = 0
      · exact .spent (hnone ▸ hat) hfence
      · -- the place behind the last line is still in the text, and what starts there is empty
        refine .pass hat hfence hnone ?_
        have hend := @lineAt?_of_not_mem (front ++ line) [] List.not_mem_nil
        rw [List.append_nil, Utf8.size_append] at hend
        exact .spent hend rfl
  | more line rest hline ih =>
    have hat := @lineAt?_append front line rest hline
    rw [closed?_append hline]
    split_ifs with hfence
    · rw [Option.map_some, size_line]
      exact .fence hat hfence
    · refine .pass hat (Bool.eq_false_iff.mpr hfence) (Nat.succ_ne_zero _) ?_
      have hscan := ih (front ++ (line ++ ['\n']))
      rw [Utf8.size_append, size_line, List.append_assoc, List.append_assoc,
        List.singleton_append] at hscan
      simpa only [Option.map_map, Function.comp_def, size_line_append, Nat.add_assoc] using hscan

/-- A text whose first line is a fence is scanned behind that line. -/
theorem scan_opened {text : String} (h : Text.cutFirst? '\n' text.toList = some (line, rest))
    (hfence : isFence line = true) : Scan text.toList (Utf8.size line + 1) (range? text) := by
  obtain ⟨htext, hline⟩ := Text.cutFirst?_eq_some_iff.mp h
  have hscan := scan_closed (line ++ ['\n']) rest
  rw [size_line, List.append_assoc, List.singleton_append] at hscan
  rw [range?_eq_map, htext, block?_append hline, if_pos hfence]
  simpa only [Option.map_map, Function.comp_def, size_line_append] using hscan

theorem range?_of_bare {text : String} (h : Text.cutFirst? '\n' text.toList = some (line, rest))
    (hfence : isFence line = false) : range? text = none := by
  obtain ⟨htext, hline⟩ := Text.cutFirst?_eq_some_iff.mp h
  rw [range?_eq_map, htext, block?_append hline, if_neg (Bool.eq_false_iff.mp hfence)]
  rfl

theorem range?_of_endless {text : String} (h : Text.cutFirst? '\n' text.toList = none) :
    range? text = none := by
  rw [range?_eq_map, block?_of_not_mem (Text.cutFirst?_eq_none_iff.mp h)]
  rfl

/-- **A scan of a text ends**, and in one way: with what is said to be the frontmatter. -/
theorem scanned_iff {text : String} : Scanned text.toList result ↔ result = range? text := by
  constructor
  · rintro (h | ⟨h, hfirst⟩ | ⟨h, hfirst, scan⟩)
    · exact (range?_of_endless h).symm
    · exact (range?_of_bare h hfirst).symm
    · exact scan.unique (scan_opened h hfirst)
  · rintro rfl
    rcases h : Text.cutFirst? '\n' text.toList with _ | ⟨first, rest⟩
    · exact range?_of_endless h ▸ .endless h
    · cases hfirst : isFence first with
      | false => exact range?_of_bare h hfirst ▸ .bare h hfirst
      | true => exact .opened h hfirst (scan_opened h hfirst)

end Scans

/-- **The frontmatter of a text is said to be where a scan for its fences ends.** It goes from the
start to the place that cuts the text behind the block of properties, which is no further than the
end of the text, and there is none if the text does not start with such a block. -/
theorem range?_cuts_block (text : String) :
    (∀ result, Scanned text.toList result ↔ result = range? text) ∧
    (∀ range, range? text = some range ↔ range.start = 0 ∧ ∃ block rest, Encloses block rest ∧
      Edit.cutBytes? range.stop text.toList = some (block, rest)) ∧
    (∀ range, range? text = some range → range.stop ≤ Utf8.size text.toList) ∧
    (range? text = none ↔ ¬ ∃ block rest, Encloses block rest ∧ block ++ rest = text.toList) := by
  have hsome (range : ByteRange) : range? text = some range ↔ range.start = 0 ∧
      ∃ block rest, Encloses block rest ∧
        Edit.cutBytes? range.stop text.toList = some (block, rest) := by
    obtain ⟨start, stop⟩ := range
    simp only [range?_eq_some_iff, isBlock_iff_encloses, Edit.cutBytes?_eq_some_iff,
      ByteRange.mk.injEq]
    constructor
    · rintro ⟨block, ⟨rest, htext, h⟩, rfl, rfl⟩
      exact ⟨rfl, block, rest, h, htext, rfl⟩
    · rintro ⟨rfl, block, rest, h, htext, rfl⟩
      exact ⟨block, ⟨rest, htext, h⟩, rfl, rfl⟩
  refine ⟨fun result => scanned_iff, hsome, fun range h => ?_, ?_⟩
  · obtain ⟨-, block, rest, -, hcut⟩ := (hsome range).mp h
    obtain ⟨htext, hsize⟩ := Edit.cutBytes?_eq_some_iff.mp hcut
    rw [← htext, ← hsize, Utf8.size_append]
    exact Nat.le_add_right ..
  · rw [Option.eq_none_iff_forall_ne_some]
    constructor
    · rintro h ⟨block, rest, hencloses, htext⟩
      exact h ⟨0, Utf8.size block⟩
        ((hsome _).mpr ⟨rfl, block, rest, hencloses, Edit.cutBytes?_eq_some_iff.mpr ⟨htext, rfl⟩⟩)
    · intro h range hrange
      obtain ⟨-, block, rest, hencloses, hcut⟩ := (hsome range).mp hrange
      exact h ⟨block, rest, hencloses, (Edit.cutBytes?_eq_some_iff.mp hcut).1⟩

end Frontmatter

end FormChain
