import FormChain.Proofs.Text.Cutting
import FormChain.Proofs.Vault.Frontmatter
import FormChain.Proofs.Vault.Growth
import Mathlib.Data.List.TakeWhile

/-!
# Where insertions go

An insertion cuts the text of a file in two and puts its own text between the parts, on lines of
its own (`FormChain.Edit.onOwnLines_eq`). A place that is told in bytes cuts a text if and only if
some start of it has just so many bytes (`FormChain.Edit.cutBytes?_eq_some_iff`), that is, where no
character is torn.

A heading is looked for among the lines of a text (`FormChain.Edit.IsHeadline`), and the cut is
behind the first that is found (`FormChain.Edit.cutAfterHeading?_eq_some_iff`).
-/

namespace FormChain

namespace Utf8

variable {cs ds : List Char}

theorem size_append : size (cs ++ ds) = size cs + size ds := by
  induction cs with
  | nil => simp [size]
  | cons c cs ih => simp only [List.cons_append, size, ih, Nat.add_assoc]

theorem size_eq_zero : size cs = 0 ↔ cs = [] := by
  cases cs with
  | nil => simp [size]
  | cons c cs =>
    have hpos := c.utf8Size_pos
    simp only [size, reduceCtorEq, iff_false]
    omega

/-- Of starts of one text, a shorter one has fewer bytes. -/
theorem eq_of_size_eq {cs' ds' : List Char} (h : cs ++ ds = cs' ++ ds')
    (hsize : size cs = size cs') : cs = cs' := by
  rcases List.append_eq_append_iff.mp h with ⟨more, rfl, -⟩ | ⟨more, rfl, -⟩
  · have hmore : size more = 0 := by
      rw [size_append] at hsize
      omega
    rw [size_eq_zero.mp hmore, List.append_nil]
  · have hmore : size more = 0 := by
      rw [size_append] at hsize
      omega
    rw [size_eq_zero.mp hmore, List.append_nil]

end Utf8

namespace Edit

/-! ### Lines of its own -/

/-- **What is put between two parts of a text**: a line feed goes in front of it if there is a part
before it that does not end in one, and behind it if there is a part behind it and it does not end
in one itself. -/
theorem onOwnLines_eq (before text behind : List Char) :
    onOwnLines before text behind =
      before ++ (if before ≠ [] ∧ before.getLast? ≠ some '\n' then ['\n'] else []) ++ text ++
        (if behind ≠ [] ∧ text.getLast? ≠ some '\n' then ['\n'] else []) ++ behind := by
  have hfeed (near other : List Char) : (if near.isEmpty then [] else lineFeedBehind other) =
      if near ≠ [] ∧ other.getLast? ≠ some '\n' then ['\n'] else [] := by
    cases near with
    | nil => simp
    | cons => simp [lineFeedBehind, ite_not]
  rw [onOwnLines, hfeed before before, hfeed behind text]

/-! ### Places in bytes -/

section Bytes

variable {n : Nat} {cs a b : List Char}

/-- **A place in bytes cuts a text** just where a start of it has so many. -/
theorem cutBytes?_eq_some_iff : cutBytes? n cs = some (a, b) ↔ a ++ b = cs ∧ Utf8.size a = n := by
  constructor
  · intro h
    refine ⟨append_of_cutBytes? h, ?_⟩
    fun_induction cutBytes? n cs generalizing a b with
    | case1 cs =>
      obtain ⟨rfl, rfl⟩ := Prod.mk.inj (Option.some.inj h)
      rfl
    | case2 => cases h
    | case3 n c cs hfits ih =>
      obtain ⟨⟨a', b'⟩, hcut, hab⟩ := Option.map_eq_some_iff.mp h
      obtain ⟨rfl, rfl⟩ := Prod.mk.inj hab
      have hsize := ih hcut
      simp only [Utf8.size] at hsize hfits ⊢
      omega
    | case4 => cases h
  · rintro ⟨rfl, rfl⟩
    induction a with
    | nil => simp [Utf8.size, cutBytes?]
    | cons c a ih =>
      have hpos := c.utf8Size_pos
      obtain ⟨n, hn⟩ : ∃ n, Utf8.size (c :: a) = n + 1 := ⟨Utf8.size (c :: a) - 1, by
        simp only [Utf8.size]
        omega⟩
      have hrest : n + 1 - Utf8.size [c] = Utf8.size a := by
        simp only [← hn, Utf8.size]
        omega
      have hfits : Utf8.size [c] ≤ n + 1 := by
        simp only [← hn, Utf8.size]
        omega
      rw [hn, List.cons_append, cutBytes?, if_pos hfits, hrest, ih]
      rfl

/-- **Inserting behind a start of a text**, told by its bytes. -/
theorem applied?_insertAt {old : String} (text : String) (h : a ++ b = old.toList) :
    (insertAt (Utf8.size a) text).applied? old =
      some (String.ofList (onOwnLines a text.toList b)) := by
  have hle : Utf8.size a ≤ Utf8.size old.toList := by
    rw [← h, Utf8.size_append]
    exact Nat.le_add_right ..
  rw [applied?, Nat.min_eq_left hle, cutBytes?_eq_some_iff.mpr ⟨h, rfl⟩]
  rfl

/-- Inserting at the end. -/
theorem applied?_insertAtEnd (old text : String) :
    (insertAtEnd text).applied? old =
      some (String.ofList (onOwnLines old.toList text.toList [])) := rfl

end Bytes

/-! ### Headings -/

/-- What a heading says: what is left of it without blanks around it, without number signs in
front, and without blanks around the rest. -/
def wording (heading : List Char) : List Char :=
  Text.trim (Text.stripStart '#' (Text.trim heading))

/-- **A line that is a heading**: it starts with a number sign and says the same. -/
def IsHeadline (heading line : List Char) : Prop :=
  line.head? = some '#' ∧ wording line = wording heading

instance (heading line : List Char) : Decidable (IsHeadline heading line) :=
  inferInstanceAs (Decidable (_ ∧ _))

/-- **A text up to a heading**, and what is behind it: all lines up to the first one that is the
heading, and the others. -/
def PartsAtHeading (heading upto behind : List Char) : Prop :=
  ∃ before line after, Text.linesWithEnds (upto ++ behind) = before ++ line :: after ∧
    (∀ l ∈ before, ¬ IsHeadline heading l) ∧ IsHeadline heading line ∧
      upto = before.flatten ++ line ∧ behind = after.flatten

section Headings

variable {heading line : List Char} {lines a b : List (List Char)}

/-- Blanks at its end do not matter for the start of a text that begins with none. -/
theorem head?_trimEnd {c : Char} (hc : isBlank c = false) :
    (Text.trimEnd line).head? = some c ↔ line.head? = some c := by
  obtain ⟨blanks, hline⟩ := @Text.trimEnd_isPrefix line
  constructor
  · intro h
    rw [← hline, List.head?_append, h]
    rfl
  · intro h
    obtain ⟨rest, rfl⟩ : ∃ rest, line = c :: rest := by
      cases line with
      | nil => cases h
      | cons d rest => exact ⟨rest, congrArg (· :: rest) (Option.some.inj h)⟩
    cases hend : Text.trimEnd (c :: rest) with
    | cons d more =>
      rw [hend] at hline
      rw [(List.cons.inj hline).1]
      rfl
    | nil =>
      rw [Text.trimEnd, List.reverse_eq_nil_iff, List.dropWhile_eq_nil_iff] at hend
      have hblank := hend c (by simp)
      rw [hc] at hblank
      cases hblank

/-- **The lines that are found** are those that are the heading. -/
theorem isHeading_iff : isHeading (headingText (Text.trim heading)) line = true ↔
    IsHeadline heading line := by
  rw [isHeading, Bool.and_eq_true, decide_eq_true_eq, decide_eq_true_eq,
    head?_trimEnd (by decide), IsHeadline, wording, wording]
  refine and_congr_right fun hhead => ?_
  have hstart : Text.trimStart line = line := Text.trimStart_eq_self fun c hc => by
    obtain rfl := Option.some.inj (hhead.symm.trans hc)
    decide
  have htrim : Text.trimEnd line = Text.trim line := by rw [Text.trim, hstart]
  rw [htrim]
  rfl

/-- Lines are cut behind the first that is the heading. -/
theorem cutAfter?_eq_some_iff :
    cutAfter? (headingText (Text.trim heading)) lines = some (a, b) ↔
      ∃ before line, lines = before ++ line :: b ∧ (∀ l ∈ before, ¬ IsHeadline heading l) ∧
        IsHeadline heading line ∧ a = before ++ [line] := by
  have hsearch := @Text.search_eq_some_iff _ _ (IsHeadline heading) _
    (cutAfter? (headingText (Text.trim heading))) (fun line rest => ([line], rest))
    (fun line b => (line :: b.1, b.2)) rfl (fun line rest => by
      simp only [cutAfter?, isHeading_iff]) lines (a, b)
  simp only [hsearch, Text.foldr_pass, Prod.mk.injEq]
  constructor
  · rintro ⟨before, line, _, hlines, hbefore, hline, rfl, rfl⟩
    exact ⟨before, line, hlines, hbefore, hline, rfl⟩
  · rintro ⟨before, line, hlines, hbefore, hline, rfl⟩
    exact ⟨before, line, b, hlines, hbefore, hline, rfl, rfl⟩

/-- **A text is cut behind the first line that is the heading.** -/
theorem cutAfterHeading?_eq_some_iff {heading : String} {cs upto behind : List Char} :
    cutAfterHeading? heading cs = some (upto, behind) ↔
      upto ++ behind = cs ∧ PartsAtHeading heading.toList upto behind := by
  rw [cutAfterHeading?, Option.map_eq_some_iff]
  constructor
  · rintro ⟨⟨a, b⟩, hcut, hab⟩
    obtain ⟨rfl, rfl⟩ := Prod.mk.inj hab
    obtain ⟨before, line, hlines, hbefore, hline, rfl⟩ := cutAfter?_eq_some_iff.mp hcut
    have htext : (before ++ [line]).flatten ++ b.flatten = cs := by
      rw [← Text.flatten_linesWithEnds cs, hlines]
      simp
    refine ⟨htext, before, line, b, ?_, hbefore, hline, by simp, rfl⟩
    rw [htext, hlines]
  · rintro ⟨rfl, before, line, after, hlines, hbefore, hline, rfl, rfl⟩
    refine ⟨(before ++ [line], after), cutAfter?_eq_some_iff.mpr ?_, by simp⟩
    exact ⟨before, line, hlines, hbefore, hline, rfl⟩

/-- Inserting behind a heading that is there. -/
theorem applied?_insertAfterHeading {heading old : String} (text : String) {upto behind : List Char}
    (h : upto ++ behind = old.toList) (hheading : PartsAtHeading heading.toList upto behind) :
    (insertAfterHeading heading text).applied? old =
      some (String.ofList (onOwnLines upto text.toList behind)) := by
  rw [applied?, cutAfterHeading?_eq_some_iff.mpr ⟨h, hheading⟩]
  rfl

end Headings

end Edit

end FormChain
