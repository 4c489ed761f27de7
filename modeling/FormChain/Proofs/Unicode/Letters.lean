import FormChain.Text.Blank
import FormChain.Unicode.Alphabetic

/-!
# Letters and blanks

A table of the Unicode standard is written down in the notation of the standard, and is read when
it is used. Its spans can be told from the notation alone, one behind another
(`FormChain.Unicode.RangeTable.spansAhead`), so what is to hold of all of them can be checked on one
way along the notation. What belongs to a table lies in one of its spans
(`FormChain.Unicode.RangeTable.exists_span_of_contains`).

Main statement: no letter and no digit is a blank (`FormChain.Unicode.not_isBlank_of_alphanumeric`).
-/

namespace FormChain

namespace Unicode

/-! ### The spans of a table -/

namespace RangeTable

section Spans

variable {t : RangeTable} {n : Nat}

/-- **What belongs to a table lies in one of its spans.** -/
theorem exists_span_of_contains (h : t.containsCode n = true) :
    ∃ s ∈ t.spans.toList, s.first ≤ n ∧ n ≤ s.last := by
  suffices hbetween : ∀ lo hi, t.containsBetween n lo hi = true →
      ∃ s ∈ t.spans.toList, s.first ≤ n ∧ n ≤ s.last from hbetween _ _ h
  intro lo hi h
  fun_induction t.containsBetween n lo hi with
  | case1 | case5 => cases h
  | case2 _ _ _ _ _ _ _ ih | case3 _ _ _ _ _ _ _ _ ih => exact ih h
  | case4 lo hi _ mid s hs hfirst hlast =>
    exact ⟨s, Array.mem_def.mp (Array.mem_of_getElem? hs), by omega, by omega⟩

end Spans

/-- The spans that a notation goes on with, where a lower end and a number have been read. -/
def spansAhead (lower number : Option Nat) : List Char → List Span
  | [] => (number.map fun n => ⟨lower.getD n, n⟩).toList
  | c :: rest =>
    match hexDigit? c with
    | some v => spansAhead lower (some (number.getD 0 * 16 + v)) rest
    | none =>
      if c = '-' then spansAhead number none rest
      else match number with
        | none => spansAhead lower none rest
        | some n => ⟨lower.getD n, n⟩ :: spansAhead none none rest

/-- Reading on puts the spans ahead behind those that have been read. -/
theorem spans_foldl (d : Draft) (cs : List Char) :
    (cs.foldl Draft.step d).close.spans.toList =
      d.spans.toList ++ spansAhead d.lower d.number cs := by
  induction cs generalizing d with
  | nil =>
    obtain ⟨spans, lower, _ | n⟩ := d
    · simp [Draft.close, spansAhead]
    · simp [Draft.close, spansAhead]
  | cons c rest ih =>
    rw [List.foldl_cons, ih]
    cases hc : hexDigit? c with
    | some v => simp only [spansAhead, Draft.step, hc]
    | none =>
      by_cases hdash : c = '-'
      · simp only [spansAhead, Draft.step, hc, if_pos hdash]
      · obtain ⟨spans, lower, _ | n⟩ := d
        · simp only [spansAhead, Draft.step, hc, if_neg hdash, Draft.close]
        · simp [spansAhead, Draft.step, hc, if_neg hdash, Draft.close]

/-- **The spans of a table**, from its notation. -/
theorem spans_ofNotation {s : String} {cs : List Char} (h : s = String.ofList cs) :
    (ofNotation s).spans.toList = spansAhead none none cs := by
  rw [ofNotation, h, String.toList_ofList, spans_foldl]
  rfl

end RangeTable

/-! ### Where the blanks are -/

/-- The blanks. -/
def blankSpans : List Span :=
  [⟨0x9, 0xD⟩, ⟨0x20, 0x20⟩, ⟨0x85, 0x85⟩, ⟨0xA0, 0xA0⟩, ⟨0x1680, 0x1680⟩, ⟨0x2000, 0x200A⟩,
    ⟨0x2028, 0x2029⟩, ⟨0x202F, 0x202F⟩, ⟨0x205F, 0x205F⟩, ⟨0x3000, 0x3000⟩]

theorem exists_span_of_isBlank {c : Char} (h : isBlank c = true) :
    ∃ s ∈ blankSpans, s.first ≤ c.toNat ∧ c.toNat ≤ s.last := by
  simp only [isBlank, Bool.or_eq_true, Bool.and_eq_true, decide_eq_true_eq, beq_iff_eq] at h
  simp only [blankSpans, List.mem_cons, List.not_mem_nil, or_false, exists_eq_or_imp,
    exists_eq_left]
  omega

/-- Whether no blank lies in a span. -/
def Span.hasNoBlank (s : Span) : Bool :=
  blankSpans.all fun b => b.last < s.first || s.last < b.first

/-- A table has no blank if none of its spans has one. -/
theorem not_isBlank_of_contains {t : RangeTable} {c : Char}
    (ht : t.spans.toList.all Span.hasNoBlank = true) (h : t.contains c = true) :
    isBlank c = false := by
  refine Bool.eq_false_iff.mpr fun hblank => ?_
  obtain ⟨b, hb, hfirst, hlast⟩ := exists_span_of_isBlank hblank
  obtain ⟨s, hs, hfirst', hlast'⟩ := RangeTable.exists_span_of_contains h
  have hapart := List.all_eq_true.mp (List.all_eq_true.mp ht s hs) b hb
  simp only [Bool.or_eq_true, decide_eq_true_eq] at hapart
  omega

/-! ### Letters and digits -/

section Tables

set_option maxRecDepth 20000

theorem alphabeticTable_hasNoBlank : alphabeticTable.spans.toList.all Span.hasNoBlank = true := by
  unfold alphabeticTable
  rw [RangeTable.spans_ofNotation rfl]
  decide +kernel

theorem numberTable_hasNoBlank : numberTable.spans.toList.all Span.hasNoBlank = true := by
  unfold numberTable
  rw [RangeTable.spans_ofNotation rfl]
  decide +kernel

end Tables

/-- A letter or a digit below U+0080 stands behind the blanks there. -/
theorem lt_toNat_of_isAlphanum {c : Char} (h : c.isAlphanum = true) : 0x20 < c.toNat := by
  have hfrom {low : UInt32} (h : low ≤ c.val) (hlow : 0x20 < low.toNat) : 0x20 < c.toNat :=
    Nat.lt_of_lt_of_le hlow (UInt32.le_iff_toNat_le.mp h)
  rcases Bool.or_eq_true_iff.mp h with h | hdigit
  · rcases Bool.or_eq_true_iff.mp h with hupper | hlower
    · exact hfrom (of_decide_eq_true hupper).1 (by decide)
    · exact hfrom (of_decide_eq_true (Bool.and_eq_true_iff.mp hlower).1) (by decide)
  · exact hfrom (of_decide_eq_true (Bool.and_eq_true_iff.mp hdigit).1) (by decide)

/-- **No letter and no digit is a blank.** -/
theorem not_isBlank_of_alphanumeric {c : Char} (h : isAlphanumeric c = true) :
    isBlank c = false := by
  by_cases hascii : c.toNat < 0x80
  · rw [isAlphanumeric, isAlphabetic_of_ascii hascii, isNumeric_of_ascii hascii] at h
    have hlt : 0x20 < c.toNat := lt_toNat_of_isAlphanum h
    refine Bool.eq_false_iff.mpr fun hblank => ?_
    simp only [isBlank, Bool.or_eq_true, Bool.and_eq_true, decide_eq_true_eq, beq_iff_eq] at hblank
    omega
  · rcases Bool.or_eq_true_iff.mp h with h | h
    · rw [isAlphabetic, if_neg hascii] at h
      exact not_isBlank_of_contains alphabeticTable_hasNoBlank h
    · rw [isNumeric, if_neg hascii] at h
      exact not_isBlank_of_contains numberTable_hasNoBlank h

end Unicode

end FormChain
