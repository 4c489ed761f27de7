import FormChain.Unicode.LetterCase

/-!
# Letters in lower case

Lower case is a matter of runs of characters, each of which goes a fixed step further
(`FormChain.Unicode.capitals`). A run says where all of its characters come to lie, so whether any
of them gets into another run can be told from the ends of the two runs, and from what is even and
odd where a run takes every other character (`FormChain.Unicode.CaseRun.misses`). No run of the
table gets into any of them, so what is in lower case stays as it is.

Main statement: the characters that stand for a character in lower case stand for themselves
(`FormChain.Unicode.lowerChar_of_mem_lowerChar`).
-/

namespace FormChain

namespace Unicode

/-! ### One run against another -/

namespace CaseRun

/-- The code point that the first one of a run goes to. -/
def low (r : CaseRun) : Nat :=
  (r.first + r.step).toNat

/-- The code point that the last one of a run goes to. -/
def high (r : CaseRun) : Nat :=
  (r.last + r.step).toNat

/-- Whether all code points that a run leads to are characters. -/
def lands (r : CaseRun) : Bool :=
  0 ≤ r.first + r.step && (r.high < 0xD800 || (0xDFFF < r.low && r.high < 0x110000))

-- the comparisons are those that the kernel carries out on binary numbers
/-- **Whether a run leads past another one**: to code points in front of it or behind it, or between
those that it takes. -/
def misses (r r' : CaseRun) : Bool :=
  r.high.blt r'.first || r'.last.blt r.low ||
    ((r.first.beq r.last || r.stride.beq 2) && r'.stride.beq 2 && ((r.low + r'.first) % 2).beq 1)

variable {r r' : CaseRun} {m n : Nat}

/-- The code points of a run lie between its ends, a multiple of its stride from the first one. -/
theorem covers_iff : r.covers n = true ↔
    r.first ≤ n ∧ n ≤ r.last ∧ (n - r.first) % r.stride = 0 := by
  simp [covers, and_assoc]

/-- A run is as far from where it leads to as its step says. -/
theorem cast_ends (h : r.lands = true) (hn : r.covers n = true) :
    (r.low : Int) = r.first + r.step ∧ (r.high : Int) = r.last + r.step := by
  obtain ⟨hfirst, hlast, -⟩ := covers_iff.mp hn
  have hpos : 0 ≤ r.first + r.step := of_decide_eq_true (Bool.and_eq_true_iff.mp h).1
  exact ⟨Int.toNat_of_nonneg hpos, Int.toNat_of_nonneg (by omega)⟩

/-- A run leads to characters. -/
theorem toNat_ofNat_add_step (h : r.lands = true) (hn : r.covers n = true) :
    ((Char.ofNat ((n : Int) + r.step).toNat).toNat : Int) = n + r.step := by
  obtain ⟨hfirst, hlast, -⟩ := covers_iff.mp hn
  obtain ⟨hlow, hhigh⟩ := cast_ends h hn
  obtain ⟨m, hm⟩ : ∃ m : Nat, (n : Int) + r.step = m := Int.eq_ofNat_of_zero_le (by omega)
  have hvalid : m.isValidChar := by
    simp only [lands, Bool.or_eq_true, Bool.and_eq_true, decide_eq_true_eq] at h
    obtain ⟨-, h | h⟩ := h
    · exact Or.inl (by omega)
    · exact Or.inr ⟨by omega, by omega⟩
  rw [hm, Int.toNat_natCast, Char.ofNat, dif_pos hvalid]
  rfl

/-- No code point of a run goes to one of a run that it leads past. -/
theorem covers_eq_false_of_misses (hlands : r.lands = true) (h : r.misses r' = true)
    (hn : r.covers n = true) (hm : (m : Int) = n + r.step) : r'.covers m = false := by
  obtain ⟨hfirst, hlast, hstride⟩ := covers_iff.mp hn
  obtain ⟨hlow, hhigh⟩ := cast_ends hlands hn
  rw [Bool.eq_false_iff, ne_eq, covers_iff]
  rintro ⟨hfirst', hlast', hstride'⟩
  simp only [misses, Bool.or_eq_true, Bool.and_eq_true, Nat.blt_eq, Nat.beq_eq] at h
  rcases h with (h | h) | ⟨⟨hsparse, htwo⟩, hodd⟩
  · omega
  · omega
  · rw [htwo] at hstride'
    rcases hsparse with heq | hsparse
    · omega
    · rw [hsparse] at hstride
      omega

end CaseRun

/-! ### Characters -/

/-- The runs of characters that have another lower case, those without a table among them. -/
def capitals : List CaseRun :=
  [⟨0x41, 0x5A, 1, 32⟩, ⟨0x130, 0x130, 1, -199⟩, ⟨0x130, 0x130, 1, 471⟩] ++ lowerRuns

theorem capitals_land : capitals.all CaseRun.lands = true := by
  decide +kernel

/-- **No run gets into a run.** -/
theorem capitals_miss : (capitals.all fun r => capitals.all r.misses) = true := by
  decide +kernel

section Characters

variable {c d : Char}

theorem toLower_ascii (h : c.toNat < 0x80) :
    c.toLower.toNat = if 0x41 ≤ c.toNat ∧ c.toNat ≤ 0x5A then c.toNat + 32 else c.toNat := by
  have hall : ∀ n < 0x80, (Char.ofNat n).toLower.toNat =
      if 0x41 ≤ n ∧ n ≤ 0x5A then n + 32 else n := by decide
  have hc := hall c.toNat h
  rwa [Char.ofNat_toNat] at hc

/-- A character that no run takes stands for itself. -/
theorem lowerChar_eq_self (h : ∀ r ∈ capitals, r.covers c.toNat = false) : lowerChar c = [c] := by
  have hnot {r : CaseRun} (hr : r ∈ capitals) : ¬ r.covers c.toNat = true :=
    Bool.eq_false_iff.mp (h r hr)
  rw [lowerChar]
  split
  case isTrue hascii =>
    have hupper : ¬ (0x41 ≤ c.toNat ∧ c.toNat ≤ 0x5A) := fun hupper =>
      hnot List.mem_cons_self (CaseRun.covers_iff.mpr ⟨hupper.1, hupper.2, Nat.mod_one _⟩)
    have hsame := toLower_ascii hascii
    rw [if_neg hupper] at hsame
    rw [Char.toNat_inj.mp hsame]
  case isFalse =>
    have hdotted : ¬ c.toNat = 0x130 := fun heq =>
      hnot (List.mem_cons_of_mem _ List.mem_cons_self) (by rw [heq]; rfl)
    have hnone : mapByRuns lowerRuns c.toNat = none := by
      rw [mapByRuns, Option.map_eq_none_iff, List.find?_eq_none]
      exact fun r hr => hnot (List.mem_append_right _ hr)
    rw [if_neg hdotted, hnone]

/-- **What stands for a character** is that character, if it stays as it is, or lies a step of one
of its runs further. -/
theorem exists_run_of_mem_lowerChar (h : d ∈ lowerChar c) :
    lowerChar d = [d] ∨
      ∃ r ∈ capitals, r.covers c.toNat = true ∧ (d.toNat : Int) = c.toNat + r.step := by
  rw [lowerChar] at h
  split at h
  case isTrue hascii =>
    obtain rfl := List.mem_singleton.mp h
    have hlower := toLower_ascii hascii
    split at hlower
    case isTrue hupper =>
      refine Or.inr ⟨_, List.mem_cons_self, CaseRun.covers_iff.mpr ?_, ?_⟩
      · exact ⟨hupper.1, hupper.2, Nat.mod_one _⟩
      · rw [hlower]
        rfl
    case isFalse =>
      have hsame : c.toLower = c := Char.toNat_inj.mp hlower
      left
      rw [hsame, lowerChar, if_pos hascii, hsame]
  case isFalse hascii =>
    split at h
    case isTrue hdotted =>
      -- the one character that two stand for
      right
      rw [hdotted]
      simp only [List.mem_cons, List.not_mem_nil, or_false] at h
      rcases h with rfl | rfl
      · exact ⟨⟨0x130, 0x130, 1, -199⟩, .tail _ (.head _), rfl, rfl⟩
      · exact ⟨⟨0x130, 0x130, 1, 471⟩, .tail _ (.tail _ (.head _)), rfl, rfl⟩
    case isFalse hdotted =>
      cases hrun : mapByRuns lowerRuns c.toNat with
      | none =>
        rw [hrun] at h
        obtain rfl := List.mem_singleton.mp h
        left
        rw [lowerChar, if_neg hascii, if_neg hdotted, hrun]
      | some n =>
        rw [hrun] at h
        obtain rfl := List.mem_singleton.mp h
        obtain ⟨r, hfind, rfl⟩ := Option.map_eq_some_iff.mp hrun
        have hr : r ∈ capitals := List.mem_append_right _ (List.mem_of_find?_eq_some hfind)
        have hcovers := List.find?_some hfind
        exact Or.inr ⟨r, hr, hcovers,
          CaseRun.toNat_ofNat_add_step (List.all_eq_true.mp capitals_land r hr) hcovers⟩

/-- **What is in lower case stays as it is.** -/
theorem lowerChar_of_mem_lowerChar (h : d ∈ lowerChar c) : lowerChar d = [d] := by
  rcases exists_run_of_mem_lowerChar h with hself | ⟨r, hr, hcovers, hd⟩
  · exact hself
  · refine lowerChar_eq_self fun r' hr' => ?_
    have hmisses := List.all_eq_true.mp (List.all_eq_true.mp capitals_miss r hr) r' hr'
    exact CaseRun.covers_eq_false_of_misses (List.all_eq_true.mp capitals_land r hr) hmisses hcovers
      hd

end Characters

end Unicode

end FormChain
