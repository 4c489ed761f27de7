import FormChain.Decimal.Integer
import FormChain.Text.Blank

/-!
# Decimal digits

The digits are ten characters in a row (`FormChain.Decimal.isDigit_iff`), none of which is a blank
(`FormChain.Decimal.isBlank_of_isDigit`). A number is written in digits, with one of them at least,
and their value is the number, so it is read as it was written
(`FormChain.Decimal.natural?_toString`).
-/

namespace FormChain

namespace Decimal

variable {c : Char} {n : Nat}

theorem isDigit_iff : isDigit c = true ↔ 48 ≤ c.toNat ∧ c.toNat ≤ 57 := by
  simp [isDigit, Char.le_def, UInt32.le_iff_toNat_le]

/-- No digit is a blank. -/
theorem isBlank_of_isDigit (h : isDigit c = true) : isBlank c = false := by
  obtain ⟨hlow, hhigh⟩ := isDigit_iff.mp h
  simp only [isBlank, Bool.or_eq_false_iff, Bool.and_eq_false_iff, decide_eq_false_iff_not,
    beq_eq_false_iff_ne]
  omega

/-! ### Writing a number -/

/-- A number has digits only. -/
theorem isDigit_of_mem_toString (h : c ∈ (toString n).toList) : isDigit c = true := by
  rw [Nat.toString_eq_repr, Nat.toList_repr] at h
  have hdigit : c.isDigit = true := Nat.isDigit_of_mem_toDigits (by decide) (by decide) h
  simpa [isDigit, Char.le_def, Char.isDigit] using hdigit

theorem toString_ne_nil : (toString n).toList ≠ [] := by
  rw [Nat.toString_eq_repr, Nat.toList_repr]
  exact Nat.toDigits_ne_nil

/-- The digits of a number stand for it. -/
theorem value_toString : value (toString n).toList = n := by
  have hfold (ds : List Char) : value ds = Nat.ofDigitChars 10 ds 0 := by
    simp only [value, valueFrom, digitValue, Nat.ofDigitChars, Nat.mul_comm]
  rw [hfold, Nat.toString_eq_repr, Nat.toList_repr, Nat.ofDigitChars_ten_toDigits]

/-- **A number is read as it was written.** -/
theorem natural?_toString (n : Nat) : natural? (toString n).toList = some n := by
  have hall : (toString n).toList.all isDigit = true :=
    List.all_eq_true.mpr fun _ => isDigit_of_mem_toString
  have hne : (toString n).toList.isEmpty = false := List.isEmpty_eq_false_iff.mpr toString_ne_nil
  rw [natural?, hall, hne, value_toString]
  rfl

end Decimal

end FormChain
