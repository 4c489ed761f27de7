import FormChain.Condition.Comparison
import FormChain.Proofs.Decimal.Digits
import FormChain.Proofs.Text.Cutting

/-!
# Integers at the start of texts

A text is seen as an integer by what it begins with: blanks, the integer in decimal, perhaps with a
plus sign, and then nothing or a character that is no digit (`FormChain.Value.BeginsWith`). So is a
number that is an integer, and the operators on the length of a list should not tell the two apart.

The sign is read first, and then the digits on their own
(`FormChain.Value.leadingInteger?_append`). These must be an integer of 64 bits themselves, and the
least integer is the only one whose digits are not: its magnitude is one more than the greatest
integer. It is therefore not read from a text, while the number is taken as it is.

Main statement: every other integer is read from each of its texts, and the operators on lengths
hold of the text just if they hold of the number. With the least one they hold of no text, which
makes a difference for one operator, as each list is longer than that
(`FormChain.Value.text_read_as_number`).
-/

namespace FormChain

namespace Value

open Decimal (isDigit minInt64 maxInt64)

/-- **The texts that begin with an integer**: blanks in front of it, a plus sign if it is not
negative, and behind it no digit. -/
inductive BeginsWith (i : Int) : List Char → Prop where
  /-- The integer without a plus sign. -/
  | plain {blanks behind : List Char} (hblanks : ∀ c ∈ blanks, isBlank c = true)
      (hbehind : ∀ c ∈ behind.head?, isDigit c = false) :
    BeginsWith i (blanks ++ ((toString i).toList ++ behind))
  /-- The integer with a plus sign. -/
  | plus {blanks behind : List Char} (hi : 0 ≤ i) (hblanks : ∀ c ∈ blanks, isBlank c = true)
      (hbehind : ∀ c ∈ behind.head?, isDigit c = false) :
    BeginsWith i (blanks ++ ('+' :: (toString i).toList ++ behind))

/-- A sign, and what it makes of a magnitude. -/
inductive Sign : List Char → Int → Prop where
  /-- No sign. -/
  | none : Sign [] 1
  /-- A plus sign. -/
  | plus : Sign ['+'] 1
  /-- A minus sign. -/
  | minus : Sign ['-'] (-1)

section Reading

variable {blanks behind sign digits cs : List Char} {factor i : Int} {n : Nat}

/-- An integer in decimal is a sign and the digits of its magnitude. -/
theorem exists_sign (i : Int) : ∃ sign factor, Sign sign factor ∧ i = factor * i.natAbs ∧
    (toString i).toList = sign ++ (toString i.natAbs).toList := by
  cases i with
  | ofNat n => exact ⟨[], 1, .none, by simp, rfl⟩
  | negSucc n => exact ⟨['-'], -1, .minus, by omega, String.toList_append⟩

/-- The digits of a number are read up to the first character that is none. -/
theorem natural?_takeWhile (hbehind : ∀ c ∈ behind.head?, isDigit c = false) :
    Decimal.natural? (((toString n).toList ++ behind).takeWhile isDigit) = some n := by
  rw [Text.takeWhile_append (fun _ => Decimal.isDigit_of_mem_toString) hbehind,
    Decimal.natural?_toString]

/-- The sign says what becomes of the digits behind it. -/
theorem leadingInteger?_of_sign (hsign : Sign sign factor)
    (hhead : ∀ c ∈ digits.head?, isDigit c = true) (h : Text.trimStart cs = sign ++ digits) :
    leadingInteger? cs = (Decimal.natural? (digits.takeWhile isDigit)).bind fun n =>
      if (n : Int) ≤ maxInt64 then some (factor * n) else none := by
  rw [leadingInteger?, h]
  cases hsign with
  | plus => rfl
  | minus => rfl
  | none =>
    cases digits with
    | nil => rfl
    | cons d ds =>
      have hd : isDigit d = true := hhead d rfl
      have hminus : d ≠ '-' := by rintro rfl; exact absurd hd (by decide)
      have hplus : d ≠ '+' := by rintro rfl; exact absurd hd (by decide)
      simp [hminus, hplus]

/-- **What is read behind blanks** is the sign, and then the digits, which must be an integer of 64
bits on their own. -/
theorem leadingInteger?_append (hsign : Sign sign factor) (hblanks : ∀ c ∈ blanks, isBlank c = true)
    (hbehind : ∀ c ∈ behind.head?, isDigit c = false) :
    leadingInteger? (blanks ++ (sign ++ (toString n).toList ++ behind)) =
      if (n : Int) ≤ maxInt64 then some (factor * n) else none := by
  have hhead : ∀ c ∈ ((toString n).toList ++ behind).head?, isDigit c = true := by
    obtain ⟨d, ds, hdigits⟩ := List.exists_cons_of_ne_nil (@Decimal.toString_ne_nil n)
    intro c hc
    rw [hdigits] at hc
    obtain rfl := Option.some.inj hc
    exact Decimal.isDigit_of_mem_toString (hdigits ▸ List.mem_cons_self)
  have htrim : Text.trimStart (blanks ++ (sign ++ (toString n).toList ++ behind)) =
      sign ++ ((toString n).toList ++ behind) := by
    rw [Text.trimStart, List.dropWhile_append_of_pos hblanks, ← Text.trimStart, List.append_assoc]
    refine Text.trimStart_eq_self fun c hc => ?_
    cases hsign with
    | none => exact Decimal.isBlank_of_isDigit (hhead c hc)
    | plus => obtain rfl := Option.some.inj hc; decide
    | minus => obtain rfl := Option.some.inj hc; decide
  rw [leadingInteger?_of_sign hsign hhead htrim, natural?_takeWhile hbehind, Option.bind_some]

/-- **An integer is read from the texts that begin with it**, if its magnitude is an integer of 64
bits. -/
theorem leadingInteger?_of_beginsWith (h : BeginsWith i cs) :
    leadingInteger? cs = if (i.natAbs : Int) ≤ maxInt64 then some i else none := by
  cases h with
  | plain hblanks hbehind =>
    obtain ⟨sign, factor, hsign, hi, hdigits⟩ := exists_sign i
    rw [hdigits, leadingInteger?_append hsign hblanks hbehind, ← hi]
  | plus hi hblanks hbehind =>
    obtain ⟨n, rfl⟩ := Int.eq_ofNat_of_zero_le hi
    exact (leadingInteger?_append .plus hblanks hbehind).trans (by rw [Int.one_mul]; rfl)

end Reading

/-! ### Lengths of lists -/

/-- The operators on the length of a list. -/
def lengthOperators : List Operator :=
  [.arrayLengthEquals, .arrayLengthGreater, .arrayLengthLess]

section Lengths

variable {now : Moment} {field a b : Value} {op : Operator} {i : Int}

theorem lengthRelated_iff {rel : Int → Int → Bool} :
    Operator.lengthRelated rel field a = true ↔
      ∃ items n, field = .list items ∧ toInteger? a = some n ∧ rel items.length n = true := by
  unfold Operator.lengthRelated
  split
  case h_1 items n hn => simp [hn]
  case h_2 hnone =>
    refine iff_of_false Bool.false_ne_true ?_
    rintro ⟨items, n, rfl, hn, -⟩
    exact hnone items n rfl hn

/-- What the operators on lengths have in common. -/
theorem exists_relation (hop : op ∈ lengthOperators) : ∃ rel, ∀ now field expected,
    Operator.holds now field expected op = Operator.lengthRelated rel field expected := by
  simp only [lengthOperators, List.mem_cons, List.not_mem_nil, or_false] at hop
  rcases hop with rfl | rfl | rfl
  · exact ⟨_, fun _ _ _ => Operator.holds_arrayLengthEquals ..⟩
  · exact ⟨_, fun _ _ _ => Operator.holds_arrayLengthGreater ..⟩
  · exact ⟨_, fun _ _ _ => Operator.holds_arrayLengthLess ..⟩

/-- The operators on lengths see nothing of a value but its integer. -/
theorem holds_congr_toInteger? (h : toInteger? a = toInteger? b) (hop : op ∈ lengthOperators) :
    Operator.holds now field a op = Operator.holds now field b op := by
  obtain ⟨rel, hrel⟩ := exists_relation hop
  rw [hrel, hrel, Bool.eq_iff_iff, lengthRelated_iff, lengthRelated_iff, h]

/-- No length is in a relation to a value without an integer. -/
theorem holds_of_toInteger?_eq_none (h : toInteger? a = none) (hop : op ∈ lengthOperators) :
    Operator.holds now field a op = false := by
  obtain ⟨rel, hrel⟩ := exists_relation hop
  rw [hrel, Bool.eq_false_iff, ne_eq, lengthRelated_iff, h]
  rintro ⟨_, _, _, hnone, _⟩
  cases hnone

/-- Each list is longer than a negative integer, and no list is shorter or as long. -/
theorem holds_of_toInteger?_neg (h : toInteger? a = some i) (hi : i < 0)
    (hop : op ∈ lengthOperators) : Operator.holds now field a op = true ↔
      op = .arrayLengthGreater ∧ field.isList = true := by
  simp only [lengthOperators, List.mem_cons, List.not_mem_nil, or_false] at hop
  rcases hop with rfl | rfl | rfl
  all_goals
    simp only [Operator.holds_arrayLengthEquals, Operator.holds_arrayLengthGreater,
      Operator.holds_arrayLengthLess, lengthRelated_iff, h]
    cases field <;> simp [isList]
    -- a list, and its length
    omega

end Lengths

/-- **An integer of 64 bits is read from each of its texts as it is from the number**, unless it is
the least one, which is read from the number only. So an operator on lengths tells a text from the
number exactly if the integer is the least one and a list is asked to be longer. -/
theorem text_read_as_number {i : Int} {s : String} (hlow : minInt64 ≤ i) (hhigh : i ≤ maxInt64)
    (h : BeginsWith i s.toList) :
    toInteger? (.ofInt i) = some i ∧
    toInteger? (.text s) = (if i = minInt64 then none else some i) ∧
    ∀ op ∈ lengthOperators, ∀ now field,
      Operator.holds now field (.text s) op = Operator.holds now field (.ofInt i) op ↔
        ¬ (i = minInt64 ∧ op = .arrayLengthGreater ∧ field.isList = true) := by
  have hnumber : toInteger? (.ofInt i) = some i := if_pos hhigh
  have htext : toInteger? (.text s) = if i = minInt64 then none else some i := by
    have hfits : (i.natAbs : Int) ≤ maxInt64 ↔ ¬ i = minInt64 := by
      simp only [minInt64, maxInt64] at hlow hhigh ⊢
      omega
    rw [toInteger?, leadingInteger?_of_beginsWith h, if_congr hfits rfl rfl, ite_not]
  refine ⟨hnumber, htext, fun op hop now field => ?_⟩
  by_cases hi : i = minInt64
  case pos =>
    rw [if_pos hi] at htext
    have hneg : i < 0 := by rw [hi]; decide
    rw [holds_of_toInteger?_eq_none htext hop, eq_comm, Bool.eq_false_iff, ne_eq,
      holds_of_toInteger?_neg hnumber hneg hop]
    simp [hi]
  case neg =>
    rw [if_neg hi] at htext
    exact iff_of_true (holds_congr_toInteger? (htext.trans hnumber.symm) hop) fun h => hi h.1

/-- The integer next to the least one, between blanks and a fraction. -/
theorem next_to_least_read : toInteger? (.ofInt (-9223372036854775807)) =
      some (-9223372036854775807) ∧
    toInteger? (.text " \t-9223372036854775807.5") = some (-9223372036854775807) := by
  have hbegins : BeginsWith (-9223372036854775807) " \t-9223372036854775807.5".toList :=
    @BeginsWith.plain _ [' ', '\t'] ['.', '5'] (List.all_eq_true.mp rfl)
      fun _ h => Option.some.inj h ▸ rfl
  obtain ⟨hnumber, htext, -⟩ := text_read_as_number (by decide) (by decide) hbegins
  exact ⟨hnumber, htext⟩

/-- **The least integer is not read from its text**, so the empty list is longer than the number and
not longer than the text. -/
theorem least_text_not_read :
    BeginsWith (-9223372036854775808) "-9223372036854775808".toList ∧
    toInteger? (.ofInt (-9223372036854775808)) = some (-9223372036854775808) ∧
    toInteger? (.text "-9223372036854775808") = none ∧
    Operator.holds ⟨0⟩ (.list []) (.ofInt (-9223372036854775808)) .arrayLengthGreater = true ∧
    Operator.holds ⟨0⟩ (.list []) (.text "-9223372036854775808") .arrayLengthGreater = false :=
  ⟨@BeginsWith.plain _ [] [] nofun nofun, by decide, by decide +kernel, by decide,
    by decide +kernel⟩

end Value

end FormChain
