import FormChain.Text.Base64
import FormChain.Text.Blank
import FormChain.Text.Utf8
import Mathlib.Data.List.Basic

/-!
# Texts as bytes, and bytes as text

A text is kept as bytes, and bytes are kept as a text of 64 digits. Both ways back are told here.

A character is one to four bytes: a first one, which tells how many there are, and others with six
bits each (`FormChain.Utf8.follower`). What is read from them is the character, so reading replaces
nothing in the bytes of a text (`FormChain.Utf8.decodeLossy_encode`): the forms that are kept out
by reading, overlong ones, surrogates and code points beyond the last, are written for no character.

Three bytes are four digits, and a digit is told by its value (`FormChain.Base64.value?_digit`). One
or two bytes at the end are filled up with zeros and padded; the bits that are left over are zero,
as reading asks for. So bytes are read as they were written (`FormChain.Base64.decode?_encode`).
What is written is digits and padding only (`FormChain.Base64.encode_subset`).
-/

namespace FormChain

namespace Utf8

variable {a b : UInt8} {m n : Nat} {rest : List UInt8}

theorem toNat_ofNat (h : n < 256) : (UInt8.ofNat n).toNat = n :=
  UInt8.toNat_ofNat_of_lt' h

/-! ### Bytes that go on with a character -/

/-- **A byte that goes on with a character**: it has the last six bits of a number. -/
def follower (n : Nat) : UInt8 :=
  UInt8.ofNat (n % 0x40 + 0x80)

theorem toNat_follower (n : Nat) : (follower n).toNat = n % 0x40 + 0x80 :=
  toNat_ofNat (by omega)

theorem isContinuation_follower (n : Nat) : isContinuation (follower n) = true := by
  have hvalue := toNat_follower n
  simp only [isContinuation, UInt8.le_iff_toNat_le, UInt8.reduceToNat, Bool.and_eq_true,
    decide_eq_true_eq, hvalue]
  omega

theorem continuationBits_follower (n : Nat) : continuationBits (follower n) = n % 0x40 := by
  rw [continuationBits, toNat_follower]
  omega

/-- A character of three bytes is not overlong if its second byte is great enough, and no surrogate
if it is small enough. -/
theorem followsOfThree_of_toNat (hb : 0x80 ≤ b.toNat ∧ b.toNat ≤ 0xBF)
    (h : a.toNat = 0xE0 ∧ 0xA0 ≤ b.toNat ∨ a.toNat = 0xED ∧ b.toNat ≤ 0x9F ∨
      0xE0 < a.toNat ∧ a.toNat ≤ 0xEF ∧ a.toNat ≠ 0xED) : followsOfThree a b = true := by
  simp only [followsOfThree, isContinuation, Bool.or_eq_true, Bool.and_eq_true, beq_iff_eq,
    decide_eq_true_eq, UInt8.le_iff_toNat_le, ← UInt8.toNat_inj, UInt8.reduceToNat]
  omega

/-- A character of four bytes is not overlong if its second byte is great enough, and not beyond
the last one if it is small enough. -/
theorem followsOfFour_of_toNat (hb : 0x80 ≤ b.toNat ∧ b.toNat ≤ 0xBF)
    (h : a.toNat = 0xF0 ∧ 0x90 ≤ b.toNat ∨ a.toNat = 0xF4 ∧ b.toNat ≤ 0x8F ∨
      0xF0 < a.toNat ∧ a.toNat < 0xF4) : followsOfFour a b = true := by
  simp only [followsOfFour, isContinuation, Bool.or_eq_true, Bool.and_eq_true, beq_iff_eq,
    decide_eq_true_eq, UInt8.le_iff_toNat_le, ← UInt8.toNat_inj, UInt8.reduceToNat]
  omega

/-! ### Reading one character -/

theorem decodeStep_one (ha : a.toNat < 0x80) :
    decodeStep a rest = (Char.ofNat a.toNat, rest) := by
  unfold decodeStep
  rw [if_pos (UInt8.lt_iff_toNat_lt.mpr ha)]

theorem decodeStep_two (ha : 0xC2 ≤ a.toNat ∧ a.toNat ≤ 0xDF) :
    decodeStep a (follower n :: rest) =
      (Char.ofNat ((a.toNat - 0xC0) * 0x40 + n % 0x40), rest) := by
  unfold decodeStep
  simp only [UInt8.lt_iff_toNat_lt, UInt8.le_iff_toNat_le, UInt8.reduceToNat, Bool.and_eq_true,
    decide_eq_true_eq, isContinuation_follower, continuationBits_follower, if_true]
  rw [if_neg (by omega), if_pos ha]

theorem decodeStep_three (ha : 0xE0 ≤ a.toNat ∧ a.toNat ≤ 0xEF) (hb : followsOfThree a b = true) :
    decodeStep a (b :: follower n :: rest) =
      (Char.ofNat ((a.toNat - 0xE0) * 0x1000 + continuationBits b * 0x40 + n % 0x40), rest) := by
  unfold decodeStep
  simp only [UInt8.lt_iff_toNat_lt, UInt8.le_iff_toNat_le, UInt8.reduceToNat, Bool.and_eq_true,
    decide_eq_true_eq, isContinuation_follower, continuationBits_follower, if_true, hb]
  rw [if_neg (by omega), if_neg (by omega), if_pos ha]

theorem decodeStep_four (ha : 0xF0 ≤ a.toNat ∧ a.toNat ≤ 0xF4) (hb : followsOfFour a b = true) :
    decodeStep a (b :: follower m :: follower n :: rest) =
      (Char.ofNat ((a.toNat - 0xF0) * 0x40000 + continuationBits b * 0x1000 + m % 0x40 * 0x40 +
        n % 0x40), rest) := by
  unfold decodeStep
  simp only [UInt8.lt_iff_toNat_lt, UInt8.le_iff_toNat_le, UInt8.reduceToNat, Bool.and_eq_true,
    decide_eq_true_eq, isContinuation_follower, continuationBits_follower, if_true, hb]
  rw [if_neg (by omega), if_neg (by omega), if_neg (by omega), if_pos ha]

/-! ### The bytes of a text -/

/-- The bytes of a character: a first one, which tells how many there are, and others that go on
with it. -/
theorem encodeChar_eq (c : Char) :
    encodeChar c =
      if c.toNat ≤ 0x7F then [UInt8.ofNat c.toNat]
      else if c.toNat ≤ 0x7FF then
        [UInt8.ofNat (c.toNat / 64 % 0x20 + 0xC0), follower c.toNat]
      else if c.toNat ≤ 0xFFFF then
        [UInt8.ofNat (c.toNat / 4096 % 0x10 + 0xE0), follower (c.toNat / 64), follower c.toNat]
      else
        [UInt8.ofNat (c.toNat / 262144 % 0x08 + 0xF0), follower (c.toNat / 4096),
          follower (c.toNat / 64), follower c.toNat] :=
  rfl

/-- **A character is read from its bytes**, whatever stands behind them. -/
theorem exists_decodeStep (c : Char) (rest : List UInt8) :
    ∃ a behind, encodeChar c = a :: behind ∧ decodeStep a (behind ++ rest) = (c, rest) := by
  have hvalid : c.toNat < 0xD800 ∨ 0xDFFF < c.toNat ∧ c.toNat < 0x110000 := c.valid
  have hchar {n : Nat} (h : n = c.toNat) : (Char.ofNat n, rest) = (c, rest) := by
    rw [h, Char.ofNat_toNat]
  rw [encodeChar_eq]
  split_ifs with hone htwo hthree
  · have ha : (UInt8.ofNat c.toNat).toNat = c.toNat := toNat_ofNat (by omega)
    exact ⟨_, _, rfl, (decodeStep_one (by omega)).trans (hchar ha)⟩
  · have ha : (UInt8.ofNat (c.toNat / 64 % 0x20 + 0xC0)).toNat = c.toNat / 64 + 0xC0 := by
      rw [toNat_ofNat (by omega)]
      omega
    exact ⟨_, _, rfl, (decodeStep_two (by omega)).trans (hchar (by omega))⟩
  · have ha : (UInt8.ofNat (c.toNat / 4096 % 0x10 + 0xE0)).toNat = c.toNat / 4096 + 0xE0 := by
      rw [toNat_ofNat (by omega)]
      omega
    have hb := toNat_follower (c.toNat / 64)
    refine ⟨_, _, rfl, (decodeStep_three (by omega) ?_).trans (hchar ?_)⟩
    · exact followsOfThree_of_toNat (by omega) (by omega)
    · rw [continuationBits_follower]
      omega
  · have ha : (UInt8.ofNat (c.toNat / 262144 % 0x08 + 0xF0)).toNat = c.toNat / 262144 + 0xF0 := by
      rw [toNat_ofNat (by omega)]
      omega
    have hb := toNat_follower (c.toNat / 4096)
    refine ⟨_, _, rfl, (decodeStep_four (by omega) ?_).trans (hchar ?_)⟩
    · exact followsOfFour_of_toNat (by omega) (by omega)
    · rw [continuationBits_follower]
      omega

/-- **A text is read from its bytes**, and nothing of it is replaced. -/
theorem decodeLossy_encode (cs : List Char) : decodeLossy (encode cs) = cs := by
  induction cs with
  | nil => rw [encode, List.flatMap_nil, decodeLossy]
  | cons c cs ih =>
    obtain ⟨a, behind, hchar, hstep⟩ := exists_decodeStep c (encode cs)
    have hencode : encode (c :: cs) = a :: (behind ++ encode cs) := by
      rw [encode, List.flatMap_cons, hchar]
      rfl
    rw [hencode, decodeLossy, hstep, ih]

end Utf8

namespace Base64

variable {n : Nat} {a : UInt8}

/-! ### Digits -/

theorem forall_value?_digit : ∀ n < 64, value? (digit n) = some n := by
  decide +kernel

/-- **A digit tells its value.** -/
theorem value?_digit (h : n < 64) : value? (digit n) = some n :=
  forall_value?_digit n h

/-- No digit is taken for padding. -/
theorem digit_ne_pad (h : n < 64) : digit n ≠ '=' := by
  intro hpad
  have hnone : value? '=' = none := by decide +kernel
  rw [← hpad, value?_digit h] at hnone
  cases hnone

theorem digit_mem (n : Nat) : digit n ∈ '=' :: alphabet := by
  rw [digit, List.getD_eq_getElem?_getD]
  cases hget : alphabet[n]? with
  | none => exact List.mem_cons_self
  | some c => exact List.mem_cons_of_mem _ (List.mem_of_getElem? hget)

/-- **What is written** is digits and padding. -/
theorem encode_subset (bytes : List UInt8) : encode bytes ⊆ '=' :: alphabet := by
  have hpad : '=' ∈ '=' :: alphabet := List.mem_cons_self
  fun_induction encode bytes with
  | case1 => exact List.nil_subset _
  | case2 | case3 => simp only [List.cons_subset, List.nil_subset, digit_mem, hpad, and_self]
  | case4 _ _ _ _ ih => simp only [List.cons_subset, digit_mem, ih, and_self]

/-! ### Reading what was written -/

theorem ofNat_eq {k : Nat} (h : k = a.toNat) : UInt8.ofNat k = a := by
  rw [h, UInt8.ofNat_toNat]

/-- **Bytes are read as they were written.** -/
theorem decode?_encode (bytes : List UInt8) : decode? (encode bytes) = some bytes := by
  -- the digits of a group have two, four or six bits of a byte each, and are padded last
  fun_induction encode bytes with
  | case1 => rfl
  | case2 a =>
    have ha := a.toNat_lt
    rw [decode?, lastOne?, value?_digit (by omega), value?_digit (by omega)]
    simp only [Option.bind_eq_bind, Option.bind_some]
    rw [if_pos (by omega), ofNat_eq (a := a) (by omega)]
  | case3 a b =>
    have ha := a.toNat_lt
    have hb := b.toNat_lt
    have hpad := @digit_ne_pad (b.toNat % 16 * 4) (by omega)
    rw [decode?, lastTwo?, value?_digit (by omega), value?_digit (by omega),
      value?_digit (by omega)]
    · simp only [Option.bind_eq_bind, Option.bind_some]
      rw [if_pos (by omega), ofNat_eq (a := a) (by omega), ofNat_eq (a := b) (by omega)]
    · exact fun h => absurd h hpad
  | case4 a b c rest ih =>
    have ha := a.toNat_lt
    have hb := b.toNat_lt
    have hc := c.toNat_lt
    have hpad := @digit_ne_pad (c.toNat % 64) (by omega)
    rw [decode?, value?_digit (by omega), value?_digit (by omega), value?_digit (by omega),
      value?_digit (by omega), ih]
    · simp only [Option.bind_eq_bind, Option.bind_some]
      rw [ofNat_eq (a := a) (by omega), ofNat_eq (a := b) (by omega),
        ofNat_eq (a := c) (by omega)]
    · exact fun _ h => absurd h hpad
    · exact fun h => absurd h hpad

end Base64

end FormChain
