import FormChain.Condition.Comparison
import FormChain.Proofs.Value.Rounding

/-!
# Comparing whole numbers

The operators that compare numbers see them as floating point numbers. Such a number means a whole
number (`FormChain.FloatingPoint.Means`) when it is a zero or a mantissa of 53 places whose last
one stands 52 places behind the point at most, and a whole number of 64 bits becomes one that means
what the number is rounded to (`FormChain.FloatingPoint.means_number`). Two of them are in the
order of what they mean (`FormChain.FloatingPoint.Means.compare_eq`), and they are close if they
mean the same and in no other case: a difference that is not zero is at least one, and rounding it
makes it no smaller than that (`FormChain.FloatingPoint.Means.sub_of_ne`).

So whole numbers are compared as what they are rounded to
(`FormChain.Operator.comparesAs_nearest`). This is as it should be for any two that are not
different numbers rounded to the same one (`FormChain.Operator.compares_whole_numbers`).
-/

namespace FormChain

namespace FloatingPoint

open Float.Model Float.Model.UnpackedFloat

/-! ### What is meant -/

/-- **A floating point number that means a whole number**: one of the two zeros, or a mantissa of
53 places, 52 of them behind the point before it is shifted. -/
inductive Means : UnpackedFloat → Int → Prop where
  /-- A zero. -/
  | zero (s : Sign) : Means (.zero s) 0
  /-- A mantissa that is shifted. -/
  | shifted {s : Sign} {m k : Nat} {n : Int} (hpos : 0 < m) (length : m.log2 = 52)
      (bound : k ≤ 64) (value : s.apply (m * 2 ^ k : Nat) = n * 2 ^ 52) :
    Means (.finite s m (-52 + k) hpos) n

section Meaning

variable {u v : UnpackedFloat} {a b n : Int} {m k m' k' : Nat} {x y : Float}

theorem apply_neg (s : Sign) (n : Int) : (-s).apply n = -s.apply n := by
  cases s
  · exact (Int.neg_neg n).symm
  · rfl

theorem Means.neg (h : Means u n) : Means u.neg (-n) := by
  cases h with
  | zero s => exact .zero (-s)
  | shifted hpos length bound value =>
    exact .shifted hpos length bound (by rw [apply_neg, value, Int.neg_mul])

/-- Packing changes nothing. -/
theorem Means.unpack_pack (h : Means u n) :
    Means (UnpackedFloat.unpack .binary64 (UnpackedFloat.pack .binary64 u)) n := by
  cases h with
  | zero s => cases s <;> exact .zero _
  | shifted hpos length bound value =>
    rw [unpack_pack_finite length hpos (by omega) (by omega)]
    exact .shifted hpos length bound value

/-- **A whole number of 64 bits becomes the one that it is rounded to.** -/
theorem means_toFloat (w : UInt64) : Means w.toFloat.toModel.unpack (nearest w.toNat) := by
  refine Means.unpack_pack (u := UnpackedFloat.normalize .binary64 (w.toNat : Int) 0 .positive) ?_
  rcases Nat.eq_zero_or_pos w.toNat with hzero | hpos
  · rw [hzero]
    exact .zero .positive
  · obtain ⟨m, k, hm, hround, hlog, hvalue⟩ :=
      round_eq (s := .positive) (e := 0) hpos (by omega)
    have hcompare : compare (w.toNat : Int) 0 = .gt := Int.compare_eq_gt.mpr (by omega)
    simp only [UnpackedFloat.normalize, hcompare, Int.toNat_natCast, hround]
    have hw : w.toNat.log2 < 64 := (Nat.log2_lt hpos.ne').mpr w.toNat_lt
    have hbounds := shift_bounds hpos hm hlog hvalue
    refine .shifted hm hlog (by omega) ?_
    rw [nearest_ofNat, hvalue]
    exact Nat.cast_mul ..

/-- **A whole number means the one that it is rounded to.** -/
theorem means_number (hlow : -2 ^ 63 ≤ n) (hhigh : n < 2 ^ 64) :
    Means (Number.int n).toFloat.toModel.unpack (nearest n) := by
  rw [Number.toFloat]
  split
  case isTrue hneg =>
    have hbits : (UInt64.ofNat n.natAbs).toNat = n.natAbs :=
      UInt64.toNat_ofNat_of_lt' (by change _ < 2 ^ 64; omega)
    have hmeans := (means_toFloat (UInt64.ofNat n.natAbs)).neg.unpack_pack
    rw [hbits, ← nearest_neg] at hmeans
    have hn : -(n.natAbs : Int) = n := by omega
    rwa [hn] at hmeans
  case isFalse hpos =>
    have hbits : (UInt64.ofNat n.toNat).toNat = n.toNat :=
      UInt64.toNat_ofNat_of_lt' (by change _ < 2 ^ 64; omega)
    have hmeans := means_toFloat (UInt64.ofNat n.toNat)
    rwa [hbits, Int.toNat_of_nonneg (by omega)] at hmeans

/-! ### Comparing -/

/-- Mantissas of one length are compared by what they are shifted first. -/
theorem compare_shifted (hpos : 0 < m) (hpos' : 0 < m') (hm : m.log2 = 52) (hm' : m'.log2 = 52) :
    compare (m * 2 ^ k) (m' * 2 ^ k') =
      (compare (-52 + k : Int) (-52 + k')).then (compare m m') := by
  obtain ⟨hlow, hhigh⟩ := (Nat.log2_eq_iff hpos.ne').mp hm
  obtain ⟨hlow', hhigh'⟩ := (Nat.log2_eq_iff hpos'.ne').mp hm'
  have hless {m k m' k' : Nat} (hm : m < 2 ^ 53) (hm' : 2 ^ 52 ≤ m') (hk : k < k') :
      m * 2 ^ k < m' * 2 ^ k' :=
    calc m * 2 ^ k < 2 ^ 53 * 2 ^ k := Nat.mul_lt_mul_of_pos_right hm (Nat.two_pow_pos k)
      _ = 2 ^ 52 * 2 ^ (k + 1) := by ring
      _ ≤ m' * 2 ^ k' := Nat.mul_le_mul hm' (Nat.pow_le_pow_right (by decide) hk)
  rcases Nat.lt_trichotomy k k' with hlt | rfl | hgt
  · rw [Nat.compare_eq_lt.mpr (hless hhigh hlow' hlt), Int.compare_eq_lt.mpr (by omega)]
    rfl
  · have hk := Nat.two_pow_pos k
    rw [Int.compare_eq_eq.mpr rfl]
    change _ = compare m m'
    rcases Nat.lt_trichotomy m m' with hlt | rfl | hgt
    · rw [Nat.compare_eq_lt.mpr hlt, Nat.compare_eq_lt.mpr (Nat.mul_lt_mul_of_pos_right hlt hk)]
    · rw [Nat.compare_eq_eq.mpr rfl, Nat.compare_eq_eq.mpr rfl]
    · rw [Nat.compare_eq_gt.mpr hgt, Nat.compare_eq_gt.mpr (Nat.mul_lt_mul_of_pos_right hgt hk)]
  · rw [Nat.compare_eq_gt.mpr (hless hhigh' hlow hgt), Int.compare_eq_gt.mpr (by omega)]
    rfl

/-- Numbers of one sign are compared by their magnitudes. -/
theorem compare_apply (s : Sign) (h : s.apply (m : Nat) = a * 2 ^ 52)
    (h' : s.apply (m' : Nat) = b * 2 ^ 52) : compare a b = match s with
      | .negative => (compare m m').swap
      | .positive => compare m m' := by
  cases s
  all_goals
    simp only [Sign.apply] at h h' ⊢
    rcases Nat.lt_trichotomy m m' with hlt | rfl | hgt
  · rw [Nat.compare_eq_lt.mpr hlt]
    exact Int.compare_eq_gt.mpr (by omega)
  · rw [Nat.compare_eq_eq.mpr rfl]
    exact Int.compare_eq_eq.mpr (by omega)
  · rw [Nat.compare_eq_gt.mpr hgt]
    exact Int.compare_eq_lt.mpr (by omega)
  · rw [Nat.compare_eq_lt.mpr hlt]
    exact Int.compare_eq_lt.mpr (by omega)
  · rw [Nat.compare_eq_eq.mpr rfl]
    exact Int.compare_eq_eq.mpr (by omega)
  · rw [Nat.compare_eq_gt.mpr hgt]
    exact Int.compare_eq_gt.mpr (by omega)

theorem neg_of_value (hpos : 0 < m) (h : Sign.negative.apply (m * 2 ^ k : Nat) = n * 2 ^ 52) :
    n < 0 := by
  have hmul := Nat.mul_pos hpos (Nat.two_pow_pos k)
  simp only [Sign.apply] at h
  omega

theorem pos_of_value (hpos : 0 < m) (h : Sign.positive.apply (m * 2 ^ k : Nat) = n * 2 ^ 52) :
    0 < n := by
  have hmul := Nat.mul_pos hpos (Nat.two_pow_pos k)
  simp only [Sign.apply] at h
  omega

/-- **What is meant is compared** when floating point numbers are. -/
theorem Means.compare_eq (hu : Means u a) (hv : Means v b) : u.compare v = some (compare a b) := by
  cases hu with
  | zero s =>
    cases hv with
    | zero s' => rfl
    | @shifted s' m' k' _ hpos' length' bound' value' =>
      cases s' with
      | negative => exact congrArg some (Int.compare_eq_gt.mpr (neg_of_value hpos' value')).symm
      | positive => exact congrArg some (Int.compare_eq_lt.mpr (pos_of_value hpos' value')).symm
  | @shifted s m k _ hpos length bound value =>
    cases hv with
    | zero s' =>
      cases s with
      | negative => exact congrArg some (Int.compare_eq_lt.mpr (neg_of_value hpos value)).symm
      | positive => exact congrArg some (Int.compare_eq_gt.mpr (pos_of_value hpos value)).symm
    | @shifted s' m' k' _ hpos' length' bound' value' =>
      cases s with
      | negative =>
        cases s' with
        | negative =>
          rw [compare_apply .negative value value', compare_shifted hpos hpos' length length']
          rfl
        | positive =>
          have hlt := Int.lt_trans (neg_of_value hpos value) (pos_of_value hpos' value')
          exact congrArg some (Int.compare_eq_lt.mpr hlt).symm
      | positive =>
        cases s' with
        | negative =>
          have hlt := Int.lt_trans (neg_of_value hpos' value') (pos_of_value hpos value)
          exact congrArg some (Int.compare_eq_gt.mpr hlt).symm
        | positive =>
          rw [compare_apply .positive value value', compare_shifted hpos hpos' length length']
          rfl

theorem Means.lt_iff (hx : Means x.toModel.unpack a) (hy : Means y.toModel.unpack b) :
    x < y ↔ a < b := by
  have hmodel : x < y ↔ (x.toModel.unpack.compare y.toModel.unpack == some .lt) = true :=
    decide_eq_true_iff
  rw [hmodel, hx.compare_eq hy, beq_iff_eq, Option.some.injEq, Int.compare_eq_lt]

theorem Means.le_iff (hx : Means x.toModel.unpack a) (hy : Means y.toModel.unpack b) :
    x ≤ y ↔ a ≤ b := by
  have hmodel : x ≤ y ↔ (x.toModel.unpack.compare y.toModel.unpack).any (·.isLE) = true :=
    decide_eq_true_iff
  rw [hmodel, hx.compare_eq hy, Option.any_some, Int.isLE_compare]

/-! ### Being close -/

/-- A difference is taken at the smaller exponent. -/
theorem sub_shifted {s s' : Sign} (hpos : 0 < m) (hpos' : 0 < m')
    (h : s.apply (m * 2 ^ k : Nat) = a * 2 ^ 52) (h' : s'.apply (m' * 2 ^ k' : Nat) = b * 2 ^ 52) :
    ∃ (d : Int) (c : Nat), UnpackedFloat.sub .binary64 (.finite s m (-52 + k) hpos)
      (.finite s' m' (-52 + k') hpos') = UnpackedFloat.normalize .binary64 d (-52 + c) .positive ∧
        d * 2 ^ c = (a - b) * 2 ^ 52 := by
  have hmin : min (-52 + k : Int) (-52 + k') = -52 + (min k k' : Nat) := by omega
  have hshift (j : Nat) : (-52 + j - (-52 + (min k k' : Nat)) : Int).toNat = j - min k k' := by
    omega
  have hscaled (s : Sign) (m j : Nat) (hj : min k k' ≤ j) :
      s.apply (m * 2 ^ (j - min k k') : Nat) * 2 ^ min k k' = s.apply (m * 2 ^ j : Nat) := by
    have hpow : ((m * 2 ^ (j - min k k') : Nat) : Int) * 2 ^ min k k' = (m * 2 ^ j : Nat) := by
      rw [← Nat.sub_add_cancel hj, Nat.pow_add]
      push_cast
      rw [Nat.add_sub_cancel]
      ring
    cases s
    · exact (Int.neg_mul ..).trans (congrArg _ hpow)
    · exact hpow
  refine ⟨s.apply (m * 2 ^ (k - min k k') : Nat) - s'.apply (m' * 2 ^ (k' - min k k') : Nat),
    min k k', ?_, ?_⟩
  · simp only [UnpackedFloat.sub, hmin, decreaseExponent, hshift, Nat.shiftLeft_eq]
  · rw [Int.sub_mul, hscaled s m k (Nat.min_le_left ..), hscaled s' m' k' (Nat.min_le_right ..), h,
      h', Int.sub_mul]

/-- **Numbers that mean the same** are at no distance. -/
theorem Means.sub_of_eq (hu : Means u a) (hv : Means v a) :
    ∃ s, UnpackedFloat.sub .binary64 u v = .zero s := by
  cases hu with
  | zero s =>
    cases hv with
    | zero s' => cases s <;> cases s' <;> exact ⟨_, rfl⟩
    | @shifted s' _ _ _ hpos' _ _ value' =>
      cases s'
      · exact absurd (neg_of_value hpos' value') (Int.lt_irrefl 0)
      · exact absurd (pos_of_value hpos' value') (Int.lt_irrefl 0)
  | @shifted s _ _ _ hpos _ _ value =>
    cases hv with
    | zero s' =>
      cases s
      · exact absurd (neg_of_value hpos value) (Int.lt_irrefl 0)
      · exact absurd (pos_of_value hpos value) (Int.lt_irrefl 0)
    | @shifted s' _ _ _ hpos' _ _ value' =>
      obtain ⟨d, c, hsub, hd⟩ := sub_shifted hpos hpos' value value'
      have hzero : d = 0 := by
        rw [Int.sub_self, Int.zero_mul] at hd
        exact (Int.mul_eq_zero.mp hd).resolve_right (by positivity)
      exact ⟨.positive, by rw [hsub, hzero]; rfl⟩

/-- What is not zero at a place is rounded to 53 places. -/
theorem exists_normalize {d : Int} {c : Nat} (hn : n ≠ 0) (h : d * 2 ^ c = n * 2 ^ 52) :
    ∃ s m e hpos, UnpackedFloat.normalize .binary64 d (-52 + c) .positive = .finite s m e hpos ∧
      m.log2 = 52 ∧ -52 ≤ e := by
  have hd : 0 < d.natAbs := by
    refine Int.natAbs_pos.mpr ?_
    rintro rfl
    rw [Int.zero_mul] at h
    exact hn ((Int.mul_eq_zero.mp h.symm).resolve_right (by decide))
  have hlength : 52 ≤ d.natAbs.log2 + c := by
    have hnat : d.natAbs * 2 ^ c = n.natAbs * 2 ^ 52 := by
      simpa [Int.natAbs_mul, Int.natAbs_pow] using congrArg Int.natAbs h
    have hlt : 2 ^ 52 < 2 ^ (d.natAbs.log2 + 1 + c) :=
      calc 2 ^ 52 ≤ n.natAbs * 2 ^ 52 := Nat.le_mul_of_pos_left _ (Int.natAbs_pos.mpr hn)
        _ = d.natAbs * 2 ^ c := hnat.symm
        _ < 2 ^ (d.natAbs.log2 + 1) * 2 ^ c :=
          Nat.mul_lt_mul_of_pos_right Nat.lt_log2_self (Nat.two_pow_pos c)
        _ = 2 ^ (d.natAbs.log2 + 1 + c) := (Nat.pow_add ..).symm
    have := (Nat.pow_lt_pow_iff_right (by decide)).mp hlt
    omega
  have hround (s : Sign) : ∃ m e hpos, UnpackedFloat.round .binary64 s d.natAbs (-52 + c) =
      .finite s m e hpos ∧ m.log2 = 52 ∧ -52 ≤ e := by
    obtain ⟨m, j, hpos, heq, hlog, hvalue⟩ := round_eq (s := s) (e := -52 + c) hd (by omega)
    have hbounds := shift_bounds hd hpos hlog hvalue
    exact ⟨m, _, hpos, heq, hlog, by omega⟩
  rcases Int.lt_trichotomy d 0 with hneg | rfl | hpos
  · have hcompare : compare d 0 = .lt := Int.compare_eq_lt.mpr hneg
    have hnat : (-d).toNat = d.natAbs := by omega
    simp only [UnpackedFloat.normalize, hcompare, hnat]
    exact ⟨.negative, hround .negative⟩
  · exact absurd hd (Nat.lt_irrefl 0)
  · have hcompare : compare d 0 = .gt := Int.compare_eq_gt.mpr hpos
    have hnat : d.toNat = d.natAbs := by omega
    simp only [UnpackedFloat.normalize, hcompare, hnat]
    exact ⟨.positive, hround .positive⟩

/-- **Numbers that do not mean the same** are at a distance with 53 places. -/
theorem Means.sub_of_ne (hu : Means u a) (hv : Means v b) (h : a ≠ b) :
    ∃ s m e hpos, UnpackedFloat.sub .binary64 u v = .finite s m e hpos ∧ m.log2 = 52 ∧ -52 ≤ e := by
  cases hu with
  | zero s =>
    cases hv with
    | zero s' => exact absurd rfl h
    | shifted hpos' length' => exact ⟨_, _, _, hpos', rfl, length', by omega⟩
  | shifted hpos length bound value =>
    cases hv with
    | zero s' => exact ⟨_, _, _, hpos, rfl, length, by omega⟩
    | shifted hpos' length' bound' value' =>
      -- the difference is not rounded to zero, since it is one at least
      obtain ⟨d, c, hsub, hd⟩ := sub_shifted hpos hpos' value value'
      rw [hsub]
      exact exists_normalize (sub_ne_zero_of_ne h) hd

/-- A number whose last place stands 52 places behind the point at most is not small. -/
theorem not_lt_epsilon {s : Sign} {e : Int} (hpos : 0 < m) (hm : m.log2 = 52) (he : -52 ≤ e) :
    ¬ (Float.ofModel (.pack (.finite s m e hpos))).abs < Value.epsilon := by
  have hunpack : Value.epsilon.toModel.unpack = .finite .positive (2 ^ 52) (-104) (by decide) := by
    rfl
  have hmodel (u : UnpackedFloat) : (Float.ofModel (.pack u)).abs < Value.epsilon ↔
      ((UnpackedFloat.unpack .binary64 (UnpackedFloat.pack .binary64 (UnpackedFloat.unpack .binary64
        (UnpackedFloat.pack .binary64 u)).abs)).compare Value.epsilon.toModel.unpack == some .lt) =
          true := decide_eq_true_iff
  rw [hmodel, hunpack]
  -- taking the magnitude packs once more; a distance that is too great for this is infinite
  rcases lt_or_ge 971 e with hgt | hle
  · rw [unpack_pack_overflow hpos hgt, UnpackedFloat.abs, UnpackedFloat.pack,
      unpack_packedInfinity]
    decide
  · rw [unpack_pack_finite hm hpos (by omega) hle, UnpackedFloat.abs,
      unpack_pack_finite hm hpos (by omega) hle]
    simp only [UnpackedFloat.compare]
    rw [Int.compare_eq_gt.mpr (by omega : (-104 : Int) < e)]
    exact Bool.false_ne_true

theorem Means.close_iff (hx : Means x.toModel.unpack a) (hy : Means y.toModel.unpack b) :
    Value.close x y = true ↔ a = b := by
  have hclose : Value.close x y = true ↔
      (Float.ofModel (.pack (UnpackedFloat.sub .binary64 x.toModel.unpack y.toModel.unpack))).abs <
        Value.epsilon := decide_eq_true_iff
  rw [hclose]
  constructor
  · intro hlt
    by_contra hne
    obtain ⟨s, m, e, hpos, hsub, hlog, he⟩ := hx.sub_of_ne hy hne
    rw [hsub] at hlt
    exact not_lt_epsilon hpos hlog he hlt
  · rintro rfl
    obtain ⟨s, hsub⟩ := hx.sub_of_eq hy
    rw [hsub]
    cases s <;> decide

end Meaning

end FloatingPoint

namespace Operator

open FloatingPoint

/-- **Two values are compared as two whole numbers are**, by every operator that compares
numbers. -/
structure ComparesAs (now : Moment) (field expected : Value) (a b : Int) : Prop where
  /-- Being equal. -/
  equals : holds now field expected .equals = true ↔ a = b
  /-- Being different. -/
  notEquals : holds now field expected .notEquals = true ↔ a ≠ b
  /-- Being greater. -/
  greaterThan : holds now field expected .greaterThan = true ↔ a > b
  /-- Being no smaller. -/
  greaterThanOrEqual : holds now field expected .greaterThanOrEqual = true ↔ a ≥ b
  /-- Being smaller. -/
  lessThan : holds now field expected .lessThan = true ↔ a < b
  /-- Being no greater. -/
  lessThanOrEqual : holds now field expected .lessThanOrEqual = true ↔ a ≤ b

section Numbers

variable {now : Moment} {a b x y : Int}

/-- **Whole numbers are compared as what they are rounded to.** -/
theorem comparesAs_nearest (now : Moment) (ha : -2 ^ 63 ≤ a ∧ a < 2 ^ 64)
    (hb : -2 ^ 63 ≤ b ∧ b < 2 ^ 64) :
    ComparesAs now (.ofInt a) (.ofInt b) (nearest a) (nearest b) := by
  have hma := means_number ha.1 ha.2
  have hmb := means_number hb.1 hb.2
  have hequal : equal (.ofInt a) (.ofInt b) = true ↔ nearest a = nearest b := hma.close_iff hmb
  exact {
    equals := hequal
    notEquals := by
      change (!equal (.ofInt a) (.ofInt b)) = true ↔ _
      rw [Bool.not_eq_true', Bool.eq_false_iff, Ne, hequal]
    greaterThan := decide_eq_true_iff.trans (hmb.lt_iff hma)
    greaterThanOrEqual := decide_eq_true_iff.trans (hmb.le_iff hma)
    lessThan := decide_eq_true_iff.trans (hma.lt_iff hmb)
    lessThanOrEqual := decide_eq_true_iff.trans (hma.le_iff hmb) }

/-- What is compared as numbers in one order is compared as all numbers in that order. -/
theorem ComparesAs.of_compare_eq {field expected : Value} (h : ComparesAs now field expected x y)
    (horder : compare x y = compare a b) : ComparesAs now field expected a b := by
  have heq : x = y ↔ a = b := by rw [← Int.compare_eq_eq, horder, Int.compare_eq_eq]
  have hlt : x < y ↔ a < b := by rw [← Int.compare_eq_lt, horder, Int.compare_eq_lt]
  have hgt : y < x ↔ b < a := by rw [← Int.compare_eq_gt, horder, Int.compare_eq_gt]
  exact {
    equals := h.equals.trans heq
    notEquals := h.notEquals.trans (not_congr heq)
    greaterThan := h.greaterThan.trans hgt
    greaterThanOrEqual := h.greaterThanOrEqual.trans (by omega)
    lessThan := h.lessThan.trans hlt
    lessThanOrEqual := h.lessThanOrEqual.trans (by omega) }

/-- Rounding keeps the order of two numbers that it does not make the same. -/
theorem compare_nearest (h : nearest a = nearest b → a = b) :
    compare (nearest a) (nearest b) = compare a b := by
  rcases Int.lt_trichotomy a b with hlt | rfl | hgt
  · have hne : nearest a ≠ nearest b := fun heq => Int.ne_of_lt hlt (h heq)
    have hle := nearest_mono (Int.le_of_lt hlt)
    rw [Int.compare_eq_lt.mpr hlt, Int.compare_eq_lt.mpr (by omega)]
  · rw [Int.compare_eq_eq.mpr rfl, Int.compare_eq_eq.mpr rfl]
  · have hne : nearest a ≠ nearest b := fun heq => Int.ne_of_gt hgt (h heq)
    have hle := nearest_mono (Int.le_of_lt hgt)
    rw [Int.compare_eq_gt.mpr hgt, Int.compare_eq_gt.mpr (by omega)]

end Numbers

/-- **How whole numbers of 64 bits are compared**: as what they are rounded to. This is how the
numbers themselves compare, for every operator, unless they are different and rounded to the same
number; and no numbers up to the 53rd power of two are. -/
theorem compares_whole_numbers (now : Moment) {a b : Int} (ha : -2 ^ 63 ≤ a ∧ a < 2 ^ 64)
    (hb : -2 ^ 63 ≤ b ∧ b < 2 ^ 64) :
    ComparesAs now (.ofInt a) (.ofInt b) (nearest a) (nearest b) ∧
    (ComparesAs now (.ofInt a) (.ofInt b) a b ↔ (nearest a = nearest b → a = b)) ∧
    (a.natAbs ≤ 2 ^ 53 → b.natAbs ≤ 2 ^ 53 → ComparesAs now (.ofInt a) (.ofInt b) a b) := by
  have hnearest := comparesAs_nearest now ha hb
  have hiff : ComparesAs now (.ofInt a) (.ofInt b) a b ↔ (nearest a = nearest b → a = b) :=
    ⟨fun h heq => h.equals.mp (hnearest.equals.mpr heq),
      fun h => hnearest.of_compare_eq (compare_nearest h)⟩
  refine ⟨hnearest, hiff, fun hsmall hsmall' => hiff.mpr fun heq => ?_⟩
  rwa [nearest_of_small hsmall, nearest_of_small hsmall'] at heq

/-- Two numbers that are rounded, and to different ones: what is greater is found to be so. -/
theorem rounded_apart : ComparesAs ⟨0⟩ (.ofInt 18446744073709551615) (.ofInt (-9007199254740993))
    18446744073709551615 (-9007199254740993) ∧
      ComparesAs ⟨0⟩ (.ofInt 9007199254740992) (.ofInt (-1)) 9007199254740992 (-1) :=
  ⟨(compares_whole_numbers ⟨0⟩ (by decide) (by decide)).2.1.mpr fun h => absurd h (by decide),
    (compares_whole_numbers ⟨0⟩ (by decide) (by decide)).2.2 (by decide) (by decide)⟩

/-- **Neighbours are taken for one number** where numbers have 54 places. -/
theorem neighbours_taken_for_equal :
    ¬ ComparesAs ⟨0⟩ (.ofInt 9007199254740992) (.ofInt 9007199254740993)
      9007199254740992 9007199254740993 := by
  intro h
  have hnearest : nearest 9007199254740992 = nearest 9007199254740993 := by decide
  exact absurd (h.equals.mp ((comparesAs_nearest ⟨0⟩ (by decide) (by decide)).equals.mpr hnearest))
    (by decide)

end Operator

end FormChain
