import FormChain.Proofs.Value.Distance

/-!
# Rounding whole numbers

A floating point number has 53 binary places. A whole number that has no more of them stays what
it is; of a longer one the places behind the first 53 are cut off, to the nearer side, and to the
even one where both are as near (`FormChain.FloatingPoint.nearest`). Rounding keeps the order of
numbers (`FormChain.FloatingPoint.nearest_mono`), but it may make different ones the same.

That this is what is computed takes two steps. The bits that are shifted out of a mantissa leave
two bits behind, which tell on which side of the middle they are
(`FormChain.FloatingPoint.shiftRight_exact`), so that a shift rounds to even
(`FormChain.FloatingPoint.roundedMantissa_shift`); and a mantissa of 53 places, of which only 52
are kept, is unpacked as it was packed (`FormChain.FloatingPoint.unpack_pack_finite`).
-/

namespace FormChain

namespace FloatingPoint

open Float.Model Float.Model.UnpackedFloat

/-! ### Rounding -/

/-- **A number without its last binary places**, rounded to the nearer side, and to the even one
where both are as near. -/
def halfEven (m k : Nat) : Nat :=
  if 2 * (m % 2 ^ k) < 2 ^ k then m / 2 ^ k
  else if 2 * (m % 2 ^ k) = 2 ^ k then m / 2 ^ k + m / 2 ^ k % 2
  else m / 2 ^ k + 1

/-- How many binary places of a number stand behind its first 53. -/
def placesBehind (m : Nat) : Nat :=
  m.log2 - 52

/-- The nearest number that has nothing behind its first 53 binary places. -/
def nearestNat (m : Nat) : Nat :=
  halfEven m (placesBehind m) * 2 ^ placesBehind m

/-- **What a whole number is rounded to.** -/
def nearest (n : Int) : Int :=
  n.sign * nearestNat n.natAbs

section Rounding

variable {m m' k : Nat} {a b : Int}

theorem halfEven_zero (m : Nat) : halfEven m 0 = m := by
  simp [halfEven, Nat.mod_one]

theorem div_le_halfEven (m k : Nat) : m / 2 ^ k ≤ halfEven m k := by
  simp only [halfEven]
  split
  · exact Nat.le_refl _
  · split <;> omega

theorem halfEven_le (m k : Nat) : halfEven m k ≤ m / 2 ^ k + 1 := by
  simp only [halfEven]
  split
  · omega
  · split <;> omega

/-- Of two numbers with one quotient the greater one has the greater remainder. -/
theorem halfEven_le_halfEven (h : m ≤ m') : halfEven m k ≤ halfEven m' k := by
  rcases Nat.lt_or_ge (m / 2 ^ k) (m' / 2 ^ k) with hlt | hge
  · exact Nat.le_trans (halfEven_le m k) (Nat.le_trans hlt (div_le_halfEven m' k))
  · have hdiv : m / 2 ^ k = m' / 2 ^ k := Nat.le_antisymm (Nat.div_le_div_right h) hge
    have hm := Nat.div_add_mod m (2 ^ k)
    have hm' := Nat.div_add_mod m' (2 ^ k)
    rw [hdiv] at hm
    -- the remainders are in the same order, and rounding up is for the greater ones
    simp only [halfEven, hdiv]
    split
    · split
      · exact Nat.le_refl _
      · split <;> omega
    · split
      · split
        · omega
        · split <;> omega
      · split
        · omega
        · split <;> omega

theorem nearestNat_of_log2_le (h : m.log2 ≤ 52) : nearestNat m = m := by
  rw [nearestNat, placesBehind, Nat.sub_eq_zero_of_le h, halfEven_zero, Nat.pow_zero, Nat.mul_one]

theorem nearestNat_of_lt (h : m < 2 ^ 53) : nearestNat m = m := by
  rcases Nat.eq_zero_or_pos m with rfl | hpos
  · rfl
  · exact nearestNat_of_log2_le (Nat.le_of_lt_succ ((Nat.log2_lt hpos.ne').mpr h))

theorem two_pow_log2_eq (h : 52 ≤ m.log2) : 2 ^ 52 * 2 ^ placesBehind m = 2 ^ m.log2 := by
  rw [← Nat.pow_add, placesBehind, Nat.add_sub_of_le h]

/-- What stands before the places that are cut off has 53 places. -/
theorem first_places (h : 52 ≤ m.log2) :
    2 ^ 52 ≤ m / 2 ^ placesBehind m ∧ m / 2 ^ placesBehind m < 2 ^ 53 := by
  have hm : m ≠ 0 := by
    rintro rfl
    simp at h
  have hpow := two_pow_log2_eq h
  constructor
  · rw [Nat.le_div_iff_mul_le (Nat.two_pow_pos _), hpow]
    exact Nat.log2_self_le hm
  · rw [Nat.div_lt_iff_lt_mul (Nat.two_pow_pos _)]
    calc m < 2 ^ (m.log2 + 1) := Nat.lt_log2_self
      _ = 2 ^ 53 * 2 ^ placesBehind m := by rw [Nat.pow_succ 2 m.log2, ← hpow]; ring

theorem two_pow_log2_le_nearestNat (h : 0 < m) : 2 ^ m.log2 ≤ nearestNat m := by
  rcases Nat.le_total m.log2 52 with hle | hge
  · rw [nearestNat_of_log2_le hle]
    exact Nat.log2_self_le h.ne'
  · rw [← two_pow_log2_eq hge]
    exact Nat.mul_le_mul_right _ (Nat.le_trans (first_places hge).1 (div_le_halfEven m _))

theorem nearestNat_le_two_pow (m : Nat) : nearestNat m ≤ 2 ^ (m.log2 + 1) := by
  rcases Nat.le_total m.log2 52 with hle | hge
  · rw [nearestNat_of_log2_le hle]
    exact Nat.le_of_lt Nat.lt_log2_self
  · calc nearestNat m ≤ 2 ^ 53 * 2 ^ placesBehind m :=
        Nat.mul_le_mul_right _ (Nat.le_trans (halfEven_le m _) (first_places hge).2)
      _ = 2 ^ (m.log2 + 1) := by rw [Nat.pow_succ 2 m.log2, ← two_pow_log2_eq hge]; ring

/-- **Rounding keeps the order**: between numbers of different length stands a power of two, and
of those of one length the same places are cut off. -/
theorem nearestNat_le_nearestNat (h : m ≤ m') : nearestNat m ≤ nearestNat m' := by
  rcases Nat.eq_zero_or_pos m with rfl | hpos
  · exact Nat.zero_le _
  have hpos' : 0 < m' := Nat.lt_of_lt_of_le hpos h
  have hlog : m.log2 ≤ m'.log2 :=
    (Nat.le_log2 hpos'.ne').mpr (Nat.le_trans (Nat.log2_self_le hpos.ne') h)
  rcases Nat.lt_or_eq_of_le hlog with hlt | heq
  · calc nearestNat m ≤ 2 ^ (m.log2 + 1) := nearestNat_le_two_pow m
      _ ≤ 2 ^ m'.log2 := Nat.pow_le_pow_right (by decide) hlt
      _ ≤ nearestNat m' := two_pow_log2_le_nearestNat hpos'
  · rw [nearestNat, nearestNat, placesBehind, placesBehind, heq]
    exact Nat.mul_le_mul_right _ (halfEven_le_halfEven h)

theorem nearest_ofNat (m : Nat) : nearest m = nearestNat m := by
  rcases Nat.eq_zero_or_pos m with rfl | hpos
  · rfl
  · rw [nearest, Int.sign_eq_one_of_pos (Int.natCast_pos.mpr hpos), Int.one_mul, Int.natAbs_natCast]

theorem nearest_neg (a : Int) : nearest (-a) = -nearest a := by
  rw [nearest, nearest, Int.sign_neg, Int.natAbs_neg, Int.neg_mul]

theorem nearest_mono (h : a ≤ b) : nearest a ≤ nearest b := by
  obtain ⟨m, rfl | rfl⟩ := Int.eq_nat_or_neg a <;> obtain ⟨n, rfl | rfl⟩ := Int.eq_nat_or_neg b
  · rw [nearest_ofNat, nearest_ofNat]
    have hle : nearestNat m ≤ nearestNat n := nearestNat_le_nearestNat (by omega)
    omega
  · obtain ⟨rfl, rfl⟩ : m = 0 ∧ n = 0 := by omega
    exact Int.le_refl _
  · rw [nearest_neg, nearest_ofNat, nearest_ofNat]
    omega
  · rw [nearest_neg, nearest_neg, nearest_ofNat, nearest_ofNat]
    have hle : nearestNat n ≤ nearestNat m := nearestNat_le_nearestNat (by omega)
    omega

theorem nearest_of_small (h : a.natAbs ≤ 2 ^ 53) : nearest a = a := by
  have hnat : nearestNat a.natAbs = a.natAbs := by
    rcases Nat.lt_or_eq_of_le h with hlt | heq
    · exact nearestNat_of_lt hlt
    · rw [heq]
      decide
  rw [nearest, hnat]
  exact Int.sign_mul_natAbs a

end Rounding

/-! ### Shifts -/

section Shifts

variable {s : Sign} {m : Nat} {e : Int}

/-- **What a shift leaves**: the quotient, a first bit that says whether the remainder is half a
unit at least, and a second one that says whether it is something besides. -/
theorem shiftRight_exact (m k : Nat) : (⟨m, false, false⟩ : ExtendedMantissa) >>> k =
    ⟨m / 2 ^ k, decide (2 ^ k ≤ 2 * (m % 2 ^ k)), decide (2 * (m % 2 ^ k) % 2 ^ k ≠ 0)⟩ := by
  induction k with
  | zero => simp [Nat.mod_one]; rfl
  | succ k ih =>
    change ((⟨m, false, false⟩ : ExtendedMantissa) >>> k).shiftRightOne = _
    have hpos := Nat.two_pow_pos k
    have hr := Nat.mod_lt m hpos
    have hmod : m % 2 ^ (k + 1) = m % 2 ^ k + 2 ^ k * (m / 2 ^ k % 2) := by
      rw [Nat.pow_succ, Nat.mod_mul]
    have hdiv : m / 2 ^ (k + 1) = m / 2 ^ k / 2 := by
      rw [Nat.pow_succ, Nat.div_div_eq_div_mul]
    have hsticky : (2 ^ k ≤ 2 * (m % 2 ^ k) ∨ 2 * (m % 2 ^ k) % 2 ^ k ≠ 0) ↔
        2 * (m % 2 ^ k) ≠ 0 := by
      rcases Nat.lt_or_ge (2 * (m % 2 ^ k)) (2 ^ k) with hlt | hge
      · rw [Nat.mod_eq_of_lt hlt]
        omega
      · omega
    have hrest : 2 * (m % 2 ^ k + 2 ^ k * (m / 2 ^ k % 2)) % 2 ^ (k + 1) = 2 * (m % 2 ^ k) := by
      rw [Nat.mul_add, ← Nat.mul_assoc, ← Nat.pow_succ', Nat.add_mul_mod_self_left,
        Nat.mod_eq_of_lt (by rw [Nat.pow_succ]; omega)]
    rw [ih, ExtendedMantissa.shiftRightOne, hmod, hdiv, hrest, ExtendedMantissa.mk.injEq,
      ← Bool.decide_or, decide_eq_decide]
    refine ⟨rfl, ?_, hsticky⟩
    rcases Nat.mod_two_eq_zero_or_one (m / 2 ^ k) with hbit | hbit <;>
      simp only [hbit, Nat.pow_succ] <;> simp <;> omega

/-- **A shift rounds to even.** -/
theorem roundedMantissa_shift (m k : Nat) :
    ((⟨m, false, false⟩ : ExtendedMantissa) >>> k).roundedMantissa = halfEven m k := by
  have hr := Nat.mod_lt m (Nat.two_pow_pos k)
  rw [shiftRight_exact, ExtendedMantissa.roundedMantissa, halfEven]
  rcases Nat.lt_trichotomy (2 * (m % 2 ^ k)) (2 ^ k) with hlt | heq | hgt
  · rw [if_pos hlt, decide_eq_false (by omega), Nat.mod_eq_of_lt hlt]
    cases decide (2 * (m % 2 ^ k) ≠ 0) <;> rfl
  · rw [if_neg (by omega), if_pos heq, decide_eq_true (by omega), decide_eq_false (by simp [heq])]
    rfl
  · have hrest : 2 * (m % 2 ^ k) % 2 ^ k ≠ 0 := by
      rw [Nat.mod_eq_sub_mod (by omega), Nat.mod_eq_of_lt (by omega)]
      omega
    rw [if_neg (by omega), if_neg (by omega), decide_eq_true (by omega), decide_eq_true hrest]
    rfl

/-- What is shifted out are the places behind the first 53. -/
theorem shiftToTargetExponent_eq (he : -1022 ≤ m.log2 + e) (hm : 52 ≤ m.log2) :
    shiftToTargetExponent .binary64 m e .exact =
      ((⟨m, false, false⟩ : ExtendedMantissa) >>> placesBehind m, e + placesBehind m) := by
  have hshift : (Format.binary64.targetExponent (totalExponent m e) - e).toNat =
      placesBehind m := by
    rw [targetExponent_binary64, totalExponent, placesBehind]
    omega
  simp only [shiftToTargetExponent, shiftToExponent, hshift]
  rfl

/-- **A mantissa is rounded to 53 places.** What is rounded up to a power of two has one place
more, and is shifted once again. -/
theorem roundWithAccuracy_eq (he : -1022 ≤ m.log2 + e) (hm : 52 ≤ m.log2) :
    ∃ m' j h, roundWithAccuracy .binary64 s m e .exact = .finite s m' (e + (j : Nat)) h ∧
      m'.log2 = 52 ∧ m' * 2 ^ j = nearestNat m := by
  obtain ⟨hlow, hhigh⟩ := first_places hm
  have hdown := div_le_halfEven m (placesBehind m)
  have hup := halfEven_le m (placesBehind m)
  obtain ⟨r, hr⟩ : ∃ r, halfEven m (placesBehind m) = r := ⟨_, rfl⟩
  rw [hr] at hdown hup
  have hlog : 52 ≤ r.log2 := (Nat.le_log2 (by omega)).mpr (by omega)
  have hexponent : -1022 ≤ r.log2 + (e + placesBehind m) := by
    rw [placesBehind]
    omega
  simp only [roundWithAccuracy, shiftToTargetExponent_eq he hm, roundedMantissa_shift, hr,
    shiftToTargetExponent_eq hexponent hlog, nearestNat]
  -- only a power of two can be one place longer than it should be
  rcases Nat.lt_or_ge r (2 ^ 53) with hlt | hge
  · have hlength : r.log2 = 52 := (Nat.log2_eq_iff (by omega)).mpr ⟨by omega, hlt⟩
    have hnone : placesBehind r = 0 := by rw [placesBehind, hlength]
    refine ⟨r, placesBehind m, by omega, ?_, hlength, rfl⟩
    simp only [hnone, shiftRight_exact, Nat.pow_zero, Nat.div_one, Int.natCast_zero, Int.add_zero]
    rw [dif_neg (by omega)]
  · obtain rfl : r = 2 ^ 53 := by omega
    refine ⟨2 ^ 52, placesBehind m + 1, by decide, ?_, by decide, by ring⟩
    have hone : placesBehind (2 ^ 53) = 1 := by decide
    simp only [hone, shiftRight_exact]
    rw [dif_neg (by decide)]
    simp [Int.add_assoc]

/-- **A number is rounded to 53 places**, whatever its place before the point is. -/
theorem round_eq (hm : 0 < m) (he : -1022 ≤ m.log2 + e) :
    ∃ m' j h, UnpackedFloat.round .binary64 s m e = .finite s m' (e - 52 + (j : Nat)) h ∧
      m'.log2 = 52 ∧ m' * 2 ^ j = nearestNat m * 2 ^ 52 := by
  have htarget : Format.binary64.targetExponent (totalExponent m e) = m.log2 - 52 + e := by
    rw [targetExponent_binary64, totalExponent]
    omega
  rcases Nat.le_total m.log2 52 with hle | hge
  · -- what has fewer places gets zeros behind them, and nothing is cut off
    have hshift : (e - (m.log2 - 52 + e)).toNat = 52 - m.log2 := by omega
    have hlength : (m * 2 ^ (52 - m.log2)).log2 = 52 := by
      have hlow := Nat.mul_le_mul_right (2 ^ (52 - m.log2)) (Nat.log2_self_le hm.ne')
      have hhigh := Nat.mul_lt_mul_of_pos_right (Nat.lt_log2_self (n := m))
        (Nat.two_pow_pos (52 - m.log2))
      rw [← Nat.pow_add, Nat.add_sub_of_le hle] at hlow
      rw [← Nat.pow_add, Nat.add_right_comm, Nat.add_sub_of_le hle] at hhigh
      exact (Nat.log2_eq_iff (by omega)).mpr ⟨hlow, hhigh⟩
    obtain ⟨m', j, h, heq, hlog, hvalue⟩ := roundWithAccuracy_eq (s := s)
      (m := m * 2 ^ (52 - m.log2)) (e := e - (52 - m.log2 : Nat)) (by omega) (by omega)
    refine ⟨m', m.log2 + j, h, ?_, hlog, ?_⟩
    · simp only [UnpackedFloat.round, htarget, decreaseExponent, hshift, Nat.shiftLeft_eq, heq]
      congr 1
      omega
    · calc m' * 2 ^ (m.log2 + j) = m' * 2 ^ j * 2 ^ m.log2 := by ring
        _ = m * (2 ^ (52 - m.log2) * 2 ^ m.log2) := by
          rw [hvalue, nearestNat_of_log2_le hlength.le, Nat.mul_assoc]
        _ = nearestNat m * 2 ^ 52 := by
          rw [← Nat.pow_add, Nat.sub_add_cancel hle, nearestNat_of_log2_le hle]
  · have hshift : (e - (m.log2 - 52 + e)).toNat = 0 := by omega
    obtain ⟨m', j, h, heq, hlog, hvalue⟩ := roundWithAccuracy_eq (s := s) he hge
    refine ⟨m', j + 52, h, ?_, hlog, by rw [Nat.pow_add, ← hvalue, Nat.mul_assoc]⟩
    simp only [UnpackedFloat.round, htarget, decreaseExponent, hshift, Nat.shiftLeft_zero,
      Int.natCast_zero, Int.sub_zero, heq]
    congr 1
    omega

/-- What is rounded is about as long as it was. -/
theorem shift_bounds {j m' : Nat} (hm : 0 < m) (hpos : 0 < m') (hlog : m'.log2 = 52)
    (h : m' * 2 ^ j = nearestNat m * 2 ^ 52) : m.log2 ≤ j ∧ j ≤ m.log2 + 1 := by
  obtain ⟨hlow, hhigh⟩ := (Nat.log2_eq_iff hpos.ne').mp hlog
  constructor
  · have hlt : 2 ^ (m.log2 + 52) < 2 ^ (j + 53) :=
      calc 2 ^ (m.log2 + 52) = 2 ^ m.log2 * 2 ^ 52 := Nat.pow_add ..
        _ ≤ nearestNat m * 2 ^ 52 := Nat.mul_le_mul_right _ (two_pow_log2_le_nearestNat hm)
        _ = m' * 2 ^ j := h.symm
        _ < 2 ^ 53 * 2 ^ j := Nat.mul_lt_mul_of_pos_right hhigh (Nat.two_pow_pos j)
        _ = 2 ^ (j + 53) := by rw [← Nat.pow_add, Nat.add_comm]
    have := (Nat.pow_lt_pow_iff_right (by decide)).mp hlt
    omega
  · have hle : 2 ^ (j + 52) ≤ 2 ^ (m.log2 + 1 + 52) :=
      calc 2 ^ (j + 52) = 2 ^ 52 * 2 ^ j := by rw [← Nat.pow_add, Nat.add_comm]
        _ ≤ m' * 2 ^ j := Nat.mul_le_mul_right _ hlow
        _ = nearestNat m * 2 ^ 52 := h
        _ ≤ 2 ^ (m.log2 + 1) * 2 ^ 52 := Nat.mul_le_mul_right _ (nearestNat_le_two_pow m)
        _ = 2 ^ (m.log2 + 1 + 52) := (Nat.pow_add ..).symm
    have := (Nat.pow_le_pow_iff_right (by decide)).mp hle
    omega

end Shifts

/-! ### Packing -/

section Packing

variable {f : Format} {s : Sign} {m : Nat} {e : Int}

theorem unpackSign_packComponents {b : BitVec f.exponentBits}
    {v : BitVec f.mantissaBitsWithoutImplicit} :
    unpackSign (packComponents f s b v) = s.toBitVec := by
  ext i hi
  obtain rfl : i = 0 := by omega
  simp [unpackSign, packComponents, BitVec.getLsbD_eq_getElem, BitVec.getLsbD_append,
    BitVec.getElem_append]

theorem ofBitVec_toBitVec : Sign.ofBitVec s.toBitVec = s := by
  cases s <;> rfl

/-- A mantissa of 53 places is the implicit one and the places behind it. -/
theorem append_implicit (hm : m.log2 = 52) : (1#1 ++ BitVec.ofNat 52 m).toNat = m := by
  have hpos : m ≠ 0 := by
    rintro rfl
    cases hm
  obtain ⟨hlow, hhigh⟩ := (Nat.log2_eq_iff hpos).mp hm
  rw [BitVec.toNat_append, BitVec.toNat_ofNat, BitVec.toNat_ofNat]
  change (1 <<< 52 ||| m % 2 ^ 52) = m
  rw [Nat.one_shiftLeft, Nat.or_comm, Nat.or_two_pow_eq_add_of_lt (Nat.mod_lt _ (by decide))]
  omega

/-- **A number with a mantissa of 53 places is unpacked as it was packed.** -/
theorem unpack_pack_finite (hm : m.log2 = 52) (hpos : 0 < m) (hlow : -1074 ≤ e) (hhigh : e ≤ 971) :
    UnpackedFloat.unpack .binary64 (UnpackedFloat.pack .binary64 (.finite s m e hpos)) =
      .finite s m e hpos := by
  have hbias : (e + Format.binary64.exponentBias + (52 : Nat)).toNat = (e + 1075).toNat := by
    change (e + 1023 + 52).toNat = _
    omega
  have hexponent : (BitVec.ofNat 11 (e + 1075).toNat).toNat = (e + 1075).toNat := by
    rw [BitVec.toNat_ofNat]
    omega
  have hnormal : BitVec.ofNat 11 (e + 1075).toNat ≠ -1#11 ∧
      BitVec.ofNat 11 (e + 1075).toNat ≠ 0#11 := by
    constructor <;> intro h <;> have := congrArg BitVec.toNat h <;> rw [hexponent] at this
    · change (e + 1075).toNat = 2047 at this
      omega
    · change (e + 1075).toNat = 0 at this
      omega
  simp only [UnpackedFloat.pack, hbias]
  rw [if_neg (by omega), if_pos (by rw [hm]; rfl)]
  simp only [UnpackedFloat.unpack, unpackExponent_packComponents, unpackMantissa_packComponents,
    unpackSign_packComponents, ofBitVec_toBitVec]
  rw [if_neg hnormal.1, if_neg hnormal.2]
  simp only [append_implicit hm, hexponent]
  congr 1
  change ((e + 1075).toNat : Int) - (1023 + 52) = e
  omega

theorem unpack_packedInfinity :
    UnpackedFloat.unpack f (packedInfinity f s) = .infinity s := by
  simp only [packedInfinity, UnpackedFloat.unpack, unpackExponent_packComponents,
    unpackMantissa_packComponents, unpackSign_packComponents, ofBitVec_toBitVec]
  rfl

/-- A number that is too great is packed as an infinite one. -/
theorem unpack_pack_overflow (hpos : 0 < m) (h : 971 < e) :
    UnpackedFloat.unpack .binary64 (UnpackedFloat.pack .binary64 (.finite s m e hpos)) =
      .infinity s := by
  have hbias : (e + Format.binary64.exponentBias + (52 : Nat)).toNat = (e + 1075).toNat := by
    change (e + 1023 + 52).toNat = _
    omega
  simp only [UnpackedFloat.pack, hbias]
  rw [if_pos (by omega), unpack_packedInfinity]

end Packing

end FloatingPoint

end FormChain
