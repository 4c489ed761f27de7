import FormChain.Value.Coercion
import Mathlib

/-!
# How far floating point numbers are apart

Two numbers are close if the magnitude of their difference is small. What a floating point
operation does is to unpack its operands, to work on sign, mantissa and exponent, and to pack
the result. The difference of two numbers taken the other way round is the same but for its
sign, since only the sign of what is rounded is different
(`FormChain.FloatingPoint.abs_sub_comm`), and packing carries the sign in a place of its own
(`FormChain.FloatingPoint.abs_unpack_pack`). So being close goes both ways
(`FormChain.Value.close_comm`).

A finite number is at no distance from itself, so it is close to itself
(`FormChain.Value.close_self`). Infinities and what is not a number are not. Whole numbers of
64 bits become finite numbers: rounding them leaves an exponent far below the greatest one
(`FormChain.FloatingPoint.isFinite_toFloat`).
-/

namespace FormChain

namespace FloatingPoint

open Float.Model Float.Model.UnpackedFloat

variable {f : Format} {m k : Nat} {e n : Int} {s s' : Sign}

/-! ### Magnitudes -/

/-- Rounding passes the sign on. -/
theorem abs_roundWithAccuracy {a : Accuracy} :
    (roundWithAccuracy f s m e a).abs = (roundWithAccuracy f s' m e a).abs := by
  simp only [roundWithAccuracy]
  split <;> rfl

/-- A mantissa of the other sign is rounded to the same magnitude. -/
theorem abs_normalize_neg :
    (UnpackedFloat.normalize f (-n) e s).abs = (UnpackedFloat.normalize f n e s).abs := by
  rcases Int.lt_trichotomy n 0 with h | rfl | h
  · have hneg : compare (-n) 0 = .gt := Int.compare_eq_gt.mpr (by omega)
    have hpos : compare n 0 = .lt := Int.compare_eq_lt.mpr h
    simp only [UnpackedFloat.normalize, hneg, hpos]
    exact abs_roundWithAccuracy
  · rfl
  · have hneg : compare (-n) 0 = .lt := Int.compare_eq_lt.mpr (by omega)
    have hpos : compare n 0 = .gt := Int.compare_eq_gt.mpr h
    simp only [UnpackedFloat.normalize, hneg, hpos, Int.neg_neg]
    exact abs_roundWithAccuracy

/-- **Differences have one magnitude** either way round. -/
theorem abs_sub_comm (a b : UnpackedFloat) :
    (UnpackedFloat.sub f a b).abs = (UnpackedFloat.sub f b a).abs := by
  cases a with
  | notANumber => cases b <;> rfl
  | infinity s =>
    cases b with
    | infinity s' => cases s <;> cases s' <;> rfl
    | _ => rfl
  | zero s =>
    cases b with
    | zero s' => cases s <;> cases s' <;> rfl
    | _ => rfl
  | finite s m e hm =>
    cases b with
    | finite s' m' e' hm' =>
      -- both mantissas are brought to the smaller exponent, then one is taken from the other
      simp only [UnpackedFloat.sub]
      rw [Int.min_comm e e', ← Int.neg_sub, abs_normalize_neg]
    | _ => rfl

/-! ### Packing -/

section Packing

variable {b : BitVec f.exponentBits} {v : BitVec f.mantissaBitsWithoutImplicit}

/-- What stands in the bits of exponent and mantissa has one magnitude under either sign. -/
theorem abs_unpack_packComponents :
    (UnpackedFloat.unpack f (packComponents f s b v)).abs =
      (UnpackedFloat.unpack f (packComponents f s' b v)).abs := by
  simp only [UnpackedFloat.unpack, unpackExponent_packComponents, unpackMantissa_packComponents]
  split
  · split <;> rfl
  · split
    · split <;> rfl
    · rfl

/-- The bits of exponent and mantissa do not depend on the sign. -/
theorem exists_pack_finite (e : Int) (hm : 0 < m) :
    ∃ b v, ∀ s, UnpackedFloat.pack f (.finite s m e hm) = packComponents f s b v := by
  by_cases hbig : 2 ^ f.exponentBits ≤
      (e + f.exponentBias + f.mantissaBitsWithoutImplicit).toNat + 1
  · exact ⟨_, _, fun s => by rw [UnpackedFloat.pack, if_pos hbig]; rfl⟩
  · by_cases hlog : m.log2 + 1 = f.mantissaBits
    · exact ⟨_, _, fun s => by rw [UnpackedFloat.pack, if_neg hbig, if_pos hlog]⟩
    · exact ⟨_, _, fun s => by rw [UnpackedFloat.pack, if_neg hbig, if_neg hlog]⟩

/-- **What is packed and unpacked again** has the magnitude that its magnitude comes back
with. -/
theorem abs_unpack_pack (x : UnpackedFloat) :
    (UnpackedFloat.unpack f (UnpackedFloat.pack f x)).abs =
      (UnpackedFloat.unpack f (UnpackedFloat.pack f x.abs)).abs := by
  cases x with
  | notANumber => rfl
  | infinity s => exact abs_unpack_packComponents
  | zero s => exact abs_unpack_packComponents
  | finite s m e hm =>
    obtain ⟨b, v, hpack⟩ := exists_pack_finite (f := f) e hm
    rw [UnpackedFloat.abs, hpack, hpack]
    exact abs_unpack_packComponents

/-- **Distances go both ways.** -/
theorem abs_float_sub_comm (x y : Float) : (x - y).abs = (y - x).abs := by
  change Float.ofModel (.pack (UnpackedFloat.abs (UnpackedFloat.unpack _
      (UnpackedFloat.pack _ (UnpackedFloat.sub _ _ _))))) =
    Float.ofModel (.pack (UnpackedFloat.abs (UnpackedFloat.unpack _
      (UnpackedFloat.pack _ (UnpackedFloat.sub _ _ _)))))
  rw [abs_unpack_pack, abs_sub_comm, ← abs_unpack_pack]

/-! ### Finite numbers -/

theorem isFinite_eq (x : Float) : Value.isFinite x = x.isFinite := by
  change (!UnpackedFloat.isNaN x.toModel.unpack && !UnpackedFloat.isInf x.toModel.unpack) =
    UnpackedFloat.isFinite x.toModel.unpack
  cases x.toModel.unpack <;> rfl

theorem isFinite_unpack_packComponents (h : b ≠ -1#f.exponentBits) :
    (UnpackedFloat.unpack f (packComponents f s b v)).isFinite = true := by
  simp only [UnpackedFloat.unpack, unpackExponent_packComponents, unpackMantissa_packComponents]
  rw [if_neg h]
  split
  · split <;> rfl
  · rfl

/-- **A number whose exponent is not too great** stays finite when it is packed. -/
theorem isFinite_unpack_pack (hm : 0 < m) (he : e ≤ 971) : (UnpackedFloat.unpack .binary64
    (UnpackedFloat.pack .binary64 (.finite s m e hm))).isFinite = true := by
  rw [UnpackedFloat.pack]
  split
  · next hbig =>
    have hbig : 2 ^ 11 ≤ (e + 1023 + 52).toNat + 1 := hbig
    omega
  split
  · refine isFinite_unpack_packComponents fun hones => ?_
    have hnat : (e + 1023 + 52).toNat % 2 ^ 11 = 2047 := congrArg BitVec.toNat hones
    omega
  · exact isFinite_unpack_packComponents (by decide)

/-- What is unpacked has no greater exponent. -/
theorem exponent_unpack_le {w : BitVec Format.binary64.numBits} {hm : 0 < m}
    (h : UnpackedFloat.unpack .binary64 w = .finite s m e hm) : e ≤ 971 := by
  have hlt : (unpackExponent w).toNat < 2 ^ 11 := (unpackExponent w).isLt
  simp only [UnpackedFloat.unpack] at h
  split at h
  · split at h <;> cases h
  · next hones =>
    have hne : (unpackExponent w).toNat ≠ 2047 :=
      fun heq => hones (BitVec.eq_of_toNat_eq heq)
    have hbias : (Format.binary64.exponentBias : Int) = 1023 := rfl
    have hbits : (Format.binary64.mantissaBitsWithoutImplicit : Int) = 52 := rfl
    split at h
    · next hnone =>
      have hzero : (unpackExponent w).toNat = 0 := congrArg BitVec.toNat hnone
      split at h
      · cases h
      · injection h
        omega
    · injection h
      omega

/-- **A finite number has a finite opposite.** -/
theorem isFinite_neg {x : Float} (h : x.isFinite = true) : (-x).isFinite = true := by
  change UnpackedFloat.isFinite x.toModel.unpack = true at h
  change (UnpackedFloat.unpack _ (UnpackedFloat.pack _ x.toModel.unpack.neg)).isFinite = true
  cases hx : x.toModel.unpack with
  | notANumber | infinity =>
    rw [hx] at h
    cases h
  | zero s => exact isFinite_unpack_packComponents (by decide)
  | finite s m e hm => exact isFinite_unpack_pack hm (exponent_unpack_le hx)

/-- **A finite number is at no distance from itself.** -/
theorem float_sub_self {x : Float} (h : x.isFinite = true) : x - x = 0.0 := by
  have hself {a : UnpackedFloat} (ha : a.isFinite = true) :
      UnpackedFloat.sub Format.binary64 a a = .zero .positive := by
    cases a with
    | notANumber | infinity => cases ha
    | zero s => cases s <;> rfl
    | finite s m e hm =>
      simp only [UnpackedFloat.sub, Int.sub_self]
      rfl
  change Float.ofModel (.pack (UnpackedFloat.sub _ _ _)) = _
  rw [hself h]
  decide

end Packing

/-! ### Whole numbers -/

section Rounding

variable {a : Accuracy}

theorem mantissa_shiftRight_le (em : ExtendedMantissa) : (em >>> k).mantissa ≤ em.mantissa := by
  induction k with
  | zero => exact Nat.le_refl _
  | succ k ih =>
    change (em >>> k).mantissa / 2 ≤ _
    omega

/-- Rounding a mantissa adds one at most. -/
theorem roundedMantissa_le (em : ExtendedMantissa) : em.roundedMantissa ≤ em.mantissa + 1 := by
  rw [ExtendedMantissa.roundedMantissa]
  generalize em.accuracy = a
  cases a with
  | exact => exact Nat.le_succ _
  | inexact o => cases o <;> simp only [Accuracy.roundToNearestEven] <;> omega

theorem roundedMantissa_shift_le :
    (shiftToTargetExponent f m e a).1.roundedMantissa ≤ m + 1 := by
  have hmantissa : (ExtendedMantissa.ofMantissaAndAccuracy m a).mantissa = m := by
    cases a with
    | exact => rfl
    | inexact o => cases o <;> rfl
  have hshift := mantissa_shiftRight_le (ExtendedMantissa.ofMantissaAndAccuracy m a)
    (k := (f.targetExponent (totalExponent m e) - e).toNat)
  rw [hmantissa] at hshift
  exact Nat.le_trans (roundedMantissa_le _) (Nat.succ_le_succ hshift)

theorem exponent_shift : (shiftToTargetExponent f m e a).2 =
    max e (f.targetExponent (totalExponent m e)) := by
  simp only [shiftToTargetExponent, shiftToExponent]
  omega

theorem targetExponent_binary64 (t : Int) :
    Format.binary64.targetExponent t = max (t - 53) (-1074) := rfl

/-- What is rounded is zero, or has the exponent of a second shift, which takes what the first
one was rounded up to. -/
theorem roundWithAccuracy_cases : roundWithAccuracy f s m e a = .zero s ∨
    ∃ m' h, roundWithAccuracy f s m e a = .finite s m'
      (shiftToTargetExponent f (shiftToTargetExponent f m e a).1.roundedMantissa
        (shiftToTargetExponent f m e a).2 .exact).2 h := by
  simp only [roundWithAccuracy]
  split
  · exact .inl rfl
  · next hne => exact .inr ⟨_, Nat.pos_of_ne_zero hne, rfl⟩

theorem log2_le_succ {r : Nat} (h : r ≤ m + 1) : r.log2 ≤ m.log2 + 1 := by
  rcases Nat.eq_zero_or_pos r with rfl | hpos
  · exact Nat.zero_le _
  · have hm := @Nat.lt_log2_self m
    have hlt : r < 2 ^ (m.log2 + 1 + 1) := by
      rw [Nat.pow_succ]
      omega
    exact Nat.le_of_lt_succ ((Nat.log2_lt (Nat.ne_of_gt hpos)).mpr hlt)

theorem log2_shiftLeft_lt {j : Nat} (h : m < 2 ^ k) (hpos : 0 < m) : (m <<< j).log2 < k + j := by
  have hj := Nat.two_pow_pos j
  rw [Nat.shiftLeft_eq, Nat.log2_lt (Nat.ne_of_gt (Nat.mul_pos hpos hj)), Nat.pow_add]
  exact Nat.mul_lt_mul_of_pos_right h hj

/-- A mantissa of 116 binary digits before the point is rounded to a finite number. -/
theorem isFinite_roundWithAccuracy (hm : m.log2 < 116) (he : e ≤ 0) : (UnpackedFloat.unpack
    .binary64 (UnpackedFloat.pack .binary64 (roundWithAccuracy .binary64 s m e a))).isFinite =
      true := by
  rcases roundWithAccuracy_cases (f := .binary64) (s := s) (m := m) (e := e) (a := a) with
    hzero | ⟨m', h, hfinite⟩
  · rw [hzero]
    exact isFinite_unpack_packComponents (by decide)
  · rw [hfinite]
    refine isFinite_unpack_pack _ ?_
    have hrounded : (shiftToTargetExponent .binary64 m e a).1.roundedMantissa.log2 ≤
        m.log2 + 1 := log2_le_succ roundedMantissa_shift_le
    simp only [exponent_shift, targetExponent_binary64, totalExponent]
    omega

/-- **A whole number of 64 bits becomes a finite number.** -/
theorem isFinite_toFloat (w : UInt64) : w.toFloat.isFinite = true := by
  change (UnpackedFloat.unpack .binary64 (UnpackedFloat.pack .binary64
    (UnpackedFloat.normalize .binary64 (w.toNat : Int) 0 .positive))).isFinite = true
  rcases Nat.eq_zero_or_pos w.toNat with hzero | hpos
  · rw [hzero]
    decide
  · have hcompare : compare (w.toNat : Int) 0 = .gt := Int.compare_eq_gt.mpr (by omega)
    simp only [UnpackedFloat.normalize, hcompare, Int.toNat_natCast]
    refine isFinite_roundWithAccuracy ?_ ?_
    · -- the mantissa is shifted by 52 digits at most before it is rounded
      have hshift : (0 - Format.binary64.targetExponent (totalExponent w.toNat 0)).toNat ≤ 52 := by
        rw [targetExponent_binary64, totalExponent]
        omega
      exact Nat.lt_of_lt_of_le (log2_shiftLeft_lt w.toNat_lt hpos) (by omega)
    · rw [targetExponent_binary64, totalExponent]
      omega

end Rounding

end FloatingPoint

/-- **The floating point number of a number is finite** if the number is. -/
theorem Number.isFinite_toFloat {n : Number} (h : ∀ x, n = .real x → Value.isFinite x = true) :
    Value.isFinite n.toFloat = true := by
  cases n with
  | int i =>
    rw [FloatingPoint.isFinite_eq, toFloat]
    split
    · exact FloatingPoint.isFinite_neg (FloatingPoint.isFinite_toFloat _)
    · exact FloatingPoint.isFinite_toFloat _
  | real x => exact h x rfl

namespace Value

/-- **Being close goes both ways.** -/
theorem close_comm (x y : Float) : close x y = close y x := by
  rw [close, close, FloatingPoint.abs_float_sub_comm]

/-- **A finite number is close to itself.** -/
theorem close_self {x : Float} (h : isFinite x = true) : close x x = true := by
  rw [FloatingPoint.isFinite_eq] at h
  rw [close, FloatingPoint.float_sub_self h]
  decide

end Value

end FormChain
