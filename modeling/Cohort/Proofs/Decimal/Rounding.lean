import Mathlib.Algebra.Group.Int.Defs
import Mathlib.Algebra.Group.Nat.Defs
import Cohort.Decimal.Binary

/-! # Whole numbers stay finite

    A whole number on its way to a float is scaled or rounded, and packed into
    sixty-four bits.  Rounding drops bits of the mantissa, and may carry into
    the exponent, but it cannot take a number of sixty-four bits anywhere near
    the greatest exponent.  The bounds here are as coarse as this allows: they
    follow how far exponents move and never say which float is the nearest. -/

namespace Cohort.Decimal

open Float.Model Float.Model.UnpackedFloat

/-! ## Rounding -/

theorem mantissa_shift_le (em : ExtendedMantissa) (k : Nat) :
    (em >>> k).mantissa ≤ em.mantissa := by
  induction k with
  | zero => exact Nat.le_refl _
  | succ k ih => exact Nat.le_trans (Nat.div_le_self _ _) ih

theorem roundedMantissa_le (em : ExtendedMantissa) :
    em.roundedMantissa ≤ em.mantissa + 1 := by
  obtain ⟨m, round, sticky⟩ := em
  cases round with
  | false => cases sticky <;> exact Nat.le_succ m
  | true =>
      cases sticky with
      | false => exact Nat.add_le_add_left (Nat.le_of_lt_succ (Nat.mod_lt m Nat.two_pos)) m
      | true => exact Nat.le_refl _

/-- A shift drops bits and moves the exponent up to where the format wants it. -/
theorem shift_bounds (m : Nat) (e : Int) (accuracy : Accuracy) :
    (shiftToTargetExponent Format.binary64 m e accuracy).1.mantissa ≤ m ∧
      (shiftToTargetExponent Format.binary64 m e accuracy).2
        = max e (Format.binary64.targetExponent (totalExponent m e)) := by
  constructor
  · refine Nat.le_trans (mantissa_shift_le _ _) ?_
    rcases accuracy with _ | order
    · exact Nat.le_refl m
    · cases order <;> exact Nat.le_refl m
  · show e + ((Format.binary64.targetExponent (totalExponent m e) - e).toNat : Int) = _
    omega

/-- The format wants no exponent beyond that of the whole mantissa. -/
theorem targetExponent_le {m k : Nat} (hm : m < 2 ^ k) (e : Int) :
    Format.binary64.targetExponent (totalExponent m e) ≤ max (e + k) (-1074) := by
  have hlog : m.log2 ≤ k := by
    by_cases hzero : m = 0
    · rw [hzero]
      exact Nat.zero_le k
    · exact Nat.le_of_lt ((Nat.log2_lt hzero).mpr hm)
  show max ((m.log2 : Int) + 1 + e - 53) (3 - 2 ^ 10 - 53) ≤ _
  omega

/-! ## Numbers of moderate size -/

/-- Zero, or a number whose mantissa has at most `bits` bits and whose exponent is at
    most the bound. -/
inductive Moderate (bits : Nat) (bound : Int) : UnpackedFloat → Prop where
  | zero (sign : Sign) : Moderate bits bound (.zero sign)
  | finite {sign : Sign} {m : Nat} {e : Int} {hpos : 0 < m} (hm : m < 2 ^ bits)
      (he : e ≤ bound) : Moderate bits bound (.finite sign m e hpos)

section Moderate

variable {bits bits' : Nat} {bound bound' : Int} {x y : UnpackedFloat}

theorem Moderate.isFinite (h : Moderate bits bound x) : x.isFinite = true := by
  cases h with
  | zero sign => rfl
  | finite hm he => rfl

theorem Moderate.neg (h : Moderate bits bound x) : Moderate bits bound x.neg := by
  cases h with
  | zero sign => exact .zero _
  | finite hm he => exact .finite hm he

/-- Rounding does not make a number much greater. -/
theorem moderate_roundWithAccuracy {m k : Nat} (hm : m < 2 ^ k) (sign : Sign) {e : Int}
    (accuracy : Accuracy) (hle : e + 2 * k + 1 ≤ bound) (hleast : k - 1073 ≤ bound) :
    Moderate (k + 1) bound (roundWithAccuracy Format.binary64 sign m e accuracy) := by
  obtain ⟨hmantissa, hexponent⟩ := shift_bounds m e accuracy
  have htarget := targetExponent_le hm e
  have hrounded : (shiftToTargetExponent Format.binary64 m e accuracy).1.roundedMantissa
      < 2 ^ (k + 1) := by
    have h := roundedMantissa_le (shiftToTargetExponent Format.binary64 m e accuracy).1
    have hpos := Nat.two_pow_pos k
    rw [Nat.pow_succ]
    omega
  rw [roundWithAccuracy]
  generalize shiftToTargetExponent Format.binary64 m e accuracy = shifted at *
  obtain ⟨em, e₁⟩ := shifted
  obtain ⟨hfinal, hagain⟩ := shift_bounds em.roundedMantissa e₁ .exact
  have htarget' := targetExponent_le hrounded e₁
  dsimp only at *
  by_cases hzero : (shiftToTargetExponent Format.binary64 em.roundedMantissa e₁
      .exact).1.mantissa = 0
  · rw [dif_pos hzero]
    exact .zero sign
  · rw [dif_neg hzero]
    refine .finite (Nat.lt_of_le_of_lt hfinal hrounded) ?_
    rw [hagain]
    omega

theorem mul_finite {s s' : Sign} {m m' : Nat} {e e' : Int} {h : 0 < m} {h' : 0 < m'} :
    UnpackedFloat.mul Format.binary64 (.finite s m e h) (.finite s' m' e' h')
      = roundWithAccuracy Format.binary64 (s * s') (m * m') (e + e') .exact := rfl

/-- A product is not much greater than its factors together. -/
theorem Moderate.mul {product : Int} (hx : Moderate bits bound x) (hy : Moderate bits' bound' y)
    (hle : bound + bound' + 2 * (bits + bits') + 1 ≤ product)
    (hleast : bits + bits' - 1073 ≤ product) :
    Moderate (bits + bits' + 1) product (UnpackedFloat.mul Format.binary64 x y) := by
  cases hx with
  | zero sign =>
      cases hy with
      | zero sign' => exact .zero _
      | finite hm he => exact .zero _
  | finite hm he =>
      cases hy with
      | zero sign' => exact .zero _
      | finite hm' he' =>
          rw [mul_finite]
          have hproduct := Nat.mul_lt_mul'' hm hm'
          rw [← Nat.pow_add] at hproduct
          refine moderate_roundWithAccuracy hproduct _ .exact ?_ ?_
          · omega
          · omega

/-! ## Numbers of sixty-four bits -/

/-- An exponent below that of the infinite numbers makes a number of its size. -/
theorem moderate_unpack {b : BitVec Format.binary64.numBits} (hne : unpackExponent b ≠ -1#11)
    (hle : (unpackExponent b).toNat - 1075 ≤ bound) (hleast : -1074 ≤ bound) :
    Moderate 53 bound (UnpackedFloat.unpack Format.binary64 b) := by
  have hinfinite : ¬ unpackExponent b = -BitVec.ofNat Format.binary64.exponentBits 1 := hne
  delta UnpackedFloat.unpack
  dsimp only
  rw [if_neg hinfinite]
  by_cases hsmall : unpackExponent b = BitVec.ofNat Format.binary64.exponentBits 0
  · rw [if_pos hsmall]
    by_cases hzero : unpackMantissa b = BitVec.ofNat _ 0
    · rw [dif_pos hzero]
      exact .zero _
    · rw [dif_neg hzero]
      refine .finite (Nat.lt_trans (unpackMantissa b).isLt (by decide)) ?_
      rw [hsmall]
      show ((0 : Nat) : Int) - (1023 + 52) + 1 ≤ bound
      omega
  · rw [if_neg hsmall]
    refine .finite (BitVec.isLt _) ?_
    show ((unpackExponent b).toNat : Int) - (1023 + 52) ≤ bound
    omega

/-- The same of a number that is put together. -/
theorem moderate_packComponents {sign : Sign} {exponent : BitVec 11} {mantissa : BitVec 52}
    (hne : exponent ≠ -1#11) (hle : exponent.toNat - 1075 ≤ bound) (hleast : -1074 ≤ bound) :
    Moderate 53 bound (UnpackedFloat.unpack Format.binary64
      (packComponents Format.binary64 sign exponent mantissa)) := by
  have hexponent : unpackExponent (packComponents Format.binary64 sign exponent mantissa)
      = exponent := unpackExponent_packComponents
  refine moderate_unpack ?_ ?_ hleast
  · rw [hexponent]
    exact hne
  · rw [hexponent]
    exact hle

theorem pack_finite {sign : Sign} {m : Nat} {e : Int} {hpos : 0 < m} :
    UnpackedFloat.pack Format.binary64 (.finite sign m e hpos)
      = if 2 ^ 11 ≤ (e + 1023 + 52).toNat + 1 then packedInfinity Format.binary64 sign
        else if m.log2 + 1 = 53 then
          packComponents Format.binary64 sign (BitVec.ofNat 11 (e + 1023 + 52).toNat)
            (BitVec.ofNat 52 m)
        else packComponents Format.binary64 sign 0#11 (BitVec.ofNat 52 m) := rfl

/-- A number of moderate size has its size in sixty-four bits as well. -/
theorem Moderate.unpack_pack (h : Moderate bits bound x) (hle : bound ≤ 900)
    (hleast : -1074 ≤ bound) :
    Moderate 53 bound
      (UnpackedFloat.unpack Format.binary64 (UnpackedFloat.pack Format.binary64 x)) := by
  have hzero : ((0#11).toNat : Int) - 1075 ≤ bound := by
    show ((0 : Nat) : Int) - 1075 ≤ bound
    omega
  cases h with
  | zero sign => exact moderate_packComponents (by decide) hzero hleast
  | @finite sign m e hpos hm he =>
      have hlt : (e + 1023 + 52).toNat < 2047 := by omega
      rw [pack_finite, if_neg (by omega)]
      split
      · have hvalue : (BitVec.ofNat 11 (e + 1023 + 52).toNat).toNat = (e + 1023 + 52).toNat := by
          rw [BitVec.toNat_ofNat, Nat.mod_eq_of_lt (Nat.lt_trans hlt (by decide))]
        refine moderate_packComponents ?_ ?_ hleast
        · intro heq
          have hones : (-1#11).toNat = 2047 := rfl
          have h := congrArg BitVec.toNat heq
          rw [hvalue, hones] at h
          omega
        · rw [hvalue]
          omega
      · exact moderate_packComponents (by decide) hzero hleast

end Moderate

/-! ## Whole numbers as floats -/

/-- A whole number is brought to the exponent that the format wants, and rounded. -/
theorem moderate_normalize {n : Nat} (h : n < 2 ^ 53) :
    Moderate 107 250 (UnpackedFloat.ofNat Format.binary64 n) := by
  rw [UnpackedFloat.ofNat, UnpackedFloat.ofInt, UnpackedFloat.normalize]
  split
  · next hlt => exact absurd (Int.compare_eq_lt.mp hlt) (by omega)
  · exact .zero _
  · rw [Int.toNat_natCast, UnpackedFloat.round, decreaseExponent]
    have hshift : (0 - Format.binary64.targetExponent (totalExponent n 0)).toNat ≤ 53 := by
      show (0 - max ((n.log2 : Int) + 1 + 0 - 53) (3 - 2 ^ 10 - 53)).toNat ≤ 53
      omega
    generalize (0 - Format.binary64.targetExponent (totalExponent n 0)).toNat = shift at *
    have hm : n <<< shift < 2 ^ 106 := by
      rw [Nat.shiftLeft_eq]
      calc n * 2 ^ shift < 2 ^ 53 * 2 ^ shift :=
            Nat.mul_lt_mul_of_pos_right h (Nat.two_pow_pos shift)
        _ ≤ 2 ^ 53 * 2 ^ 53 := Nat.mul_le_mul_left _ (Nat.pow_le_pow_right Nat.two_pos hshift)
    refine moderate_roundWithAccuracy hm _ .exact ?_ ?_
    · omega
    · omega

theorem unpack_one :
    (Float.toModel 1.0).unpack = .finite .positive (2 ^ 52) (-52) (Nat.two_pow_pos 52) := rfl

/-- What takes no more bits than a mantissa has is scaled by one. -/
theorem moderate_ofNat_of_lt {n : Nat} (h : n < 2 ^ 53) :
    Moderate 53 500 (Float.ofNat n).toModel.unpack := by
  have hfast : Float.ofNat n = n.toUInt64.toFloat * 1.0 := dif_pos ⟨h, by decide⟩
  have hvalue : n.toUInt64.toNat = n := UInt64.toNat_ofNat_of_lt' (Nat.lt_trans h (by decide))
  have hn : Moderate 53 250 n.toUInt64.toFloat.toModel.unpack := by
    have hm := (moderate_normalize h).unpack_pack (by decide) (by decide)
    rw [← hvalue] at hm
    exact hm
  have hone : Moderate 53 (-52) (Float.toModel 1.0).unpack := by
    rw [unpack_one]
    exact .finite (by decide) (Int.le_refl _)
  rw [hfast]
  exact (hn.mul hone (by decide) (by decide)).unpack_pack (by decide) (by decide)

/-- What takes more is rounded. -/
theorem moderate_ofNat_of_le {n : Nat} (hle : 2 ^ 53 ≤ n) (hlt : n < 2 ^ 64) :
    Moderate 53 500 (Float.ofNat n).toModel.unpack := by
  have hslow : Float.ofNat n
      = Float.ofModel (Float.Model.pack (UnpackedFloat.ofScientific Format.binary64 n 0)) :=
    dif_neg fun h => Nat.not_lt.mpr hle h.1
  have hbits : Format.binary64.mantissaBits = 53 := rfl
  have hm : n <<< Format.binary64.mantissaBits * 10 ^ (0 : Int).toNat < 2 ^ 117 := by
    rw [hbits, Nat.shiftLeft_eq, Int.toNat_zero, Nat.pow_zero, Nat.mul_one]
    omega
  have hscientific : Moderate 118 500 (UnpackedFloat.ofScientific Format.binary64 n 0) := by
    rw [UnpackedFloat.ofScientific, dif_neg (by omega), if_neg (by decide),
      if_neg (by show ¬ (0 : Int) < -(2 ^ 11 + (n.log2 : Int)); omega),
      if_pos (Int.le_refl 0), mul_finite]
    exact moderate_roundWithAccuracy hm _ .exact (by rw [hbits]; decide) (by decide)
  rw [hslow]
  exact hscientific.unpack_pack (by decide) (by decide)

theorem moderate_ofNat {n : Nat} (h : n < 2 ^ 64) :
    Moderate 53 500 (Float.ofNat n).toModel.unpack := by
  rcases Nat.lt_or_ge n (2 ^ 53) with hlt | hle
  · exact moderate_ofNat_of_lt hlt
  · exact moderate_ofNat_of_le hle h

/-- A whole number of sixty-four bits, with a sign or without, is a finite float. -/
theorem isFinite_ofInt {n : Int} (hle : -2 ^ 63 ≤ n) (hlt : n < 2 ^ 64) :
    (Float.ofInt n).isFinite = true := by
  cases n with
  | ofNat n =>
      have hnat : n < 2 ^ 64 := by
        rw [Int.ofNat_eq_natCast] at hlt
        omega
      exact (moderate_ofNat hnat).isFinite
  | negSucc n =>
      have hnat : n + 1 < 2 ^ 64 := by omega
      exact ((moderate_ofNat hnat).neg.unpack_pack (by decide) (by decide)).isFinite

end Cohort.Decimal
