import Cohort.Proofs.Decimal.Rounding

/-! # The order of floats

    `<`, `≤` and `==` ask one and the same comparison.  Beside a NaN it finds
    nothing; otherwise it finds one of three orders, and the opposite one when
    its sides change places.  Whoever compares a computed number has to know
    that it is no NaN: it is none if it was added up from a number that is none
    and finite ones, however far the sum has overflowed on the way. -/

namespace Cohort.Decimal

open Float.Model Float.Model.UnpackedFloat

/-! ## One comparison -/

theorem sign_compare_swap (s s' : Sign) : compare s' s = (compare s s').swap := by
  cases s <;> cases s' <;> rfl

/-- **SIDES CHANGED**: seen from the other side, the order is the opposite one. -/
theorem compare_swap (a b : UnpackedFloat) :
    b.compare a = (a.compare b).map Ordering.swap := by
  have hmagnitude : ∀ (m n : Nat) (e f : Int),
      (compare f e).then (compare n m) = ((compare e f).then (compare m n)).swap := by
    intro m n e f
    rw [Ordering.swap_then, Int.compare_swap, Nat.compare_swap]
  cases a with
  | notANumber => cases b <;> rfl
  | infinity s =>
      cases b with
      | infinity s' => exact congrArg some (sign_compare_swap s s')
      | notANumber => rfl
      | zero s' => cases s <;> rfl
      | finite s' m e h => cases s <;> rfl
  | zero s =>
      cases b with
      | infinity s' => cases s' <;> rfl
      | notANumber => rfl
      | zero s' => rfl
      | finite s' m e h => cases s' <;> rfl
  | finite s m e h =>
      cases b with
      | infinity s' => cases s' <;> rfl
      | notANumber => rfl
      | zero s' => cases s <;> rfl
      | finite s' m' e' h' =>
          cases s with
          | negative =>
              cases s' with
              | negative => exact congrArg (fun o => some o.swap) (hmagnitude m m' e e')
              | positive => rfl
          | positive =>
              cases s' with
              | negative => rfl
              | positive => exact congrArg some (hmagnitude m m' e e')

theorem compare_eq_none_iff (a b : UnpackedFloat) :
    a.compare b = none ↔ a.isNaN = true ∨ b.isNaN = true := by
  have hfound : ∀ {o : Ordering}, a.compare b = some o → a.isNaN = false → b.isNaN = false →
      (a.compare b = none ↔ a.isNaN = true ∨ b.isNaN = true) := by
    intro o ho ha hb
    rw [ho, ha, hb, or_self]
    exact ⟨nofun, nofun⟩
  cases a with
  | notANumber =>
      have hnone : UnpackedFloat.notANumber.compare b = none := by cases b <;> rfl
      exact ⟨fun _ => Or.inl rfl, fun _ => hnone⟩
  | infinity s =>
      cases b with
      | notANumber => exact ⟨fun _ => Or.inr rfl, fun _ => rfl⟩
      | infinity s' => exact hfound rfl rfl rfl
      | zero s' => cases s <;> exact hfound rfl rfl rfl
      | finite s' m e h => cases s <;> exact hfound rfl rfl rfl
  | zero s =>
      cases b with
      | notANumber => exact ⟨fun _ => Or.inr rfl, fun _ => rfl⟩
      | infinity s' => cases s' <;> exact hfound rfl rfl rfl
      | zero s' => exact hfound rfl rfl rfl
      | finite s' m e h => cases s' <;> exact hfound rfl rfl rfl
  | finite s m e h =>
      cases b with
      | notANumber => exact ⟨fun _ => Or.inr rfl, fun _ => rfl⟩
      | infinity s' => cases s' <;> exact hfound rfl rfl rfl
      | zero s' => cases s <;> exact hfound rfl rfl rfl
      | finite s' m' e' h' => cases s <;> cases s' <;> exact hfound rfl rfl rfl

section Operators

variable {x y : Float}

theorem lt_iff_compare : x < y ↔ x.toModel.unpack.compare y.toModel.unpack = some .lt := by
  have hlt : x < y ↔ (x.toModel.unpack.compare y.toModel.unpack == some .lt) = true := by
    show decide (x.toModel < y.toModel) = true ↔ _
    rw [decide_eq_true_iff]
    rfl
  rw [hlt, beq_iff_eq]

theorem beq_iff_compare :
    (x == y) = true ↔ x.toModel.unpack.compare y.toModel.unpack = some .eq := by
  show (x.toModel.unpack.compare y.toModel.unpack == some .eq) = true ↔ _
  rw [beq_iff_eq]

theorem le_iff_compare :
    x ≤ y ↔ (x.toModel.unpack.compare y.toModel.unpack).any (·.isLE) = true := by
  show decide (x.toModel ≤ y.toModel) = true ↔ _
  rw [decide_eq_true_iff]
  rfl

/-- Numbers that are no NaN are in order one way or the other. -/
theorem le_iff_not_lt (hx : x.isNaN = false) (hy : y.isNaN = false) : x ≤ y ↔ ¬ y < x := by
  rw [le_iff_compare, lt_iff_compare, compare_swap x.toModel.unpack]
  cases hcompare : x.toModel.unpack.compare y.toModel.unpack with
  | none =>
      rcases (compare_eq_none_iff _ _).mp hcompare with hnan | hnan
      · exact nomatch hnan.symm.trans hx
      · exact nomatch hnan.symm.trans hy
  | some o => cases o <;> decide

end Operators

/-! ## What is no NaN -/

theorem isNaN_dite {c : Prop} [Decidable c] {yes : c → UnpackedFloat} {no : ¬c → UnpackedFloat}
    (hyes : ∀ h, (yes h).isNaN = false) (hno : ∀ h, (no h).isNaN = false) :
    (if h : c then yes h else no h).isNaN = false := by
  by_cases h : c
  · rw [dif_pos h]
    exact hyes h
  · rw [dif_neg h]
    exact hno h

/-- What is put together is a NaN only with the exponent of the infinite numbers and a
    mantissa beside it. -/
theorem isNaN_packComponents {sign : Sign} {exponent : BitVec 11} {mantissa : BitVec 52}
    (h : exponent = -1#11 → mantissa = 0#52) :
    (UnpackedFloat.unpack Format.binary64
      (packComponents Format.binary64 sign exponent mantissa)).isNaN = false := by
  have hexponent : unpackExponent (packComponents Format.binary64 sign exponent mantissa)
      = exponent := unpackExponent_packComponents
  have hmantissa : unpackMantissa (packComponents Format.binary64 sign exponent mantissa)
      = mantissa := unpackMantissa_packComponents
  generalize packComponents Format.binary64 sign exponent mantissa = bits at hexponent hmantissa ⊢
  -- the branches of unpacking one after the other; a NaN is made in none that is reached
  by_cases hinfinite : unpackExponent bits = -1#11
  · have hzero : unpackMantissa bits = 0#52 := hmantissa.trans (h (hexponent.symm.trans hinfinite))
    have hvalue : UnpackedFloat.unpack Format.binary64 bits = .infinity _ :=
      (if_pos hinfinite).trans (if_pos hzero)
    rw [hvalue]
    rfl
  · by_cases hleast : unpackExponent bits = 0#11
    · have hvalue : UnpackedFloat.unpack Format.binary64 bits = dite _ _ _ :=
        (if_neg hinfinite).trans (if_pos hleast)
      rw [hvalue]
      exact isNaN_dite (fun _ => rfl) (fun _ => rfl)
    · have hvalue : UnpackedFloat.unpack Format.binary64 bits = .finite _ _ _ _ :=
        (if_neg hinfinite).trans (if_neg hleast)
      rw [hvalue]
      rfl

/-- Packing makes infinities, and never a NaN. -/
theorem isNaN_unpack_pack {a : UnpackedFloat} (h : a.isNaN = false) :
    (UnpackedFloat.unpack Format.binary64 (UnpackedFloat.pack Format.binary64 a)).isNaN
      = false := by
  cases a with
  | notANumber => exact nomatch h
  | infinity s => exact isNaN_packComponents fun _ => rfl
  | zero s => exact isNaN_packComponents nofun
  | finite s m e hpos =>
      rw [pack_finite]
      split
      · exact isNaN_packComponents fun _ => rfl
      · next hlarge =>
          split
          · refine isNaN_packComponents fun hones => ?_
            have hnat := congrArg BitVec.toNat hones
            have hvalue : (BitVec.ofNat 11 (e + 1023 + 52).toNat).toNat
                = (e + 1023 + 52).toNat := by
              rw [BitVec.toNat_ofNat, Nat.mod_eq_of_lt (by omega)]
            have hmax : (-1#11).toNat = 2047 := rfl
            omega
          · exact isNaN_packComponents nofun

/-- Rounding finds zero or a finite number. -/
theorem isNaN_roundWithAccuracy (sign : Sign) (m : Nat) (e : Int) (accuracy : Accuracy) :
    (roundWithAccuracy Format.binary64 sign m e accuracy).isNaN = false :=
  isNaN_dite (fun _ => rfl) (fun _ => rfl)

theorem isNaN_normalize (m e : Int) (sign : Sign) :
    (UnpackedFloat.normalize Format.binary64 m e sign).isNaN = false := by
  rw [UnpackedFloat.normalize]
  split
  · exact isNaN_roundWithAccuracy _ _ _ _
  · rfl
  · exact isNaN_roundWithAccuracy _ _ _ _

/-- A sum of which one part is finite is no NaN unless the other part is. -/
theorem isNaN_add {a b : UnpackedFloat} (ha : a.isNaN = false) (hb : b.isFinite = true) :
    (UnpackedFloat.add Format.binary64 a b).isNaN = false := by
  cases b with
  | notANumber => exact nomatch hb
  | infinity s => exact nomatch hb
  | zero s =>
      cases a with
      | zero s' => cases s <;> cases s' <;> rfl
      | _ => exact ha
  | finite s m e hpos =>
      cases a with
      | finite s' m' e' hpos' => exact isNaN_normalize _ _ _
      | zero s' => rfl
      | _ => exact ha

theorem isNaN_sub {a b : UnpackedFloat} (ha : a.isNaN = false) (hb : b.isFinite = true) :
    (UnpackedFloat.sub Format.binary64 a b).isNaN = false := by
  cases b with
  | notANumber => exact nomatch hb
  | infinity s => exact nomatch hb
  | zero s =>
      cases a with
      | zero s' => cases s <;> cases s' <;> rfl
      | _ => exact ha
  | finite s m e hpos =>
      cases a with
      | finite s' m' e' hpos' => exact isNaN_normalize _ _ _
      | zero s' => rfl
      | _ => exact ha

section Sums

variable {x y : Float}

theorem isNaN_add_of_isFinite (hx : x.isNaN = false) (hy : y.isFinite = true) :
    (x + y).isNaN = false :=
  isNaN_unpack_pack (isNaN_add hx hy)

theorem isNaN_sub_of_isFinite (hx : x.isNaN = false) (hy : y.isFinite = true) :
    (x - y).isNaN = false :=
  isNaN_unpack_pack (isNaN_sub hx hy)

theorem isNaN_abs (hx : x.isNaN = false) : x.abs.isNaN = false := by
  refine isNaN_unpack_pack ?_
  have hunpacked : x.toModel.unpack.isNaN = false := hx
  cases hcase : x.toModel.unpack with
  | notANumber => exact nomatch (hcase ▸ hunpacked)
  | infinity s => rfl
  | zero s => rfl
  | finite s m e hpos => rfl

theorem isNaN_of_isFinite (hx : x.isFinite = true) : x.isNaN = false := by
  have hunpacked : x.toModel.unpack.isFinite = true := hx
  show x.toModel.unpack.isNaN = false
  cases hcase : x.toModel.unpack with
  | notANumber => exact nomatch (hcase ▸ hunpacked)
  | infinity s => rfl
  | zero s => rfl
  | finite s m e hpos => rfl

end Sums

end Cohort.Decimal
