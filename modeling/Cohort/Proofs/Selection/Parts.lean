import Cohort.Selection

/-! # A position always falls into some part

    The walk along the parts of an allocation passes over parts without
    length, and behind the last part it goes back to the last one of some
    length.  So it ends in a part of some length wherever the position is, if
    there is one.  There is one in every allocation whose lengths add up to
    one: without it the lengths are zeros, and zeros add up to zero. -/

namespace Cohort.Selection

/-! ## Walking along the parts -/

section Parts

variable {α : Type} [OfNat α 0] [LT α] [DecidableRel (α := α) (· < ·)]

theorem exists_of_lastPart {parts : List (Int32 × α)} {value : Int32}
    (h : lastPart parts = some value) :
    ∃ part ∈ parts, 0 < part.2 ∧ part.1 = value := by
  obtain ⟨part, hpart, hvalue⟩ := Option.map_eq_some_iff.mp h
  have hmem : part ∈ parts := List.mem_reverse.mp (List.mem_of_find?_eq_some hpart)
  have hlength := List.find?_some hpart
  exact ⟨part, hmem, of_decide_eq_true hlength, hvalue⟩

theorem lastPart_ne_none {parts : List (Int32 × α)} {part : Int32 × α}
    (hpart : part ∈ parts) (hlength : 0 < part.2) : lastPart parts ≠ none := by
  intro h
  have hnone := List.find?_eq_none.mp (Option.map_eq_none_iff.mp h) part
    (List.mem_reverse.mpr hpart)
  exact hnone (decide_eq_true hlength)

variable [Add α]

/-- The walk stops only in a part of some length. -/
theorem exists_of_partAt {position start : α} {parts : List (Int32 × α)}
    {value : Int32} (h : partAt position start parts = some value) :
    ∃ part ∈ parts, 0 < part.2 ∧ part.1 = value := by
  induction parts generalizing start with
  | nil => exact nomatch h
  | cons part rest ih =>
      obtain ⟨bucket, length⟩ := part
      rw [partAt] at h
      by_cases hstop : 0 < length ∧ position < start + length
      · rw [if_pos hstop] at h
        exact ⟨(bucket, length), List.mem_cons_self, hstop.1, Option.some.inj h⟩
      · rw [if_neg hstop] at h
        obtain ⟨part, hpart, hfound⟩ := ih h
        exact ⟨part, List.mem_cons_of_mem _ hpart, hfound⟩

/-- **NO POSITION IS LOST**: if any part has some length, every position falls
    into a part of some length. -/
theorem exists_choosePart {parts : List (Int32 × α)} {part : Int32 × α}
    (hpart : part ∈ parts) (hlength : 0 < part.2) (position : α) :
    ∃ found ∈ parts, 0 < found.2 ∧ choosePart parts position = some found.1 := by
  rw [choosePart]
  cases hwalk : partAt position 0 parts with
  | some value =>
      obtain ⟨found, hfound, hpos, hvalue⟩ := exists_of_partAt hwalk
      exact ⟨found, hfound, hpos, congrArg some hvalue.symm⟩
  | none =>
      obtain ⟨value, hlast⟩ := Option.ne_none_iff_exists'.mp
        (lastPart_ne_none hpart hlength)
      obtain ⟨found, hfound, hpos, hvalue⟩ := exists_of_lastPart hlast
      exact ⟨found, hfound, hpos, hlast.trans (congrArg some hvalue.symm)⟩

end Parts

/-! ## Lengths as floats -/

open Float.Model in
/-- What is not below zero and not above it is one of the two zeros. -/
theorem unpack_of_not_pos {x : Float} (hle : (0.0 : Float) ≤ x) (hlt : ¬ 0 < x) :
    ∃ sign, x.toModel.unpack = .zero sign := by
  have hzero : (0.0 : Float).toModel.unpack = .zero .positive := rfl
  have hle' : (UnpackedFloat.zero .positive).le x.toModel.unpack = true := by
    rw [← hzero]
    exact of_decide_eq_true hle
  have hlt' : (UnpackedFloat.zero .positive).lt x.toModel.unpack ≠ true := by
    rw [← hzero]
    exact fun h => hlt (decide_eq_true h)
  revert hle' hlt'
  cases x.toModel.unpack with
  | zero sign => exact fun _ _ => ⟨sign, rfl⟩
  | notANumber => exact fun h => nomatch h
  | infinity sign =>
      cases sign with
      | positive => exact fun _ h => absurd rfl h
      | negative => exact fun h => nomatch h
  | finite sign mantissa exponent hmantissa =>
      cases sign with
      | positive => exact fun _ h => absurd rfl h
      | negative => exact fun h => nomatch h

open Float.Model in
/-- Adding a zero of either sign to zero gives zero. -/
theorem zero_add_of_not_pos {x : Float} (hle : (0.0 : Float) ≤ x) (hlt : ¬ 0 < x) :
    0.0 + x = 0.0 := by
  obtain ⟨sign, hx⟩ := unpack_of_not_pos hle hlt
  show Float.ofModel (pack (UnpackedFloat.add Format.binary64
    (0.0 : Float).toModel.unpack x.toModel.unpack)) = 0.0
  rw [hx]
  cases sign with
  | positive => decide
  | negative => decide

/-- Lengths none of which is above zero add up to zero. -/
theorem totalLength_of_not_pos {ranges : List Range}
    (hlength : ∀ r ∈ ranges, Consistency.isLength r.length = true)
    (hnone : ∀ r ∈ ranges, ¬ 0 < r.length) :
    Consistency.totalLength ranges = 0.0 := by
  rw [Consistency.totalLength]
  induction ranges with
  | nil => rfl
  | cons r rest ih =>
      have hr := hlength r List.mem_cons_self
      rw [Consistency.isLength, Bool.and_eq_true, Bool.and_eq_true] at hr
      have hle : (0.0 : Float) ≤ r.length := of_decide_eq_true hr.2.1
      rw [List.foldl_cons, zero_add_of_not_pos hle (hnone r List.mem_cons_self)]
      exact ih (fun r' hr' => hlength r' (List.mem_cons_of_mem _ hr'))
        (fun r' hr' => hnone r' (List.mem_cons_of_mem _ hr'))

/-- Lengths that add up to one are not all zero. -/
theorem exists_pos_of_total {ranges : List Range}
    (hlength : ∀ r ∈ ranges, Consistency.isLength r.length = true)
    (htotal : ¬ Consistency.tolerance < (Consistency.totalLength ranges - 1.0).abs) :
    ∃ r ∈ ranges, 0 < r.length := by
  by_cases hpos : ∃ r ∈ ranges, 0 < r.length
  · exact hpos
  · have hnone : ∀ r ∈ ranges, ¬ 0 < r.length := fun r hr h => hpos ⟨r, hr, h⟩
    rw [totalLength_of_not_pos hlength hnone] at htotal
    have hfar : Consistency.tolerance < ((0.0 : Float) - 1.0).abs := by decide
    exact absurd hfar htotal

/-- Every position of such lengths belongs to a range of some length. -/
theorem exists_chooseRange {ranges : List Range}
    (hlength : ∀ r ∈ ranges, Consistency.isLength r.length = true)
    (htotal : ¬ Consistency.tolerance < (Consistency.totalLength ranges - 1.0).abs)
    (position : Float) :
    ∃ r ∈ ranges, 0 < r.length ∧
      chooseRange ranges position = some r.bucketValue := by
  obtain ⟨r, hr, hpos⟩ := exists_pos_of_total hlength htotal
  have hpart : (r.bucketValue, r.length)
      ∈ ranges.map fun r => (r.bucketValue, r.length) := List.mem_map.mpr ⟨r, hr, rfl⟩
  obtain ⟨found, hfound, hfoundpos, hchosen⟩ := exists_choosePart hpart hpos position
  obtain ⟨r', hr', rfl⟩ := List.mem_map.mp hfound
  exact ⟨r', hr', hfoundpos, hchosen⟩

end Cohort.Selection
