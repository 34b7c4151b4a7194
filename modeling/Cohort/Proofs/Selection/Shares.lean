import Mathlib.MeasureTheory.Measure.Lebesgue.Basic
import Mathlib.MeasureTheory.Measure.Real
import Mathlib.Order.CompletePartialOrder
import Cohort.Proofs.Selection.Parts

/-! # Every bucket gets the share that was declared for it

    In exact arithmetic the parts of an allocation lie side by side: each one
    reaches from the sum of the lengths before it to the sum that includes its
    own, and the walk finds the one part that a position lies in.  The positions
    of one bucket are the parts that belong to it, wherever they stand and
    however many there are, so that their volume is the sum of the lengths
    declared for it.  Only the end of the unit interval is different: what the
    lengths miss there goes to the last part, and what they exceed it by is cut
    off. -/

namespace Cohort.Selection

open MeasureTheory

variable {parts : List (Int32 × ℝ)} {part : Int32 × ℝ} {position start : ℝ} {i : ℕ}

/-! ## Boundaries -/

/-- Where the first so many parts end: the sum of their lengths. -/
noncomputable def boundary (parts : List (Int32 × ℝ)) (i : ℕ) : ℝ :=
  ((parts.take i).map (·.2)).sum

/-- Where all parts end. -/
noncomputable def extent (parts : List (Int32 × ℝ)) : ℝ :=
  boundary parts parts.length

/-- No part has a negative length. -/
def Nonnegative (parts : List (Int32 × ℝ)) : Prop :=
  ∀ part ∈ parts, 0 ≤ part.2

theorem Nonnegative.tail (h : Nonnegative (part :: parts)) : Nonnegative parts := by
  intro p hp
  exact h p (List.mem_cons_of_mem _ hp)

@[simp] theorem boundary_zero (parts : List (Int32 × ℝ)) : boundary parts 0 = 0 := rfl

@[simp] theorem boundary_cons (part : Int32 × ℝ) (rest : List (Int32 × ℝ)) (i : ℕ) :
    boundary (part :: rest) (i + 1) = part.2 + boundary rest i := by
  simp [boundary]

theorem extent_cons (part : Int32 × ℝ) (rest : List (Int32 × ℝ)) :
    extent (part :: rest) = part.2 + extent rest :=
  boundary_cons part rest rest.length

theorem boundary_nonneg (h : Nonnegative parts) (i : ℕ) : 0 ≤ boundary parts i := by
  refine List.sum_nonneg ?_
  intro x hx
  obtain ⟨part, hpart, rfl⟩ := List.mem_map.mp hx
  exact h part (List.mem_of_mem_take hpart)

/-- A part ends its length behind its start. -/
theorem boundary_succ (hpart : parts[i]? = some part) :
    boundary parts (i + 1) = boundary parts i + part.2 := by
  simp [boundary, List.take_add_one, hpart]

/-- Behind the last part there are no further boundaries. -/
theorem boundary_succ_of_none (hpart : parts[i]? = none) :
    boundary parts (i + 1) = boundary parts i := by
  simp [boundary, List.take_add_one, hpart]

theorem boundary_mono (h : Nonnegative parts) : Monotone (boundary parts) := by
  refine monotone_nat_of_le_succ ?_
  intro i
  cases hpart : parts[i]? with
  | none => exact (boundary_succ_of_none hpart).ge
  | some part =>
      have hlength : 0 ≤ part.2 := h part (List.mem_of_getElem? hpart)
      rw [boundary_succ hpart]
      linarith

/-! ## The part that a position lies in -/

/-- The position lies between the boundaries of the part at the index. -/
def LiesIn (parts : List (Int32 × ℝ)) (position : ℝ) (i : ℕ) : Prop :=
  boundary parts i ≤ position ∧ position < boundary parts (i + 1)

/-- A position lies in one part at most. -/
theorem LiesIn.unique (h : Nonnegative parts) {j : ℕ} (hi : LiesIn parts position i)
    (hj : LiesIn parts position j) : j = i := by
  have hle : ∀ {m n : ℕ}, LiesIn parts position m → LiesIn parts position n → m ≤ n := by
    intro m n hm hn
    by_contra hlt
    -- the later part does not begin before the earlier one ends
    have hbound : boundary parts (n + 1) ≤ boundary parts m :=
      boundary_mono h (by omega)
    have hbehind : position < boundary parts m := lt_of_lt_of_le hn.2 hbound
    exact absurd hm.1 (not_le.mpr hbehind)
  exact le_antisymm (hle hj hi) (hle hi hj)

/-- Where a position lies there is a part of some length. -/
theorem LiesIn.exists_part (h : LiesIn parts position i) :
    ∃ part, parts[i]? = some part ∧ 0 < part.2 := by
  have hlt : boundary parts i < boundary parts (i + 1) := lt_of_le_of_lt h.1 h.2
  cases hpart : parts[i]? with
  | none =>
      rw [boundary_succ_of_none hpart] at hlt
      exact absurd hlt (lt_irrefl _)
  | some part =>
      rw [boundary_succ hpart] at hlt
      exact ⟨part, rfl, by linarith⟩

/-- Up to the end of the parts every position lies in one. -/
theorem exists_liesIn (hposition : 0 ≤ position) {n : ℕ}
    (hend : position < boundary parts n) : ∃ i, LiesIn parts position i := by
  induction n with
  | zero => exact absurd hend (not_lt.mpr hposition)
  | succ n ih =>
      by_cases hbefore : position < boundary parts n
      · exact ih hbefore
      · exact ⟨n, not_lt.mp hbefore, hend⟩

/-! ## The walk -/

/-- **THE WALK FINDS IT**: begun at a start, the walk stops at the part that the
    position lies in. -/
theorem partAt_of_liesIn (h : Nonnegative parts) (hpart : parts[i]? = some part)
    (hlies : LiesIn parts (position - start) i) :
    partAt position start parts = some part.1 := by
  induction parts generalizing start i with
  | nil => exact nomatch hpart
  | cons head rest ih =>
      obtain ⟨bucket, length⟩ := head
      obtain ⟨hfrom, hto⟩ := hlies
      rw [partAt]
      cases i with
      | zero =>
          obtain rfl : (bucket, length) = part := Option.some.inj hpart
          rw [boundary_zero] at hfrom
          rw [boundary_cons, boundary_zero] at hto
          dsimp only at hto
          have hlength : 0 < length := by linarith
          have hbefore : position < start + length := by linarith
          rw [if_pos ⟨hlength, hbefore⟩]
      | succ i =>
          rw [boundary_cons] at hfrom hto
          dsimp only at hfrom hto
          have hnonneg : 0 ≤ boundary rest i := boundary_nonneg h.tail i
          have hpassed : ¬ (0 < length ∧ position < start + length) := by
            rintro ⟨-, hbefore⟩
            linarith
          rw [if_neg hpassed]
          refine ih h.tail hpart ⟨?_, ?_⟩
          · linarith
          · linarith

/-- Behind all parts the walk finds none. -/
theorem partAt_of_behind (h : Nonnegative parts)
    (hbehind : start + extent parts ≤ position) : partAt position start parts = none := by
  induction parts generalizing start with
  | nil => rfl
  | cons head rest ih =>
      obtain ⟨bucket, length⟩ := head
      rw [extent_cons] at hbehind
      dsimp only at hbehind
      have hnonneg : 0 ≤ extent rest := boundary_nonneg h.tail _
      have hpassed : ¬ (0 < length ∧ position < start + length) := by
        rintro ⟨-, hbefore⟩
        linarith
      rw [partAt, if_neg hpassed]
      exact ih h.tail (by linarith)

/-- A walk that stops has not come to the end. -/
theorem lt_of_partAt (h : Nonnegative parts) {value : Int32}
    (hwalk : partAt position start parts = some value) :
    position < start + extent parts := by
  by_contra hbehind
  rw [partAt_of_behind h (not_lt.mp hbehind)] at hwalk
  exact nomatch hwalk

/-- Before the end of the parts a position is given what the walk finds. -/
theorem choosePart_of_lt (h : Nonnegative parts) (hposition : 0 ≤ position)
    (hend : position < extent parts) :
    choosePart parts position = partAt position 0 parts := by
  obtain ⟨i, hlies⟩ := exists_liesIn hposition hend
  obtain ⟨part, hpart, -⟩ := hlies.exists_part
  have hwalk : partAt position 0 parts = some part.1 :=
    partAt_of_liesIn h hpart (by rwa [sub_zero])
  rw [choosePart, hwalk]

/-- At the end and behind it, the last part of some length. -/
theorem choosePart_of_le (h : Nonnegative parts) (hend : extent parts ≤ position) :
    choosePart parts position = lastPart parts := by
  rw [choosePart, partAt_of_behind h (by rwa [zero_add])]

theorem lastPart_append {earlier later : List (Int32 × ℝ)} (hlength : 0 < part.2)
    (hlater : ∀ p ∈ later, ¬ 0 < p.2) :
    lastPart (earlier ++ part :: later) = some part.1 := by
  have hnone : later.reverse.find? (fun p => decide (0 < p.2)) = none := by
    refine List.find?_eq_none.mpr ?_
    intro p hp
    simpa using hlater p (List.mem_reverse.mp hp)
  simp [lastPart, List.find?_append, hnone, hlength]

/-- Nothing is given only where no part has any length. -/
theorem choosePart_eq_none_iff :
    choosePart parts position = none ↔ ∀ part ∈ parts, ¬ 0 < part.2 := by
  constructor
  · intro hnone part hpart hlength
    obtain ⟨found, -, -, hfound⟩ := exists_choosePart hpart hlength position
    rw [hnone] at hfound
    exact nomatch hfound
  · intro hlength
    cases hchosen : choosePart parts position with
    | none => rfl
    | some value =>
        rw [choosePart] at hchosen
        cases hwalk : partAt position 0 parts with
        | some found =>
            obtain ⟨part, hpart, hpos, -⟩ := exists_of_partAt hwalk
            exact absurd hpos (hlength part hpart)
        | none =>
            rw [hwalk] at hchosen
            obtain ⟨part, hpart, hpos, -⟩ := exists_of_lastPart hchosen
            exact absurd hpos (hlength part hpart)

/-! ## Shares -/

/-- The length of a part, if it belongs to the bucket. -/
def ownLength (value : Int32) (part : Int32 × ℝ) : ℝ :=
  if part.1 = value then part.2 else 0

/-- What is declared for a bucket: the lengths of its parts, added up. -/
noncomputable def declared (parts : List (Int32 × ℝ)) (value : Int32) : ℝ :=
  (parts.map (ownLength value)).sum

/-- The positions of the unit interval that are given a bucket. -/
def positionsOf (parts : List (Int32 × ℝ)) (value : Int32) : Set ℝ :=
  {position | position ∈ Set.Ico 0 1 ∧ choosePart parts position = some value}

/-- The share of the unit interval that a bucket receives. -/
noncomputable def share (parts : List (Int32 × ℝ)) (value : Int32) : ℝ :=
  volume.real (positionsOf parts value)

theorem ownLength_nonneg (hlength : 0 ≤ part.2) (value : Int32) :
    0 ≤ ownLength value part := by
  rw [ownLength]
  split
  · exact hlength
  · exact le_refl 0

theorem declared_nonneg (h : Nonnegative parts) (value : Int32) :
    0 ≤ declared parts value := by
  refine List.sum_nonneg ?_
  intro x hx
  obtain ⟨part, hpart, rfl⟩ := List.mem_map.mp hx
  exact ownLength_nonneg (h part hpart) value

/-! ### Where the walk finds a bucket -/

/-- The positions of a part that begins at the start, if it belongs to the
    bucket. -/
def ownPart (value : Int32) (start : ℝ) (part : Int32 × ℝ) : Set ℝ :=
  if part.1 = value then Set.Ico start (start + part.2) else ∅

/-- The positions from the start on where the walk finds the bucket. -/
def walked (value : Int32) (start : ℝ) (parts : List (Int32 × ℝ)) : Set ℝ :=
  {position | start ≤ position ∧ partAt position start parts = some value}

variable (value : Int32)

theorem measurableSet_ownPart (start : ℝ) (part : Int32 × ℝ) :
    MeasurableSet (ownPart value start part) := by
  rw [ownPart]
  split
  · exact measurableSet_Ico
  · exact MeasurableSet.empty

theorem volume_ownPart (start : ℝ) (part : Int32 × ℝ) :
    volume (ownPart value start part) = ENNReal.ofReal (ownLength value part) := by
  rw [ownPart, ownLength]
  split
  · rw [Real.volume_Ico, add_sub_cancel_left]
  · rw [measure_empty, ENNReal.ofReal_zero]

theorem walked_nil (start : ℝ) : walked value start [] = ∅ := by
  ext position
  simp [walked, partAt]

/-- The first part is walked, and the others from its end on. -/
theorem walked_cons (h : Nonnegative (part :: parts)) (start : ℝ) :
    walked value start (part :: parts)
      = walked value (start + part.2) parts ∪ ownPart value start part := by
  obtain ⟨bucket, length⟩ := part
  have hlength : 0 ≤ length := h _ List.mem_cons_self
  ext position
  simp only [walked, ownPart, partAt, Set.mem_ofPred_eq, Set.mem_union]
  by_cases hstop : 0 < length ∧ position < start + length
  · have hbefore : ¬ start + length ≤ position := not_le.mpr hstop.2
    by_cases hvalue : bucket = value
    · simp [hstop, hbefore, hvalue]
    · simp [hstop, hbefore, hvalue]
  · -- the walk goes on, so the position is behind the first part, which may be empty
    rw [if_neg hstop]
    have hstart : start ≤ position ↔ start + length ≤ position := by
      constructor
      · intro hle
        by_contra hlt
        exact hstop ⟨by linarith, not_le.mp hlt⟩
      · intro hle
        linarith
    have hown : position ∉ Set.Ico start (start + length) := by
      rintro ⟨hle, hlt⟩
      exact absurd (hstart.mp hle) (not_le.mpr hlt)
    by_cases hvalue : bucket = value
    · simp [hstart, hown, hvalue]
    · simp [hstart, hvalue]

/-- Behind the end of the first part nothing belongs to it any more. -/
theorem disjoint_walked_ownPart (start : ℝ) (part : Int32 × ℝ) (rest : List (Int32 × ℝ)) :
    Disjoint (walked value (start + part.2) rest) (ownPart value start part) := by
  rw [Set.disjoint_left, ownPart]
  intro position hwalked hown
  split at hown
  · exact absurd hwalked.1 (not_le.mpr hown.2)
  · exact hown

theorem measurableSet_walked (h : Nonnegative parts) (start : ℝ) :
    MeasurableSet (walked value start parts) := by
  induction parts generalizing start with
  | nil =>
      rw [walked_nil]
      exact MeasurableSet.empty
  | cons part rest ih =>
      rw [walked_cons value h]
      exact (ih h.tail _).union (measurableSet_ownPart value start part)

/-- **WHAT IS DECLARED IS WALKED**: the positions where the walk finds a bucket
    have the volume that is declared for it. -/
theorem volume_walked (h : Nonnegative parts) (start : ℝ) :
    volume (walked value start parts) = ENNReal.ofReal (declared parts value) := by
  induction parts generalizing start with
  | nil => simp [walked_nil, declared]
  | cons part rest ih =>
      have hown : 0 ≤ ownLength value part :=
        ownLength_nonneg (h part List.mem_cons_self) value
      rw [walked_cons value h, measure_union (disjoint_walked_ownPart value start part rest)
          (measurableSet_ownPart value start part),
        ih h.tail, volume_ownPart, ← ENNReal.ofReal_add (declared_nonneg h.tail value) hown,
        add_comm]
      rfl

theorem volume_real_walked (h : Nonnegative parts) (start : ℝ) :
    volume.real (walked value start parts) = declared parts value := by
  rw [measureReal_def, volume_walked value h,
    ENNReal.toReal_ofReal (declared_nonneg h value)]

/-! ### The end of the unit interval -/

/-- Up to the end of the parts a bucket has the positions where the walk finds
    it, and from there on all, if the last part of some length is its own. -/
theorem positionsOf_eq (h : Nonnegative parts) :
    positionsOf parts value
      = (walked value 0 parts ∩ Set.Ico 0 1)
        ∪ (if lastPart parts = some value then Set.Ico (extent parts) 1 else ∅) := by
  ext position
  -- before the end the walk decides alone, from there on the last part
  by_cases hend : position < extent parts
  · have hbefore : ¬ extent parts ≤ position := not_le.mpr hend
    have hlast : position ∉
        (if lastPart parts = some value then Set.Ico (extent parts) 1 else ∅) := by
      split
      · exact fun hin => hbefore hin.1
      · exact Set.notMem_empty position
    simp only [positionsOf, walked, Set.mem_ofPred_eq, Set.mem_union, Set.mem_inter_iff,
      hlast, or_false]
    constructor
    · rintro ⟨hin, hchosen⟩
      rw [choosePart_of_lt h hin.1 hend] at hchosen
      exact ⟨⟨hin.1, hchosen⟩, hin⟩
    · rintro ⟨⟨hstart, hwalk⟩, hin⟩
      rw [choosePart_of_lt h hstart hend]
      exact ⟨hin, hwalk⟩
  · have hbehind : extent parts ≤ position := not_lt.mp hend
    have hpositive : 0 ≤ position := le_trans (boundary_nonneg h _) hbehind
    have hwalk : partAt position 0 parts = none :=
      partAt_of_behind h (by rwa [zero_add])
    simp only [positionsOf, walked, Set.mem_ofPred_eq, Set.mem_union, Set.mem_inter_iff,
      choosePart_of_le h hbehind, hwalk]
    by_cases hlast : lastPart parts = some value
    · simp [hlast, hbehind, hpositive]
    · simp [hlast]

theorem measurableSet_positionsOf (h : Nonnegative parts) :
    MeasurableSet (positionsOf parts value) := by
  rw [positionsOf_eq value h]
  refine ((measurableSet_walked value h 0).inter measurableSet_Ico).union ?_
  split
  · exact measurableSet_Ico
  · exact MeasurableSet.empty

/-- A bucket receives no more than is declared for it and missed at the end. -/
theorem share_le (h : Nonnegative parts) :
    share parts value ≤ declared parts value + |extent parts - 1| := by
  have hsubset : positionsOf parts value
      ⊆ walked value 0 parts ∪ Set.Ico (extent parts) 1 := by
    rw [positionsOf_eq value h]
    refine Set.union_subset_union Set.inter_subset_left ?_
    split
    · exact subset_rfl
    · exact Set.empty_subset _
  have hfinite : volume (walked value 0 parts ∪ Set.Ico (extent parts) 1) ≠ ⊤ := by
    refine (measure_union_lt_top ?_ ?_).ne
    · rw [volume_walked value h]
      exact ENNReal.ofReal_lt_top
    · exact measure_Ico_lt_top
  calc share parts value
      ≤ volume.real (walked value 0 parts ∪ Set.Ico (extent parts) 1) :=
        measureReal_mono hsubset hfinite
    _ ≤ volume.real (walked value 0 parts) + volume.real (Set.Ico (extent parts) 1) :=
        measureReal_union_le _ _
    _ = declared parts value + max (1 - extent parts) 0 := by
        rw [volume_real_walked value h, Real.volume_real_Ico]
    _ ≤ declared parts value + |extent parts - 1| := by
        rw [abs_sub_comm]
        gcongr
        exact max_le (le_abs_self _) (abs_nonneg _)

/-- A bucket receives all that is declared for it, up to what is cut off. -/
theorem declared_le (h : Nonnegative parts) :
    declared parts value ≤ share parts value + |extent parts - 1| := by
  have hsubset : walked value 0 parts
      ⊆ positionsOf parts value ∪ Set.Ico 1 (extent parts) := by
    rintro position ⟨hstart, hwalk⟩
    have hend : position < extent parts := by
      have hlt := lt_of_partAt h hwalk
      rwa [zero_add] at hlt
    by_cases hinside : position < 1
    · refine Or.inl ⟨⟨hstart, hinside⟩, ?_⟩
      rw [choosePart_of_lt h hstart hend]
      exact hwalk
    · exact Or.inr ⟨not_lt.mp hinside, hend⟩
  have hpositions : volume (positionsOf parts value) < ⊤ :=
    lt_of_le_of_lt (measure_mono fun _ hposition => hposition.1) measure_Ico_lt_top
  have hfinite : volume (positionsOf parts value ∪ Set.Ico 1 (extent parts)) ≠ ⊤ :=
    (measure_union_lt_top hpositions measure_Ico_lt_top).ne
  calc declared parts value
      = volume.real (walked value 0 parts) := (volume_real_walked value h 0).symm
    _ ≤ volume.real (positionsOf parts value ∪ Set.Ico 1 (extent parts)) :=
        measureReal_mono hsubset hfinite
    _ ≤ share parts value + volume.real (Set.Ico 1 (extent parts)) :=
        measureReal_union_le _ _
    _ = share parts value + max (extent parts - 1) 0 := by
        rw [Real.volume_real_Ico]
    _ ≤ share parts value + |extent parts - 1| := by
        gcongr
        exact max_le (le_abs_self _) (abs_nonneg _)

/-- **SHARES AS DECLARED**: up to the end of the parts a position is given the
    bucket of the one part of some length that it lies in, and from there on
    that of the last part of some length; it is given none exactly when no part
    has any length.  So if the lengths add up to one within a tolerance, the
    share of every bucket is what is declared for it, within that tolerance. -/
theorem share_eq_declared (parts : List (Int32 × ℝ)) (h : ∀ part ∈ parts, 0 ≤ part.2) :
    (∀ position, 0 ≤ position → position < boundary parts parts.length →
      ∃ i part, parts[i]? = some part ∧ 0 < part.2 ∧
        boundary parts i ≤ position ∧ position < boundary parts (i + 1) ∧
        choosePart parts position = some part.1 ∧
        ∀ j, boundary parts j ≤ position → position < boundary parts (j + 1) → j = i) ∧
    (∀ position earlier part later, boundary parts parts.length ≤ position →
      parts = earlier ++ part :: later → 0 < part.2 → (∀ p ∈ later, ¬ 0 < p.2) →
      choosePart parts position = some part.1) ∧
    (∀ position, choosePart parts position = none ↔ ∀ part ∈ parts, ¬ 0 < part.2) ∧
    (∀ tolerance, |boundary parts parts.length - 1| ≤ tolerance → ∀ value,
      MeasurableSet (positionsOf parts value) ∧
      |share parts value - declared parts value| ≤ tolerance) := by
  have hparts : Nonnegative parts := h
  refine ⟨?_, ?_, ?_, ?_⟩
  · intro position hposition hend
    obtain ⟨i, hlies⟩ := exists_liesIn hposition hend
    obtain ⟨part, hpart, hlength⟩ := hlies.exists_part
    have hchosen : choosePart parts position = some part.1 := by
      rw [choosePart_of_lt hparts hposition hend]
      exact partAt_of_liesIn hparts hpart (by rwa [sub_zero])
    refine ⟨i, part, hpart, hlength, hlies.1, hlies.2, hchosen, ?_⟩
    intro j hfrom hto
    exact hlies.unique hparts ⟨hfrom, hto⟩
  · intro position earlier part later hend hsplit hlength hlater
    rw [choosePart_of_le hparts hend, hsplit]
    exact lastPart_append hlength hlater
  · intro position
    exact choosePart_eq_none_iff
  · intro tolerance htolerance value
    refine ⟨measurableSet_positionsOf value hparts, ?_⟩
    have hmore := share_le value hparts
    have hless := declared_le value hparts
    rw [extent] at hmore hless
    rw [abs_le]
    constructor <;> linarith

/-- Five parts that are slightly too short, two of them empty.  A position on a
    boundary is given the next part of some length, one behind them all the
    last such part, and every bucket its share. -/
theorem short_parts_share :
    let parts : List (Int32 × ℝ) :=
      [(-1, 1 / 2), (0, 0), (0, 1 / 4), (1, 2499995 / 10000000), (-1, 0)]
    (∀ part ∈ parts, 0 ≤ part.2) ∧
    choosePart parts (1 / 2) = some 0 ∧
    choosePart parts (9999999 / 10000000) = some 1 ∧
    choosePart parts 0 ≠ none ∧
    |share parts (-1) - 1 / 2| ≤ 1 / 1000000 := by
  intro parts
  have hparts : ∀ part ∈ parts, 0 ≤ part.2 := by
    simp only [parts, List.forall_mem_cons]
    norm_num
  have hextent : boundary parts parts.length = 9999995 / 10000000 := by
    norm_num [boundary, parts]
  have hdeclared : declared parts (-1) = 1 / 2 := by
    have hzero : (0 : Int32) ≠ -1 := by decide
    have hone : (1 : Int32) ≠ -1 := by decide
    norm_num [declared, ownLength, parts, hzero, hone]
  obtain ⟨hinside, hbehind, hnone, hshares⟩ := share_eq_declared parts hparts
  refine ⟨hparts, ?_, ?_, ?_, ?_⟩
  · have hend : (1 / 2 : ℝ) < boundary parts parts.length := by
      rw [hextent]
      norm_num
    obtain ⟨i, part, hpart, -, -, -, hchosen, hunique⟩ :=
      hinside (1 / 2) (by norm_num) hend
    obtain rfl : 2 = i := by
      refine hunique 2 ?_ ?_
      · norm_num [boundary, parts]
      · norm_num [boundary, parts]
    obtain rfl : ((0 : Int32), (1 / 4 : ℝ)) = part := Option.some.inj hpart
    exact hchosen
  · refine hbehind _ [(-1, 1 / 2), (0, 0), (0, 1 / 4)] (1, 2499995 / 10000000) [(-1, 0)]
      ?_ rfl ?_ ?_
    · rw [hextent]
      norm_num
    · norm_num
    · norm_num
  · intro hchosen
    have hlength := (hnone 0).mp hchosen (-1, 1 / 2) List.mem_cons_self
    norm_num at hlength
  · have hshare := (hshares (1 / 1000000) ?_ (-1)).2
    · rw [hdeclared] at hshare
      exact hshare
    · rw [hextent, abs_le]
      norm_num

end Cohort.Selection
