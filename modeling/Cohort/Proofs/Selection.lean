import Cohort.Selection
import Cohort.Proofs.Session

/-! # What a selection depends on

    The answers of the rules and the position of the request decide on a
    selection, and the session does not.  The position is drawn for randomized
    tests alone; what is drawn beside any other test is not looked at. -/

namespace Cohort

/-! ## Buckets of a value -/

theorem Definition.bucket?_eq_some {d : Definition} {value : Int32} {b : Bucket}
    (h : d.bucket? value = some b) : b ∈ d.buckets ∧ b.value = value := by
  have hvalue := List.find?_some h
  exact ⟨List.mem_of_find?_eq_some h, beq_iff_eq.mp hvalue⟩

/-- A value that is declared belongs to some bucket. -/
theorem Definition.exists_bucket?_iff {d : Definition} {value : Int32} :
    (∃ b, d.bucket? value = some b) ↔ ∃ b ∈ d.buckets, b.value = value := by
  constructor
  · rintro ⟨b, hb⟩
    exact ⟨b, Definition.bucket?_eq_some hb⟩
  · rintro ⟨b, hb, hvalue⟩
    refine Option.isSome_iff_exists.mp (List.find?_isSome.mpr ⟨b, hb, ?_⟩)
    exact beq_iff_eq.mpr hvalue

namespace Selection

/-! ## Steadiness -/

open InSession

variable (l : Rule.Library) (test : String)

theorem steady_matchAllocation (scope : Rule.Scope) (index : Nat)
    (allocations : List Allocation) :
    Steady (matchAllocation l test scope index allocations) := by
  induction allocations generalizing index with
  | nil => exact steady_pure _
  | cons a rest ih =>
      refine (steady_evaluate l _ a.rule scope).bind ?_
      rintro (e | answer)
      · exact steady_pure _
      · cases answer with
        | false => exact ih (index + 1)
        | true => exact (steady_report _).bind fun _ => steady_pure _

theorem steady_reach (d : Definition) (index : Nat) (a : Allocation)
    (position : Float) : Steady (reach test d index a position) := by
  rw [reach]
  split
  · exact steady_pure _
  · exact (steady_report _).bind fun _ => steady_pure _

theorem steady_select (d : Definition) (identity : Option String)
    (context : Context) (drawn : Float) :
    Steady (select l test d identity context drawn) := by
  rw [select]
  split
  · exact steady_pure _
  · refine (steady_evaluate l _ d.rule _).bind ?_
    rintro (e | answer)
    · exact steady_pure _
    · cases answer with
      | false => exact (steady_report _).bind fun _ => steady_pure _
      | true =>
          refine (steady_matchAllocation l test _ 0 d.allocations).bind ?_
          rintro (e | found)
          · exact steady_pure _
          · cases found with
            | none => exact (steady_report _).bind fun _ => steady_pure _
            | some found =>
                refine (steady_reach test d found.1 found.2 _).bind ?_
                intro selection
                exact steady_pure _

/-! ## Positions -/

/-- The position of an identity in a test that is not randomized is computed. -/
theorem position_of_not_randomized {d : Definition} (hd : d.isRandomized = false)
    (identity : String) (drawn drawn' : Float) :
    d.position test (some identity) drawn = d.position test (some identity) drawn' := by
  simp only [Definition.position, hd, Bool.false_eq_true, if_false]

/-- A test that is not randomized needs an identity. -/
theorem requiresIdentity_of_not_randomized {d : Definition}
    (hd : d.isRandomized = false) : d.testType.requiresIdentity = true := by
  have htype := (Bool.or_eq_false_iff.mp hd).1
  rw [TestType.requiresIdentity, bne, htype, Bool.not_false]

/-- **WHAT IS DRAWN DOES NOT MATTER** to a test that is not randomized. -/
theorem select_drawn {d : Definition} (hd : d.isRandomized = false)
    (identity : Option String) (context : Context) (drawn drawn' : Float) :
    select l test d identity context drawn
      = select l test d identity context drawn' := by
  cases identity with
  | none =>
      -- without an identity nothing is selected, so no position is asked for
      simp only [select, requiresIdentity_of_not_randomized hd, Option.isNone_none,
        Bool.and_true, if_true]
  | some identity =>
      simp only [select, position_of_not_randomized test hd identity drawn drawn']

end Selection

end Cohort
