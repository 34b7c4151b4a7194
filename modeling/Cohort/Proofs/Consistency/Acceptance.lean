import Cohort.Proofs.Consistency

/-! # What an accepted definition is like

    The checks run in a fixed order and stop at the first problem.  A
    definition without any problem satisfies all of them, so what was checked
    can be read as properties of the definition itself: its ranges, its rules
    and the order of its allocations.  Those who serve a definition rely on
    these properties, and never on the order of the checks. -/

namespace Cohort.Consistency

open InSession

variable (l : Rule.Library) (p : Provided)

/-! ## Rules -/

/-- Every name the rule reads has a value in the scope, or is promised. -/
def Provides (p : Provided) (scope : Rule.Scope) (e : Rule.Expr) : Prop :=
  ∀ name ∈ e.reads, scope.contains name = true ∨ name ∈ p.uninstantiated

theorem missingVariable_eq_none_iff {scope : Rule.Scope} {e : Rule.Expr} :
    missingVariable p scope e = none ↔ Provides p scope e := by
  rw [missingVariable, List.find?_eq_none]
  constructor
  · intro h name hread
    have hpresent := h name (NameSet.mem_ofList.mpr hread)
    rw [Bool.and_eq_true, Bool.not_eq_true', Bool.not_eq_true',
      NameSet.contains_eq_false_iff] at hpresent
    by_cases hscope : scope.contains name = true
    · exact Or.inl hscope
    · have hpromised := fun hno => hpresent ⟨Bool.eq_false_iff.mpr hscope, hno⟩
      exact Or.inr (not_not.mp hpromised)
  · intro h name hread
    rw [Bool.and_eq_true, Bool.not_eq_true', Bool.not_eq_true',
      NameSet.contains_eq_false_iff]
    rintro ⟨hscope, hno⟩
    rcases h name (NameSet.mem_ofList.mp hread) with hvalue | hpromised
    · rw [hscope] at hvalue
      exact nomatch hvalue
    · exact hno hpromised

/-- A rule is blank; or it can be read as an expression, and if rules are
    evaluated it reads what is provided and has no error in what is known. -/
def RuleAccepted (d : Definition) (rule : Option String) : Prop :=
  ∀ text, rule = some text → Text.isBlankText text = false →
    ∃ e, Rule.parse text = .ok e ∧
      (p.evaluate = true → Provides p (scopeOf d p.values) e ∧
        ∃ b, ((Rule.PartialRule.ofExpr (scopeOf d p.values).names e).holds l
          (scopeOf d p.values)).outcome = .ok b)

theorem checkExpr_eq_ok_iff {scope : Rule.Scope} {rule : String} {e : Rule.Expr} :
    checkExpr l p scope rule e = .ok () ↔ Provides p scope e ∧
      ∃ b, ((Rule.PartialRule.ofExpr scope.names e).holds l scope).outcome = .ok b := by
  rw [checkExpr, ← missingVariable_eq_none_iff]
  cases missingVariable p scope e with
  | some name =>
      constructor
      · exact fun h => nomatch h
      · exact fun h => nomatch h.1
  | none =>
      cases ((Rule.PartialRule.ofExpr scope.names e).holds l scope).outcome with
      | error err =>
          constructor
          · exact fun h => nomatch h
          · rintro ⟨-, b, hb⟩
            exact nomatch hb
      | ok b => exact ⟨fun _ => ⟨rfl, b, rfl⟩, fun _ => rfl⟩

/-- What checking a rule comes to does not depend on where it stands. -/
theorem value_checkRule (d : Definition) (site : RuleSite) (text : String)
    (hblank : Text.isBlankText text = false) :
    (checkRule l p d site (some text)).value
      = match Rule.parse text with
        | .error e => .error e
        | .ok e => if p.evaluate then checkExpr l p (scopeOf d p.values) text e
            else .ok () := by
  simp only [checkRule, hblank, Bool.false_eq_true, if_false]
  rw [value, fst_bind, fst_parsed]
  cases Rule.parse text with
  | error e => rfl
  | ok e => rfl

theorem value_checkRule_eq_ok_iff (d : Definition) (site : RuleSite)
    (rule : Option String) :
    (checkRule l p d site rule).value = .ok () ↔ RuleAccepted l p d rule := by
  cases rule with
  | none => exact ⟨fun _ => nofun, fun _ => rfl⟩
  | some text =>
      cases hblank : Text.isBlankText text with
      | true =>
          constructor
          · intro _ text' htext hno
            rw [← Option.some.inj htext, hblank] at hno
            cases hno
          · intro _
            simp only [checkRule, hblank, if_true]
            rfl
      | false =>
          rw [value_checkRule l p d site text hblank]
          cases hparse : Rule.parse text with
          | error err =>
              constructor
              · intro h
                cases h
              · intro h
                obtain ⟨e, he, -⟩ := h text rfl hblank
                rw [hparse] at he
                cases he
          | ok e =>
              show (if p.evaluate = true then _ else _) = _ ↔ _
              rw [ite_eq_right_iff, checkExpr_eq_ok_iff]
              constructor
              · intro h text' htext _
                exact ⟨e, Option.some.inj htext ▸ hparse, h⟩
              · intro h
                obtain ⟨e', he', h⟩ := h text rfl hblank
                rw [hparse] at he'
                exact Except.ok.inj he' ▸ h

/-! ## Allocations -/

/-- The ranges of an allocation are parts of the unit interval that belong to
    declared buckets and add up to the whole, and its rule is accepted. -/
structure AllocationAccepted (d : Definition) (a : Allocation) : Prop where
  ranges_ne_nil : a.ranges ≠ []
  declared : ∀ r ∈ a.ranges, r.bucketValue ∈ d.buckets.map (·.value)
  isLength : ∀ r ∈ a.ranges, isLength r.length = true
  total : ¬ tolerance < (totalLength a.ranges - 1.0).abs
  rule : RuleAccepted l p d a.rule

theorem rangeProblem_eq_none_iff {values : List Int32} {ranges : List Range} :
    rangeProblem values ranges = none ↔
      (∀ r ∈ ranges, r.bucketValue ∈ values) ∧
        ∀ r ∈ ranges, Consistency.isLength r.length = true := by
  induction ranges with
  | nil => simp [rangeProblem]
  | cons r rest ih =>
      rw [rangeProblem, List.forall_mem_cons, List.forall_mem_cons]
      by_cases hvalue : r.bucketValue ∈ values
      · cases Consistency.isLength r.length with
        | true => simp [hvalue, ih]
        | false => simp [hvalue]
      · simp [hvalue]

theorem allocationAccepted_iff (d : Definition) (index : Nat) (a : Allocation) :
    AllocationAccepted l p d a ↔
      rangesProblem (d.buckets.map (·.value)) index a = none
        ∧ RuleAccepted l p d a.rule := by
  have hranges : rangesProblem (d.buckets.map (·.value)) index a = none ↔
      a.ranges ≠ [] ∧ (∀ r ∈ a.ranges, r.bucketValue ∈ d.buckets.map (·.value)) ∧
        (∀ r ∈ a.ranges, Consistency.isLength r.length = true) ∧
        ¬ tolerance < (totalLength a.ranges - 1.0).abs := by
    rw [rangesProblem]
    by_cases hempty : a.ranges = []
    · simp [hempty]
    · have hnot : a.ranges.isEmpty = false := by
        simpa using hempty
      rw [hnot, if_neg Bool.false_ne_true]
      cases hproblem : rangeProblem (d.buckets.map (·.value)) a.ranges with
      | some problem =>
          constructor
          · exact fun h => nomatch h
          · rintro ⟨-, hdeclared, hlengths, -⟩
            rw [rangeProblem_eq_none_iff.mpr ⟨hdeclared, hlengths⟩] at hproblem
            exact nomatch hproblem
      | none =>
          obtain ⟨hdeclared, hlengths⟩ := rangeProblem_eq_none_iff.mp hproblem
          show (if tolerance < (totalLength a.ranges - 1.0).abs then _ else _) = _ ↔ _
          by_cases htotal : tolerance < (totalLength a.ranges - 1.0).abs
          · simp [htotal]
          · simp only [htotal, if_false, not_false_eq_true, and_true, true_iff]
            exact ⟨hempty, hdeclared, hlengths⟩
  rw [hranges]
  constructor
  · exact fun h => ⟨⟨h.ranges_ne_nil, h.declared, h.isLength, h.total⟩, h.rule⟩
  · rintro ⟨⟨hne, hdeclared, hlengths, htotal⟩, hrule⟩
    exact ⟨hne, hdeclared, hlengths, htotal, hrule⟩

/-- An allocation for everyone stands last or not at all. -/
def BlankOnlyLast (allocations : List Allocation) : Prop :=
  ∀ a ∈ allocations.dropLast, Rule.isBlank a.rule = false

theorem blankOnlyLast_cons {a : Allocation} {rest : List Allocation} :
    BlankOnlyLast (a :: rest) ↔
      (!rest.isEmpty && Rule.isBlank a.rule) = false ∧ BlankOnlyLast rest := by
  cases rest with
  | nil => simp [BlankOnlyLast]
  | cons b rest => simp [BlankOnlyLast]

/-- The problem of the first allocation, or that of the rest. -/
theorem value_checkAllocations_cons (test : String) (d : Definition) (index : Nat)
    (a : Allocation) (rest : List Allocation) :
    (checkAllocations l p test d index (a :: rest)).value
      = match rangesProblem (d.buckets.map (·.value)) index a with
        | some problem => .error problem
        | none =>
            if !rest.isEmpty && Rule.isBlank a.rule then .error (.unconditional index)
            else match (checkRule l p d (.allocation test index) a.rule).value with
              | .error e => .error (.allocationRule index e)
              | .ok _ => (checkAllocations l p test d (index + 1) rest).value := by
  rw [checkAllocations]
  cases rangesProblem (d.buckets.map (·.value)) index a with
  | some problem => rfl
  | none =>
      cases !rest.isEmpty && Rule.isBlank a.rule with
      | true => rfl
      | false =>
          have hsteady : ∀ checked : Except Rule.Error Unit,
              Steady (match checked with
                | .error e => pure (.error (.allocationRule index e))
                | .ok _ => checkAllocations l p test d (index + 1) rest) := by
            rintro (e | _)
            · exact steady_pure _
            · exact steady_checkAllocations l p test d (index + 1) rest
          refine (value_bind hsteady).trans ?_
          cases (checkRule l p d (.allocation test index) a.rule).value with
          | error e => rfl
          | ok _ => rfl

theorem value_checkAllocations_eq_ok_iff (test : String) (d : Definition)
    (index : Nat) (allocations : List Allocation) :
    (checkAllocations l p test d index allocations).value = .ok () ↔
      (∀ a ∈ allocations, AllocationAccepted l p d a)
        ∧ BlankOnlyLast allocations := by
  induction allocations generalizing index with
  | nil => exact ⟨fun _ => ⟨nofun, nofun⟩, fun _ => rfl⟩
  | cons a rest ih =>
      rw [value_checkAllocations_cons, blankOnlyLast_cons, List.forall_mem_cons,
        allocationAccepted_iff l p d index a,
        ← value_checkRule_eq_ok_iff l p d (.allocation test index) a.rule]
      cases rangesProblem (d.buckets.map (·.value)) index a with
      | some problem => simp
      | none =>
          cases !rest.isEmpty && Rule.isBlank a.rule with
          | true => simp
          | false =>
              cases (checkRule l p d (.allocation test index) a.rule).value with
              | error e => simp
              | ok _ => simpa using ih (index + 1)

/-! ## Definitions -/

/-- Everything that is checked of a definition, dependencies apart. -/
structure Accepted (d : Definition) : Prop where
  buckets_ne_nil : d.buckets ≠ []
  distinct : bucketProblem [] [] d.buckets = none
  rule : RuleAccepted l p d d.rule
  allocations_ne_nil : d.allocations ≠ []
  allocation : ∀ a ∈ d.allocations, AllocationAccepted l p d a
  blankOnlyLast : BlankOnlyLast d.allocations
  payloads : payloadProblem d.buckets = none

/-- The checks of a definition in their order. -/
theorem value_check (test : String) (d : Definition) :
    (check l p test d).value
      = if d.buckets.isEmpty then .error .noBuckets
        else match bucketProblem [] [] d.buckets with
        | some problem => .error problem
        | none => match (checkRule l p d (.test test) d.rule).value with
          | .error e => .error (.testRule e)
          | .ok _ =>
              if d.allocations.isEmpty then .error .noAllocations
              else match (checkAllocations l p test d 0 d.allocations).value with
                | .error problem => .error problem
                | .ok _ => match payloadProblem d.buckets with
                  | some problem => .error problem
                  | none => .ok () := by
  have hpayload : ∀ allocations : Except Inconsistency Unit,
      Steady (match allocations with
        | .error problem => pure (.error problem)
        | .ok _ => match payloadProblem d.buckets with
          | some problem => pure (.error problem)
          | none => pure (.ok ()) : InSession (Except Inconsistency Unit)) := by
    rintro (problem | _)
    · exact steady_pure _
    · cases payloadProblem d.buckets with
      | some problem => exact steady_pure _
      | none => exact steady_pure _
  rw [check]
  cases d.buckets.isEmpty with
  | true => rfl
  | false =>
      cases bucketProblem [] [] d.buckets with
      | some problem => rfl
      | none =>
          refine (value_bind ?_).trans ?_
          · rintro (e | _)
            · exact steady_pure _
            · cases d.allocations.isEmpty with
              | true => exact steady_pure _
              | false =>
                  exact (steady_checkAllocations l p test d 0 _).bind hpayload
          · cases (checkRule l p d (.test test) d.rule).value with
            | error e => rfl
            | ok _ =>
                cases d.allocations.isEmpty with
                | true => rfl
                | false =>
                    refine (value_bind hpayload).trans ?_
                    cases (checkAllocations l p test d 0 d.allocations).value with
                    | error problem => rfl
                    | ok _ =>
                        cases payloadProblem d.buckets with
                        | some problem => rfl
                        | none => rfl

/-- **ACCEPTED IS FINE**: nothing is wrong with a definition exactly when it has
    passed every check. -/
theorem fine_iff_accepted (test : String) (d : Definition) :
    Fine l p test d ↔ Accepted l p d := by
  have hparts : Accepted l p d ↔ d.buckets ≠ [] ∧
      bucketProblem [] [] d.buckets = none ∧ RuleAccepted l p d d.rule ∧
      d.allocations ≠ [] ∧ ((∀ a ∈ d.allocations, AllocationAccepted l p d a)
        ∧ BlankOnlyLast d.allocations) ∧ payloadProblem d.buckets = none := by
    constructor
    · exact fun h => ⟨h.buckets_ne_nil, h.distinct, h.rule, h.allocations_ne_nil,
        ⟨h.allocation, h.blankOnlyLast⟩, h.payloads⟩
    · rintro ⟨hbuckets, hdistinct, hrule, hsome, ⟨heach, hlast⟩, hpayloads⟩
      exact ⟨hbuckets, hdistinct, hrule, hsome, heach, hlast, hpayloads⟩
  rw [Fine, value_check, hparts, ← value_checkRule_eq_ok_iff l p d (.test test),
    ← value_checkAllocations_eq_ok_iff l p test d 0, ← List.isEmpty_eq_false_iff,
    ← List.isEmpty_eq_false_iff]
  cases d.buckets.isEmpty with
  | true => simp
  | false =>
      cases bucketProblem [] [] d.buckets with
      | some problem => simp
      | none =>
          cases (checkRule l p d (.test test) d.rule).value with
          | error e => simp
          | ok _ =>
              cases d.allocations.isEmpty with
              | true => simp
              | false =>
                  cases (checkAllocations l p test d 0 d.allocations).value with
                  | error problem => simp
                  | ok _ => cases payloadProblem d.buckets <;> simp

/-- What is verified, in whichever session, has passed every check. -/
theorem accepted_of_verify {source test : String} {d : Definition} {s : Session}
    (h : (verify l p source test d s).1 = .ok ()) : Accepted l p d := by
  rw [steady_verify] at h
  refine (fine_iff_accepted l p test d).mp ?_
  rw [← ownProblem_eq_none_iff l p source, ownProblem, h]

/-- Where verification finds nothing, every definition has passed every check. -/
theorem accepted_of_verifyAll {source n : String} {a : Artifact} {d : Definition}
    {s : Session} (h : (verifyAll l p source a s).1 = NameMap.empty)
    (hd : a.tests.get? n = some d) : Accepted l p d := by
  rw [steady_verifyAll] at h
  cases (verifyAll_eq_empty_iff l p source a).mp h n (NameMap.contains_iff.mpr ⟨d, hd⟩) with
  | @intro _ d' hd' hfine =>
      obtain rfl : d = d' := Option.some.inj (hd.symm.trans hd')
      exact (fine_iff_accepted l p n d).mp hfine

end Cohort.Consistency
