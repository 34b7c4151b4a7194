import Cohort.Consistency
import Cohort.Proofs.Session
import Cohort.Proofs.Dependency.Servable

/-! # What verification finds

    Definitions are verified one by one, in whichever session, and the search
    for broken dependencies starts from those that failed.  A test has no
    problem in the end exactly when it can be served. -/

namespace Cohort.Consistency

open InSession

variable (l : Rule.Library) (p : Provided) (source : String)

/-! ## One definition -/

theorem steady_checkRule (d : Definition) (site : RuleSite) (rule : Option String) :
    Steady (checkRule l p d site rule) := by
  simp only [checkRule]
  cases rule with
  | none => exact steady_pure _
  | some rule =>
      show Steady (if Text.isBlankText rule = true then _ else _)
      split
      · exact steady_pure _
      · refine (steady_parsed site rule).bind ?_
        rintro (e | e)
        · exact steady_pure _
        · exact steady_pure _

theorem steady_checkAllocations (test : String) (d : Definition) (index : Nat)
    (allocations : List Allocation) :
    Steady (checkAllocations l p test d index allocations) := by
  induction allocations generalizing index with
  | nil => exact steady_pure _
  | cons a rest ih =>
      rw [checkAllocations]
      split
      · exact steady_pure _
      · split
        · exact steady_pure _
        · refine (steady_checkRule l p d _ a.rule).bind ?_
          rintro (e | _)
          · exact steady_pure _
          · exact ih (index + 1)

theorem steady_check (test : String) (d : Definition) :
    Steady (check l p test d) := by
  rw [check]
  split
  · exact steady_pure _
  · split
    · exact steady_pure _
    · refine (steady_checkRule l p d _ d.rule).bind ?_
      rintro (e | _)
      · exact steady_pure _
      · show Steady (if d.allocations.isEmpty = true then _ else _)
        split
        · exact steady_pure _
        · refine (steady_checkAllocations l p test d 0 d.allocations).bind ?_
          rintro (problem | _)
          · exact steady_pure _
          · cases payloadProblem d.buckets with
            | some problem => exact steady_pure _
            | none => exact steady_pure _

theorem steady_verify (test : String) (d : Definition) :
    Steady (verify l p source test d) :=
  (steady_check l p test d).bind fun _ => steady_pure _

/-- Nothing is wrong with the definition, dependencies apart. -/
def Fine (test : String) (d : Definition) : Prop :=
  (check l p test d).value = .ok ()

/-- The problem of a definition, dependencies apart. -/
def ownProblem (test : String) (d : Definition) : Option IncompatibleTest :=
  match (verify l p source test d).value with
  | .ok _ => none
  | .error e => some e

theorem ownProblem_eq_none_iff {test : String} {d : Definition} :
    ownProblem l p source test d = none ↔ Fine l p test d := by
  have hvalue : (verify l p source test d).value
      = (check l p test d).value.mapError fun cause => ⟨test, source, cause⟩ := rfl
  rw [ownProblem, Fine, hvalue]
  cases (check l p test d).value with
  | ok _ => exact ⟨fun _ => rfl, fun _ => rfl⟩
  | error e =>
      constructor
      · intro h
        exact nomatch h
      · intro h
        exact nomatch h

/-! ## All definitions -/

/-- The problems of a list are that of its first test and those of the rest. -/
theorem fst_verifyEach_cons (name : String) (d : Definition)
    (rest : List (String × Definition)) (s : Session) :
    ∃ s', (verifyEach l p source ((name, d) :: rest) s).1
      = match ownProblem l p source name d with
        | none => (verifyEach l p source rest s').1
        | some e => (verifyEach l p source rest s').1.insert name e := by
  refine ⟨(verify l p source name d s).2, ?_⟩
  rw [verifyEach, fst_bind, fst_bind, steady_verify l p source name d s, ownProblem]
  cases (verify l p source name d).value with
  | ok _ => rfl
  | error e => rfl

/-- Each definition is verified by itself. -/
theorem get?_verifyEach {es : List (String × Definition)}
    (hes : Increasing Prod.fst es) (s : Session) (n : String) :
    (verifyEach l p source es s).1.get? n
      = (es.lookup n).bind (ownProblem l p source n) := by
  induction es generalizing s with
  | nil => rfl
  | cons e rest ih =>
      obtain ⟨name, d⟩ := e
      obtain ⟨s', hs'⟩ := fst_verifyEach_cons l p source name d rest s
      rw [hs']
      by_cases hn : n = name
      · subst hn
        -- names increase, so the rest has no second entry for this one
        have hnone : rest.lookup n = none := by
          refine List.lookup_eq_none_iff.mpr ?_
          intro e he
          have hlt := List.rel_of_pairwise_cons hes he
          exact bne_iff_ne.mpr (String.ne_of_lt hlt)
        rw [List.lookup_cons_self]
        show _ = ownProblem l p source n d
        cases ownProblem l p source n d with
        | none =>
            rw [ih hes.of_cons, hnone]
            rfl
        | some e => exact NameMap.get?_insert_self _ _ _
      · rw [List.lookup_cons, beq_false_of_ne hn]
        cases ownProblem l p source name d with
        | none => exact ih hes.of_cons s'
        | some e => exact (NameMap.get?_insert_ne _ e hn).trans (ih hes.of_cons s')

/-- A problem of a dependency is added where there is none yet. -/
theorem get?_foldl_addDependencyProblem (broken : List (String × BrokenDependency))
    (problems : Problems) (n : String) :
    (broken.foldl (addDependencyProblem source) problems).get? n
      = (problems.get? n).or
          ((broken.lookup n).map fun b => ⟨n, source, .dependency b⟩) := by
  induction broken generalizing problems with
  | nil => exact Option.or_none.symm
  | cons e rest ih =>
      obtain ⟨name, b⟩ := e
      rw [List.foldl_cons, ih, addDependencyProblem]
      by_cases hn : n = name
      · subst hn
        rw [List.lookup_cons_self]
        cases hproblem : problems.get? n with
        | some old =>
            have hin := NameMap.contains_iff.mpr ⟨old, hproblem⟩
            rw [if_pos hin, hproblem, Option.some_or, Option.some_or]
        | none =>
            have hnot := NameMap.contains_eq_false_iff.mpr hproblem
            rw [hnot, if_neg Bool.false_ne_true, NameMap.get?_insert_self]
            rfl
      · rw [List.lookup_cons, beq_false_of_ne hn]
        split
        · rfl
        · rw [NameMap.get?_insert_ne _ _ hn]

/-- The problems of dependencies are added to those of the tests themselves. -/
theorem get?_withDependencyProblems (tests : Tests) (wanted : String → Bool)
    (own : Problems) (n : String) :
    (withDependencyProblems source tests wanted own).get? n
      = (own.get? n).or
          ((if wanted n then (brokenDependencies tests own.nameSet).get? n else none).map
            fun b => ⟨n, source, .dependency b⟩) := by
  rw [withDependencyProblems]
  rw [get?_foldl_addDependencyProblem, ← NameMap.get?_filter_names]
  rfl

/-! ## A whole artifact -/

variable (a : Artifact)

/-- The problems of the tests of an artifact themselves. -/
def ownProblems : Problems :=
  (verifyEach l p source a.tests.entries).value

theorem get?_ownProblems (n : String) :
    (ownProblems l p source a).get? n
      = (a.tests.get? n).bind (ownProblem l p source n) :=
  get?_verifyEach l p source a.tests.increasing Session.fresh n

theorem fst_verifyAll (s : Session) :
    (verifyAll l p source a s).1
      = withDependencyProblems source a.tests (fun _ => true)
          (ownProblems l p source a) := by
  rw [verifyAll, fst_bind]
  -- both have the same lookups, and a map is determined by them
  have hown : (verifyEach l p source a.tests.entries s).1 = ownProblems l p source a := by
    refine NameMap.ext_get? ?_
    intro n
    rw [get?_ownProblems]
    exact get?_verifyEach l p source a.tests.increasing s n
  rw [hown]
  rfl

theorem steady_verifyAll : Steady (verifyAll l p source a) :=
  steady_of_forall (fst_verifyAll l p source a)

/-- A test is invalid by itself when its definition is not in order. -/
theorem mem_ownProblems_iff {n : String} {d : Definition} (hd : a.tests.get? n = some d) :
    n ∈ (ownProblems l p source a).nameSet ↔ ¬ Fine l p n d := by
  rw [NameMap.mem_nameSet, NameMap.contains, get?_ownProblems, hd, Option.bind_some,
    ← ownProblem_eq_none_iff l p source, Option.isSome_iff_ne_none]

/-- **NO PROBLEM, AND SERVABLE**: verification finds no problem with a test exactly
    when the test can be served. -/
theorem get?_verifyAll_eq_none_iff {n : String} (hn : a.tests.contains n = true) :
    (verifyAll l p source a).value.get? n = none
      ↔ Servable (Fine l p) a.tests n := by
  rw [← not_broken_iff_servable (fun m d hd => mem_ownProblems_iff l p source a hd) hn,
    value, fst_verifyAll, get?_withDependencyProblems, Option.or_eq_none_iff]
  refine and_congr ?_ ?_
  · rw [NameMap.mem_nameSet, NameMap.contains, Option.not_isSome_iff_eq_none]
  · rw [if_pos rfl, Option.map_eq_none_iff]

/-- Problems are those of tests. -/
theorem get?_verifyAll_of_missing {n : String} (hn : a.tests.contains n = false) :
    (verifyAll l p source a).value.get? n = none := by
  rw [value, fst_verifyAll, get?_withDependencyProblems, get?_ownProblems,
    get?_brokenDependencies_of_missing hn, NameMap.contains_eq_false_iff.mp hn]
  rfl

/-- Verification finds nothing exactly when every test can be served. -/
theorem verifyAll_eq_empty_iff :
    (verifyAll l p source a).value = NameMap.empty
      ↔ ∀ n, a.tests.contains n = true → Servable (Fine l p) a.tests n := by
  constructor
  · intro h n hn
    rw [← get?_verifyAll_eq_none_iff l p source a hn, h]
    exact NameMap.get?_empty n
  · intro h
    refine NameMap.eq_empty_of_get? ?_
    intro n
    cases hn : a.tests.contains n with
    | false => exact get?_verifyAll_of_missing l p source a hn
    | true => exact (get?_verifyAll_eq_none_iff l p source a hn).mpr (h n hn)

/-- Where every definition is in order, verification finds the broken dependencies
    and nothing else. -/
theorem fst_verifyAll_of_fine (hfine : ∀ n d, a.tests.get? n = some d → Fine l p n d)
    (s : Session) :
    (verifyAll l p source a s).1
      = (brokenDependencies a.tests NameSet.empty).mapNamed
          fun n b => ⟨n, source, .dependency b⟩ := by
  have hown : ownProblems l p source a = NameMap.empty := by
    refine NameMap.eq_empty_of_get? ?_
    intro n
    rw [get?_ownProblems]
    cases hd : a.tests.get? n with
    | none => rfl
    | some d => exact (ownProblem_eq_none_iff l p source).mpr (hfine n d hd)
  rw [fst_verifyAll, hown]
  refine NameMap.ext_get? ?_
  intro n
  rw [get?_withDependencyProblems, NameMap.get?_mapNamed, NameMap.get?_empty]
  rfl

end Cohort.Consistency
