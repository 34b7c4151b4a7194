import Cohort.Proofs.Consistency
import Cohort.Proofs.Dependency.Order

/-! # What a client is told

    A client has only the tests verified that it uses and those above them.
    Its search for broken dependencies therefore starts from fewer invalid
    tests than that of a whole artifact.  This changes nothing for the tests
    in use: their chains were verified, and no other test has a say in what is
    found wrong with them.  What a client is told is what a whole
    verification finds, and nothing about tests that are not in use. -/

namespace Cohort.Consistency

open InSession

variable (l : Rule.Library) (p : Provided) (source : String) (a : Artifact)
  (required dynamic : NameSet)

/-- The test is required or included, or such a test depends on it, directly or
    not. -/
def InUse (tests : Tests) (required dynamic : NameSet) (test : String) : Prop :=
  ∃ x, (x ∈ required ∨ x ∈ dynamic) ∧ OnChain tests x test

section InUse

variable {l p source a required dynamic} {tests : Tests} {n m : String}

/-- The chain of a test in use is in use. -/
theorem InUse.of_onChain (h : InUse tests required dynamic n) (hm : OnChain tests n m) :
    InUse tests required dynamic m := by
  obtain ⟨x, hx, hxn⟩ := h
  exact ⟨x, hx, hxn.trans hm⟩

/-- The tests that a client has verified. -/
def reached (tests : Tests) (required dynamic : NameSet) : NameSet :=
  withDependencies tests (required.union dynamic).toList

/-- They are the tests in use. -/
theorem mem_reached_iff :
    n ∈ reached tests required dynamic
      ↔ tests.contains n = true ∧ InUse tests required dynamic n := by
  rw [reached, mem_withDependencies_iff, InUse]
  refine and_congr_right fun _ => exists_congr fun x => and_congr_left fun _ => ?_
  exact NameSet.mem_union

/-- A test of a chain in use was verified, unless it is no test. -/
theorem contains_reached_of_onChain (hn : n ∈ reached tests required dynamic)
    (hm : OnChain tests n m) :
    (reached tests required dynamic).contains m = tests.contains m := by
  have huse := (mem_reached_iff.mp hn).2.of_onChain hm
  rw [Bool.eq_iff_iff, NameSet.contains_iff, mem_reached_iff]
  exact and_iff_left huse

end InUse

/-! ## The tests in use themselves -/

/-- The problems of the tests in use, dependencies apart, as they come up in some
    session. -/
def reachedProblems (s : Session) : Problems :=
  (verifyEach l p source (a.tests.entries.filter fun e =>
    (reached a.tests required dynamic).contains e.1) s).1

/-- They are the problems of all tests, as far as these are in use. -/
theorem get?_reachedProblems (s : Session) (n : String) :
    (reachedProblems l p source a required dynamic s).get? n
      = if (reached a.tests required dynamic).contains n
        then (ownProblems l p source a).get? n else none := by
  rw [reachedProblems, get?_verifyEach l p source (a.tests.increasing.filter _) s n]
  have hlookup : (a.tests.entries.filter fun e =>
        (reached a.tests required dynamic).contains e.1).lookup n
      = if (reached a.tests required dynamic).contains n then a.tests.get? n else none :=
    NameMap.get?_filter_names _ a.tests n
  rw [hlookup, get?_ownProblems]
  split
  · rfl
  · rfl

/-! ## Their dependencies -/

/-- **FEWER INVALID TESTS, THE SAME VERDICT**: the search that starts from the
    invalid tests in use finds the same for a test in use as the one that starts
    from all invalid tests. -/
theorem get?_brokenDependencies_reached (s : Session) {n : String}
    (hn : n ∈ reached a.tests required dynamic) :
    (brokenDependencies a.tests
        (reachedProblems l p source a required dynamic s).nameSet).get? n
      = (brokenDependencies a.tests (ownProblems l p source a).nameSet).get? n := by
  refine get?_brokenDependencies_congr ?_
  intro m hm
  rw [NameMap.contains_nameSet, NameMap.contains_nameSet, NameMap.contains,
    NameMap.contains, get?_reachedProblems, contains_reached_of_onChain hn hm]
  cases hin : a.tests.contains m with
  | true => rw [if_pos rfl]
  | false =>
      -- a name of no test has no problem in either verification
      rw [if_neg Bool.false_ne_true, get?_ownProblems, NameMap.contains_eq_false_iff.mp hin]
      rfl

/-- All problems of the tests in use are those of a whole verification. -/
theorem withDependencyProblems_reached (s : Session) :
    withDependencyProblems source a.tests (reached a.tests required dynamic).contains
        (reachedProblems l p source a required dynamic s)
      = (verifyAll l p source a).value.filter fun name _ =>
          (reached a.tests required dynamic).contains name := by
  refine NameMap.ext_get? ?_
  intro n
  rw [get?_withDependencyProblems, NameMap.get?_filter_names, get?_reachedProblems]
  cases hin : (reached a.tests required dynamic).contains n with
  | false => rfl
  | true =>
      rw [if_pos rfl, if_pos rfl, if_pos rfl,
        get?_brokenDependencies_reached l p source a required dynamic s
          (NameSet.contains_iff.mp hin),
        value, fst_verifyAll, get?_withDependencyProblems]
      rfl

/-! ## The result -/

/-- What a client is told, in whichever session. -/
theorem fst_verifyArtifact (s : Session) :
    (verifyArtifact l p source a required dynamic s).1
      = (let problems := (verifyAll l p source a).value.filter fun name _ =>
          (reached a.tests required dynamic).contains name
        ⟨problems.filter fun name _ => required.contains name,
          required.filter fun name => !a.tests.contains name,
          problems.filter fun name _ => !required.contains name⟩) := by
  -- missing tests are reported first, and the definitions verified after that
  rw [← withDependencyProblems_reached l p source a required dynamic
    ((required.filter fun name => !a.tests.contains name).toList.forM
      (fun name => report (.requiredMissing name source)) s).2]
  rfl

theorem steady_verifyArtifact : Steady (verifyArtifact l p source a required dynamic) :=
  steady_of_forall (fst_verifyArtifact l p source a required dynamic)

/-- Only tests have problems. -/
theorem contains_of_get?_verifyAll {n : String} {e : IncompatibleTest}
    (h : (verifyAll l p source a).value.get? n = some e) : a.tests.contains n = true := by
  cases hn : a.tests.contains n with
  | true => rfl
  | false =>
      rw [get?_verifyAll_of_missing l p source a hn] at h
      exact nomatch h

/-- The problems of the tests in use. -/
theorem get?_filter_reached_iff {n : String} {e : IncompatibleTest} :
    ((verifyAll l p source a).value.filter fun name _ =>
        (reached a.tests required dynamic).contains name).get? n = some e
      ↔ (verifyAll l p source a).value.get? n = some e
        ∧ InUse a.tests required dynamic n := by
  rw [NameMap.get?_filter_eq_some_iff, NameSet.contains_iff, mem_reached_iff]
  refine and_congr_right fun he => ?_
  exact and_iff_right (contains_of_get?_verifyAll l p source a he)

/-- **A CLIENT IS TOLD WHAT IS FOUND**: the problems that a client is told of are
    those of a whole verification, cause and message included, for just the
    tests in use.  Those of required tests are invalid, the others dynamic; the
    missing tests are the required names of no test; and no name is listed
    twice. -/
theorem verifyArtifact_restricts_verifyAll (s s' : Session) :
    let r := (verifyArtifact l p source a required dynamic s).1
    let found := (verifyAll l p source a s').1
    (∀ n e, r.invalid.get? n = some e
      ↔ (found.get? n = some e ∧ InUse a.tests required dynamic n) ∧ n ∈ required) ∧
    (∀ n e, r.dynamic.get? n = some e
      ↔ (found.get? n = some e ∧ InUse a.tests required dynamic n) ∧ n ∉ required) ∧
    (∀ n, n ∈ r.missing ↔ n ∈ required ∧ a.tests.contains n = false) ∧
    (∀ n, ¬ (r.invalid.contains n = true ∧ r.dynamic.contains n = true)) ∧
    (∀ n, ¬ (r.invalid.contains n = true ∧ n ∈ r.missing)) ∧
    (∀ n, ¬ (r.dynamic.contains n = true ∧ n ∈ r.missing)) := by
  intro r found
  have hfound : found = (verifyAll l p source a).value := steady_verifyAll l p source a s'
  have hr := fst_verifyArtifact l p source a required dynamic s
  have hinvalid : ∀ n e, r.invalid.get? n = some e
      ↔ (found.get? n = some e ∧ InUse a.tests required dynamic n) ∧ n ∈ required := by
    intro n e
    rw [show r = _ from hr, hfound, ← get?_filter_reached_iff, ← NameSet.contains_iff]
    exact NameMap.get?_filter_eq_some_iff
  have hdynamic : ∀ n e, r.dynamic.get? n = some e
      ↔ (found.get? n = some e ∧ InUse a.tests required dynamic n) ∧ n ∉ required := by
    intro n e
    rw [show r = _ from hr, hfound, ← get?_filter_reached_iff,
      ← NameSet.contains_eq_false_iff, ← Bool.not_eq_true']
    exact NameMap.get?_filter_eq_some_iff
  have hmissing : ∀ n, n ∈ r.missing ↔ n ∈ required ∧ a.tests.contains n = false := by
    intro n
    rw [show r = _ from hr, ← Bool.not_eq_true']
    exact NameSet.mem_filter
  refine ⟨hinvalid, hdynamic, hmissing, ?_, ?_, ?_⟩
  · rintro n ⟨hi, hd⟩
    obtain ⟨e, he⟩ := NameMap.contains_iff.mp hi
    obtain ⟨e', he'⟩ := NameMap.contains_iff.mp hd
    exact ((hdynamic n e').mp he').2 ((hinvalid n e).mp he).2
  · rintro n ⟨hi, hm⟩
    obtain ⟨e, he⟩ := NameMap.contains_iff.mp hi
    -- a name with a problem is one of a test, so it is not missing
    have hin := contains_of_get?_verifyAll l p source a (hfound ▸ ((hinvalid n e).mp he).1.1)
    exact Bool.false_ne_true (((hmissing n).mp hm).2.symm.trans hin)
  · rintro n ⟨hd, hm⟩
    obtain ⟨e, he⟩ := NameMap.contains_iff.mp hd
    exact ((hdynamic n e).mp he).2 ((hmissing n).mp hm).1

end Cohort.Consistency
