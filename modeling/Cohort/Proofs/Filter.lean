import Cohort.Filter
import Cohort.Proofs.Names

/-! # What filters include

    Filters look at one test after the other, at its name and its definition.
    Whether they include a test has nothing to do with the other tests, and with
    more filters more tests are included: a filter can match, but never refuse. -/

namespace Cohort.DynamicFilters

variable (f : DynamicFilters) (tests : Tests) (required : NameSet) (n : String)

/-- A test is included if it is not required and some filter matches it. -/
theorem contains_names_determine :
    (f.determine tests required).names.contains n
      = (tests.get? n).any fun d =>
          !required.contains n && f.anyAccepts (fun _ => true) n d := by
  rw [determine, NameMap.contains_nameSet, NameMap.contains_filter]

/-- It is included for its namespaces if some filter for namespaces does. -/
theorem contains_namespaceMatched_determine :
    (f.determine tests required).namespaceMatched.contains n
      = (tests.get? n).any fun d =>
          !required.contains n && f.anyAccepts Filter.isNamespaces n d := by
  rw [determine, NameMap.contains_nameSet, NameMap.contains_filter]

variable {f} {p : Filter → Bool} {d : Definition} {n}

theorem anyAccepts_iff : f.anyAccepts p n d = true ↔
    ∃ filter ∈ f.filters, p filter = true ∧
      filter.accepts (f.source.getD NameMap.empty) n d = true := by
  rw [anyAccepts, List.any_eq_true]
  simp only [Bool.and_eq_true]

/-- A filter for namespaces matches the tests with one of its namespaces. -/
theorem anyAccepts_isNamespaces_iff : f.anyAccepts Filter.isNamespaces n d = true ↔
    ∃ spaces, Filter.namespaces spaces ∈ f.filters ∧ ∃ ns ∈ d.namespaces, ns ∈ spaces := by
  rw [anyAccepts_iff]
  constructor
  · rintro ⟨filter, hmem, hkind, haccepts⟩
    cases filter with
    | namespaces spaces =>
        obtain ⟨ns, hns, hin⟩ := List.any_eq_true.mp haccepts
        exact ⟨spaces, hmem, ns, hns, NameSet.contains_iff.mp hin⟩
    | _ => exact nomatch hkind
  · rintro ⟨spaces, hmem, ns, hns, hin⟩
    exact ⟨_, hmem, rfl, List.any_eq_true.mpr ⟨ns, hns, NameSet.contains_iff.mpr hin⟩⟩

/-- More filters match more. -/
theorem anyAccepts_of_subset {source : Option TagPatterns} {fs gs : List Filter}
    (hsub : ∀ filter ∈ fs, filter ∈ gs) (h : anyAccepts ⟨fs, source⟩ p n d = true) :
    anyAccepts ⟨gs, source⟩ p n d = true := by
  obtain ⟨filter, hmem, hfilter⟩ := anyAccepts_iff.mp h
  exact anyAccepts_iff.mpr ⟨filter, hsub filter hmem, hfilter⟩

variable {tests required}

theorem mem_names_determine : n ∈ (f.determine tests required).names ↔
    n ∉ required ∧ ∃ d, tests.get? n = some d ∧ f.anyAccepts (fun _ => true) n d = true := by
  rw [← NameSet.contains_iff, contains_names_determine, Option.any_eq_true]
  simp only [Bool.and_eq_true, Bool.not_eq_true', NameSet.contains_eq_false_iff]
  tauto

theorem mem_namespaceMatched_determine :
    n ∈ (f.determine tests required).namespaceMatched ↔
      n ∉ required ∧ ∃ d, tests.get? n = some d ∧
        ∃ spaces, Filter.namespaces spaces ∈ f.filters ∧ ∃ ns ∈ d.namespaces, ns ∈ spaces := by
  rw [← NameSet.contains_iff, contains_namespaceMatched_determine, Option.any_eq_true]
  simp only [Bool.and_eq_true, Bool.not_eq_true', NameSet.contains_eq_false_iff,
    anyAccepts_isNamespaces_iff]
  tauto

end Cohort.DynamicFilters
