import Cohort.Proofs.Resolution.Forcing

/-! # Filters only add

    A filter includes tests in a request, so that more filters lead to a
    larger request: more tests are met, in another order, and more parents are
    among the reported ones.  None of this shows in the tests that were
    reported before.  What is chosen for a test follows from its chain, and
    filters have no say in choices.  What filters do is told apart by two
    marks: the tests that some filter included, and among the groups those
    that a filter for namespaces matched. -/

namespace Cohort.Resolver

open InSession

variable (r : Resolver) {a : Artifact} (ids : Identifiers) (context : Context)
  (force : ForceGroups) (draws draws' : Draws) {requested : Requested}
  {names : NameSet} {n : String}

/-! ## What is marked -/

/-- Included are the reported tests that some filter included. -/
theorem mem_dynamic_iff (s : Session) :
    n ∈ (r.resolve a ids context requested force draws s).1.dynamic ↔
      n ∈ (r.includedTests a requested).names ∧
        (r.reported a ids context requested force draws s n).isSome = true := by
  rw [reported, Option.isSome_map, fst_resolve]
  cases asksNothing requested with
  | true =>
      constructor
      · intro h
        exact absurd h (NameSet.not_mem_empty n)
      · rintro ⟨-, h⟩
        cases h
  | false =>
      rw [if_neg Bool.false_ne_true, resultOf]
      refine NameSet.mem_filter.trans (and_congr_right fun _ => ?_)
      rw [NameMap.get?_mapNamed, Option.isSome_map]
      rfl

/-- The mark of a group is that of a request by name, for filters for namespaces. -/
theorem dynamic_of_get?_groups {g : TestGroup} {s : Session}
    (hg : (r.resolve a ids context (.names names) force draws s).1.groups.get? n = some g) :
    g.dynamic = true ↔ n ∉ names ∧ ∃ d, a.tests.get? n = some d ∧
      ∃ spaces, Filter.namespaces spaces ∈ r.filters.filters ∧
        ∃ ns ∈ d.namespaces, ns ∈ spaces := by
  rw [get?_groups] at hg
  split at hg
  · obtain ⟨c, -, rfl⟩ := Option.map_eq_some_iff.mp hg
    exact NameSet.contains_iff.trans DynamicFilters.mem_namespaceMatched_determine
  · exact nomatch hg

/-! ## More filters -/

/-- The resolver with other filters, over the same patterns of tags. -/
def withFilters (filters : List Filter) : Resolver :=
  { r with filters := { r.filters with filters := filters } }

variable {filters filters' : List Filter}

theorem sameRules_withFilters : SameRules (r.withFilters filters) (r.withFilters filters') :=
  ⟨rfl, rfl⟩

section More

variable (hmore : ∀ filter ∈ filters, filter ∈ filters')

include hmore

theorem mem_includedTests_of_more
    (hn : n ∈ ((r.withFilters filters).includedTests a (.names names)).names) :
    n ∈ ((r.withFilters filters').includedTests a (.names names)).names := by
  obtain ⟨hnot, d, hd, haccepts⟩ := DynamicFilters.mem_names_determine.mp hn
  exact DynamicFilters.mem_names_determine.mpr
    ⟨hnot, d, hd, DynamicFilters.anyAccepts_of_subset hmore haccepts⟩

/-- A request is about no fewer tests. -/
theorem selects_of_more (hn : (r.withFilters filters).selects a (.names names) n = true) :
    (r.withFilters filters').selects a (.names names) n = true := by
  obtain ⟨hasks, hselected⟩ := selects_iff.mp hn
  obtain ⟨hin, hwanted⟩ := NameSet.mem_filter.mp hselected
  refine selects_iff.mpr ⟨hasks, NameSet.mem_filter.mpr ⟨hin, ?_⟩⟩
  rw [Bool.or_eq_true, NameSet.contains_iff, NameSet.contains_iff] at hwanted ⊢
  exact hwanted.imp_right (r.mem_includedTests_of_more hmore)

/-- What was reported is reported again, with the same choice. -/
theorem reported_of_more {c : Choice} (hfixed : FixedChain a.tests n) (s s' : Session)
    (hc : (r.withFilters filters).reported a ids context (.names names) force draws s n
      = some c) :
    (r.withFilters filters').reported a ids context (.names names) force draws' s' n
      = some c := by
  obtain ⟨hselects, hchosen⟩ := finalChoices_of_reported ids context force draws hc
  have hselects' := r.selects_of_more hmore hselects
  rw [reported_eq, if_pos hselects', ← hchosen]
  exact (get?_finalChoices_congr r.sameRules_withFilters ids context force draws draws'
    (fun _ _ => rfl) hfixed (needed_of_selects hselects)
    (needed_of_selects hselects')).symm

end More

/-- **FILTERS ONLY ADD**: with more filters, in whatever order and however often each
    stands there, every test that was reported is reported as before, unless
    tests draw their positions, and every test that was included still is.  The
    filters are all that differs: rules are told the same time.
    Under any filters the included tests are reported ones that nobody named,
    and a group is marked exactly when nobody named its test and a filter for
    namespaces lists one of the namespaces of the test. -/
theorem filters_only_add (hmore : ∀ filter ∈ filters, filter ∈ filters')
    (hfixed : ∀ n d, a.tests.get? n = some d → d.isRandomized = false)
    (names : NameSet) (s s' : Session) :
    let before := (r.withFilters filters).resolve a ids context (.names names) force draws s
    let after := (r.withFilters filters').resolve a ids context (.names names) force draws' s'
    (∀ n c,
      (r.withFilters filters).reported a ids context (.names names) force draws s n = some c →
      (r.withFilters filters').reported a ids context (.names names) force draws' s' n
        = some c) ∧
    (∀ n ∈ before.1.dynamic, n ∈ after.1.dynamic) ∧
    (∀ n ∈ after.1.dynamic, n ∉ names ∧ after.1.groups.contains n = true) ∧
    (∀ n g, after.1.groups.get? n = some g →
      (g.dynamic = true ↔ n ∉ names ∧ ∃ d, a.tests.get? n = some d ∧
        ∃ spaces, Filter.namespaces spaces ∈ filters' ∧ ∃ ns ∈ d.namespaces, ns ∈ spaces)) := by
  intro before after
  have hreported : ∀ n c,
      (r.withFilters filters).reported a ids context (.names names) force draws s n = some c →
      (r.withFilters filters').reported a ids context (.names names) force draws' s' n
        = some c :=
    fun n c => r.reported_of_more ids context force draws draws' hmore
      (fun m d _ hd => hfixed m d hd) s s'
  refine ⟨hreported, ?_, ?_, ?_⟩
  · intro n hn
    obtain ⟨hincluded, hsome⟩ :=
      ((r.withFilters filters).mem_dynamic_iff ids context force draws s).mp hn
    obtain ⟨c, hc⟩ := Option.isSome_iff_exists.mp hsome
    refine ((r.withFilters filters').mem_dynamic_iff ids context force draws' s').mpr ⟨?_, ?_⟩
    · exact r.mem_includedTests_of_more hmore hincluded
    · rw [hreported n c hc]
      rfl
  · intro n hn
    obtain ⟨hincluded, hsome⟩ :=
      ((r.withFilters filters').mem_dynamic_iff ids context force draws' s').mp hn
    rw [reported, Option.isSome_map] at hsome
    exact ⟨(DynamicFilters.mem_names_determine.mp hincluded).1, hsome⟩
  · intro n g hg
    exact (r.withFilters filters').dynamic_of_get?_groups ids context force draws' hg

/-- The family beside a test of an experiment in a namespace. -/
def household : Artifact :=
  snapshot [("parent", parentTest), ("child", childTest),
    ("guest", { evenSplit "g" none with payloadExperimentConfig := some ⟨none, ["visits"]⟩ })]

/-- A filter for the child. -/
def childFilters : List Filter := [.nameStart "chi"]

/-- The same filter, twice and behind another one for namespaces. -/
def visitFilters : List Filter :=
  [.namespaces (NameSet.ofList ["visits"]), .nameStart "chi", .nameStart "chi"]

/-- Only the parent is asked for. -/
def parentOnly : NameSet := NameSet.ofList ["parent"]

/-- A filter for namespaces brings the guest, and the child stays what it was. -/
theorem guest_beside_child :
    (∃ c, (plainResolver.withFilters childFilters).reported household visitor
        NameMap.empty (.names parentOnly) ForceGroups.none (fun _ => 0.5) Session.fresh
        "child" = some c ∧
      (plainResolver.withFilters visitFilters).reported household visitor
        NameMap.empty (.names parentOnly) ForceGroups.none (fun _ => 0.5) Session.fresh
        "child" = some c) ∧
    (∃ g, ((plainResolver.withFilters visitFilters).resolve household visitor
        NameMap.empty (.names parentOnly) ForceGroups.none (fun _ => 0.5)
        Session.fresh).1.groups.get? "guest" = some g ∧ g.dynamic = true) := by
  have hmore : ∀ filter ∈ childFilters, filter ∈ visitFilters := by
    intro filter hfilter
    obtain rfl := List.mem_singleton.mp hfilter
    exact List.mem_cons_of_mem _ List.mem_cons_self
  have hfixed : ∀ n d, household.tests.get? n = some d → d.isRandomized = false := by
    have hall : ∀ e ∈ household.tests.entries, e.2.isRandomized = false := by decide +kernel
    intro n d hd
    exact hall (n, d) (NameMap.get?_eq_some_iff.mp hd)
  obtain ⟨hkept, -, -, hmarked⟩ := plainResolver.filters_only_add visitor NameMap.empty
    ForceGroups.none (fun _ => 0.5) (fun _ => 0.5) hmore hfixed parentOnly
    Session.fresh Session.fresh
  constructor
  · obtain ⟨c, hc⟩ := Option.isSome_iff_exists.mp
      (show ((plainResolver.withFilters childFilters).reported household visitor
        NameMap.empty (.names parentOnly) ForceGroups.none (fun _ => 0.5) Session.fresh
        "child").isSome = true by decide +kernel)
    exact ⟨c, hc, hkept "child" c hc⟩
  · obtain ⟨g, hg⟩ := Option.isSome_iff_exists.mp
      (show (((plainResolver.withFilters visitFilters).resolve household visitor
        NameMap.empty (.names parentOnly) ForceGroups.none (fun _ => 0.5)
        Session.fresh).1.groups.get? "guest").isSome = true by decide +kernel)
    refine ⟨g, hg, (hmarked "guest" g hg).mpr ⟨by decide, _, rfl, _, List.mem_cons_self, ?_⟩⟩
    exact ⟨"visits", by decide, by decide⟩

end Cohort.Resolver
