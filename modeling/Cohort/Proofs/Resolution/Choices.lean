import Cohort.Resolution
import Cohort.Proofs.Filter
import Cohort.Proofs.Selection
import Cohort.Proofs.Dependency.Order

/-! # The choices of a resolution

    A resolution decides one test after the other along the order of the
    request, parents first, and a decision looks at the choice for the parent
    alone.  The choices a resolution ends with are therefore a solution of one
    equation for each test that was met, and there are no other choices.
    Everything about whole resolutions is read off these equations. -/

namespace Cohort.Resolver

open InSession

variable (r : Resolver) (a : Artifact) (ids : Identifiers) (context : Context)
  (force : ForceGroups) (draws : Draws)

/-! ## One test -/

theorem steady_chooseFreely (mode : DefaultMode) (test : String) (d : Definition) :
    Steady (r.chooseFreely ids context mode draws test d) := by
  rw [chooseFreely]
  split
  · exact steady_pure _
  · refine (Selection.steady_select r.library test d _ context _).bind ?_
    rintro (e | selected)
    · exact (steady_report _).bind fun _ => steady_pure _
    · cases selected with
      | none => exact steady_pure _
      | some s => exact steady_pure _

theorem steady_choose (chosen : Choices) (test : String) (d : Definition) :
    Steady (r.choose ids context force draws chosen test d) := by
  rw [choose]
  split
  · exact steady_pure _
  · split
    · exact steady_pure _
    · split
      · exact steady_pure _
      · exact r.steady_chooseFreely ids context draws force.mode test d

/-- The gate of a test sees the choice for its parent alone. -/
theorem gateOpen_congr {chosen chosen' : Choices} {d : Definition}
    (h : ∀ p, d.parentName? = some p → chosen.get? p = chosen'.get? p) :
    gateOpen chosen d = gateOpen chosen' d := by
  simp only [gateOpen]
  rw [Definition.parentName?] at h
  cases hdep : d.dependsOn with
  | none => rfl
  | some dep =>
      rw [hdep] at h
      simp only [h dep.testName rfl]

/-- The choice for a test that is not randomized follows from the choice for
    its parent. -/
theorem choose_congr {chosen chosen' : Choices} {draws' : Draws} {test : String}
    {d : Definition} (hdraws : draws = draws' ∨ d.isRandomized = false)
    (hparent : ∀ p, d.parentName? = some p → chosen.get? p = chosen'.get? p) :
    r.choose ids context force draws chosen test d
      = r.choose ids context force draws' chosen' test d := by
  simp only [choose]
  rw [gateOpen_congr hparent]
  rcases hdraws with rfl | hd
  · rfl
  · simp only [chooseFreely]
    rw [Selection.select_drawn r.library test hd _ context (draws test) (draws' test)]

/-- What is chosen for a test of the artifact, given other choices. -/
def choiceFor (chosen : Choices) (test : String) : Option Choice :=
  match a.tests.get? test with
  | none => none
  | some d =>
      if r.admits test then (r.choose ids context force draws chosen test d).value
      else none

/-- What is chosen for a test follows from its definition and the choice for its
    parent, and from what is drawn for it if it is randomized. -/
theorem choiceFor_congr {a' : Artifact} {draws' : Draws} {chosen chosen' : Choices}
    {test : String} (hget : a.tests.get? test = a'.tests.get? test)
    (hdraws : draws = draws' ∨
      ∀ d, a.tests.get? test = some d → d.isRandomized = false)
    (hparent : ∀ p, DependsOn a.tests test p → chosen.get? p = chosen'.get? p) :
    r.choiceFor a ids context force draws chosen test
      = r.choiceFor a' ids context force draws' chosen' test := by
  simp only [choiceFor]
  rw [← hget]
  cases hd : a.tests.get? test with
  | none => rfl
  | some d =>
      have hchoose : r.choose ids context force draws chosen test d
          = r.choose ids context force draws' chosen' test d :=
        r.choose_congr ids context force draws (hdraws.imp_right fun h => h d hd)
          fun p hp => hparent p ((dependsOn_iff_of_get? hd).mpr hp)
      simp only [hchoose]

/-- The resolvers know the same rules and admit the same tests; their filters are
    any. -/
structure SameRules (r r' : Resolver) : Prop where
  library : r.library = r'.library
  testFilter : r.testFilter = r'.testFilter

/-- Filters decide on what is asked for, and never on what is chosen. -/
theorem SameRules.choiceFor_eq {r r' : Resolver} (h : SameRules r r') :
    r.choiceFor a ids context force draws = r'.choiceFor a ids context force draws := by
  obtain ⟨library, filters, testFilter⟩ := r
  obtain ⟨library', filters', testFilter'⟩ := r'
  obtain rfl : library = library' := h.library
  obtain rfl : testFilter = testFilter' := h.testFilter
  rfl

theorem seesParent_choiceFor :
    SeesParent a.tests (r.choiceFor a ids context force draws) :=
  fun _ _ _ hparent =>
    r.choiceFor_congr a ids context force draws rfl (Or.inl rfl) hparent

/-- A choice of a resolution is one for an admitted test of the artifact. -/
theorem choiceFor_eq_some_iff {chosen : Choices} {test : String} {c : Choice} :
    r.choiceFor a ids context force draws chosen test = some c
      ↔ ∃ d, a.tests.get? test = some d ∧ r.admits test = true ∧
          (r.choose ids context force draws chosen test d).value = some c := by
  rw [choiceFor]
  cases a.tests.get? test with
  | none =>
      constructor
      · intro h
        exact nomatch h
      · rintro ⟨d, hd, -⟩
        exact nomatch hd
  | some d =>
      cases r.admits test with
      | false =>
          constructor
          · intro h
            exact nomatch h
          · rintro ⟨_, _, h, _⟩
            exact nomatch h
      | true =>
          constructor
          · intro h
            exact ⟨d, rfl, rfl, h⟩
          · rintro ⟨_, ⟨⟩, -, h⟩
            exact h

/-! ## All tests of the order -/

/-- A walk decides one test after the other, in whichever session. -/
theorem fst_walk (selected : NameSet) (chosen : Choices) (order : List String)
    (s : Session) :
    (r.walk a ids context force draws selected chosen order s).1
      = order.foldl (decideNext (r.choiceFor a ids context force draws)) chosen := by
  induction order generalizing chosen s with
  | nil => rfl
  | cons test rest ih =>
      rw [List.foldl_cons, walk]
      cases hd : a.tests.get? test with
      | none => simp only [decideNext, choiceFor, hd, ih]
      | some d =>
          cases hadmits : r.admits test with
          | false =>
              simp only [decideNext, choiceFor, hd, hadmits, Bool.not_false, if_true,
                Bool.false_eq_true, if_false, ih]
          | true =>
              simp only [decideNext, choiceFor, hd, hadmits, Bool.not_true,
                Bool.false_eq_true, if_false, if_true]
              rw [fst_bind, r.steady_choose ids context force draws chosen test d s]
              cases (r.choose ids context force draws chosen test d).value with
              | none => exact ih chosen _
              | some c =>
                  -- reported or not, the walk goes on with the choice
                  cases selected.contains test with
                  | false =>
                      simp only [Bool.false_eq_true, if_false]
                      exact ih (chosen.insert test c) _
                  | true =>
                      simp only [if_true, fst_bind]
                      exact ih (chosen.insert test c) _

variable (requested : Requested)

/-- The choices a resolution ends with. -/
def finalChoices : Choices :=
  (r.choices a ids context requested force draws).value

theorem fst_choices (s : Session) :
    (r.choices a ids context requested force draws s).1
      = r.finalChoices a ids context force draws requested := by
  rw [finalChoices, choices, value, fst_walk, fst_walk]

/-- The order in which the tests of a request are met. -/
def orderOf : List String :=
  evaluationOrder a.tests (r.selectedTests a requested).toList

/-- **THE EQUATION OF A RESOLUTION**: what is chosen for a test that is met
    follows from the choices the resolution ends with. -/
theorem get?_finalChoices {n : String} (hn : n ∈ r.orderOf a requested) :
    (r.finalChoices a ids context force draws requested).get? n
      = r.choiceFor a ids context force draws
          (r.finalChoices a ids context force draws requested) n := by
  rw [finalChoices, choices, value, fst_walk]
  -- the walk starts without choices, so those of the end are its own
  exact get?_foldl_decideNext_of_mem (r.seesParent_choiceFor a ids context force draws)
    (parentsFirst_evaluationOrder a.tests _) (fun _ _ => NameMap.get?_empty _) hn

/-- Nothing is chosen for a test that is not met. -/
theorem get?_finalChoices_of_notMem {n : String} (hn : n ∉ r.orderOf a requested) :
    (r.finalChoices a ids context force draws requested).get? n = none := by
  rw [finalChoices, choices, value, fst_walk]
  exact (get?_foldl_decideNext_of_notMem hn).trans (NameMap.get?_empty n)

/-! ## What is reported -/

/-- The request is about the test.  A request for no tests at all is about none,
    and filters are not consulted for it. -/
def selects (test : String) : Bool :=
  !asksNothing requested && (r.selectedTests a requested).contains test

variable {r a requested} in
theorem selects_iff {n : String} : r.selects a requested n = true
    ↔ asksNothing requested = false ∧ n ∈ r.selectedTests a requested := by
  rw [selects, Bool.and_eq_true, Bool.not_eq_true', NameSet.contains_iff]

/-- Only tests of the artifact are selected. -/
theorem contains_of_mem_selectedTests {n : String}
    (hn : n ∈ r.selectedTests a requested) : a.tests.contains n = true := by
  simp only [selectedTests] at hn
  cases requested with
  | all => exact NameMap.mem_nameSet.mp hn
  | names names =>
      have hn := (NameSet.mem_filter.mp hn).1
      exact NameMap.mem_nameSet.mp hn

/-- A selected test is met, unless its chain enters a cycle. -/
theorem mem_orderOf_iff {n : String} (hn : n ∈ r.selectedTests a requested) :
    n ∈ r.orderOf a requested ↔ ¬ EntersCycle a.tests n := by
  rw [orderOf, mem_evaluationOrder_iff, exists_depth_iff]
  constructor
  · rintro ⟨-, -, hno⟩
    exact hno
  · intro hno
    exact ⟨⟨n, hn, Relation.ReflTransGen.refl⟩,
      r.contains_of_mem_selectedTests a requested hn, hno⟩

/-- Whether a request is about a test follows from the definition of the test. -/
theorem contains_selectedTests_congr {a' : Artifact} {n : String}
    (h : a.tests.get? n = a'.tests.get? n) :
    (r.selectedTests a requested).contains n
      = (r.selectedTests a' requested).contains n := by
  have hcontains : a.tests.contains n = a'.tests.contains n :=
    congrArg Option.isSome h
  simp only [selectedTests]
  cases requested with
  | all => rw [NameMap.contains_nameSet, NameMap.contains_nameSet, hcontains]
  | names names =>
      rw [NameSet.contains_filter, NameSet.contains_filter, NameMap.contains_nameSet,
        NameMap.contains_nameSet, hcontains, includedTests, includedTests,
        DynamicFilters.contains_names_determine,
        DynamicFilters.contains_names_determine, h]

theorem selects_congr {a' : Artifact} {n : String}
    (h : a.tests.get? n = a'.tests.get? n) :
    r.selects a requested n = r.selects a' requested n := by
  rw [selects, selects, r.contains_selectedTests_congr a requested h]

/-- The group that a choice for a test is reported as. -/
def groupOf (test : String) (c : Choice) : TestGroup :=
  ⟨c.1, c.2, (r.includedTests a requested).namespaceMatched.contains test⟩

theorem groupOf_congr {a' : Artifact} {n : String}
    (h : a.tests.get? n = a'.tests.get? n) :
    r.groupOf a requested n = r.groupOf a' requested n := by
  funext c
  simp only [groupOf, includedTests]
  cases requested with
  | all => rfl
  | names names =>
      rw [DynamicFilters.contains_namespaceMatched_determine,
        DynamicFilters.contains_namespaceMatched_determine, h]

/-- A resolution comes to the result of its choices, in whichever session. -/
theorem fst_resolve (s : Session) :
    (r.resolve a ids context requested force draws s).1
      = if asksNothing requested then ResolvedGroups.empty
        else r.resultOf a requested (r.finalChoices a ids context force draws requested) := by
  rw [resolve]
  split
  · rfl
  · rw [fst_bind, fst_choices]
    rfl

/-- **WHAT IS REPORTED**: the choice for a test the request is about, and
    nothing for any other one. -/
theorem get?_groups (n : String) (s : Session) :
    (r.resolve a ids context requested force draws s).1.groups.get? n
      = if r.selects a requested n then
          ((r.finalChoices a ids context force draws requested).get? n).map
            (r.groupOf a requested n)
        else none := by
  rw [fst_resolve, selects]
  cases hasks : asksNothing requested with
  | true => rfl
  | false =>
      simp only [Bool.false_eq_true, if_false, Bool.not_false, Bool.true_and]
      show (NameMap.mapNamed _ (NameMap.filter _ _)).get? n = _
      rw [NameMap.get?_mapNamed, NameMap.get?_filter_names]
      split
      · rfl
      · rfl

end Cohort.Resolver
