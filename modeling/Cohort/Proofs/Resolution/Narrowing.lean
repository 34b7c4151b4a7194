import Cohort.Proofs.Resolution.Filtering

/-! # A filter of tests only narrows

    A resolver can be told to resolve certain tests only.  The tests kept out
    are not looked at even when they are above others, so such a filter closes
    gates further down, but it never opens one.  What is left of a resolution
    is told by its supported tests: those that are forced, or that hang on
    nothing but admitted tests up to a forced one or to the end of the chain.
    A supported test is resolved as if nothing were kept out, and any other
    one is not resolved at all. -/

namespace Cohort.Resolver

open InSession

/-- The resolver that resolves these tests only, or all of them. -/
def withTestFilter (r : Resolver) (testFilter : Option NameSet) : Resolver :=
  { r with testFilter := testFilter }

theorem admits_withTestFilter_none (r : Resolver) (n : String) :
    (r.withTestFilter none).admits n = true := rfl

theorem admits_withTestFilter_some (r : Resolver) (names : NameSet) (n : String) :
    (r.withTestFilter (some names)).admits n = true ↔ n ∈ names :=
  NameSet.contains_iff

/-! ## Supported tests -/

/-- The test is admitted and forced, or its chain ends with it, or its parent is
    supported in turn: nothing that is kept out can close its gate. -/
inductive Supported (r : Resolver) (tests : Tests) (force : ForceGroups) :
    String → Prop where
  | forced {n : String} {d : Definition} {b : Bucket} : r.admits n = true →
      tests.get? n = some d → forcedBucket? force n d = some b →
      Supported r tests force n
  | root {n : String} : r.admits n = true →
      (∀ p, DependsOn tests n p → tests.contains p = false) →
      Supported r tests force n
  | under {n p : String} : r.admits n = true → DependsOn tests n p →
      Supported r tests force p → Supported r tests force n

section Supported

variable {r : Resolver} {tests : Tests} {force : ForceGroups} {n : String}

theorem Supported.admits (h : Supported r tests force n) : r.admits n = true := by
  cases h with
  | forced hadmits _ _ => exact hadmits
  | root hadmits _ => exact hadmits
  | under hadmits _ _ => exact hadmits

/-- A chain of admitted tests supports the test it begins with. -/
theorem supported_of_chain {k : Nat} (hk : AtDepth tests k n)
    (hchain : ∀ m, OnChain tests n m → tests.contains m = true → r.admits m = true) :
    Supported r tests force n := by
  induction hk with
  | root hin hend =>
      exact Supported.root (hchain _ Relation.ReflTransGen.refl hin) hend
  | @under n p k hp hdeep ih =>
      refine Supported.under ?_ hp ?_
      · exact hchain n Relation.ReflTransGen.refl hp.contains
      · exact ih fun m hm hin => hchain m (hm.head hp) hin

/-- What is admitted and yet not supported is not forced, and a test above it is
    kept out. -/
theorem exists_keptOut {k : Nat} {d : Definition} (hk : AtDepth tests k n)
    (hd : tests.get? n = some d) (hadmits : r.admits n = true)
    (hnot : ¬ Supported r tests force n) :
    forcedBucket? force n d = none ∧
      ∃ m, Relation.TransGen (DependsOn tests) n m ∧ tests.contains m = true ∧
        r.admits m = false := by
  constructor
  · refine Option.eq_none_iff_forall_ne_some.mpr ?_
    intro b hb
    exact hnot (Supported.forced hadmits hd hb)
  · by_contra hno
    refine hnot (supported_of_chain hk ?_)
    intro m hm hin
    rcases Relation.reflTransGen_iff_eq_or_transGen.mp hm with rfl | habove
    · exact hadmits
    · rw [← Bool.not_eq_false]
      exact fun hout => hno ⟨m, habove, hin, hout⟩

end Supported

/-! ## What is chosen behind a filter -/

section Chosen

variable (r : Resolver) {a : Artifact} (ids : Identifiers) (context : Context)
  (force : ForceGroups) (draws draws' : Draws) {requested : Requested}
  {testFilter : Option NameSet} {n : String}

/-- A choice is made for a test only if its chain ends. -/
theorem exists_depth_of_finalChoices {c : Choice}
    (h : (r.finalChoices a ids context force draws requested).get? n = some c) :
    ∃ k, AtDepth a.tests k n := by
  by_contra hno
  have hn : n ∉ r.orderOf a requested := fun hn => hno (mem_evaluationOrder_iff.mp hn).2
  rw [r.get?_finalChoices_of_notMem a ids context force draws requested hn] at h
  cases h

/-- The chain of a reported test ends. -/
theorem exists_depth_of_groups {g : TestGroup} {s : Session}
    (h : (r.resolve a ids context requested force draws s).1.groups.get? n = some g) :
    ∃ k, AtDepth a.tests k n := by
  rw [get?_groups] at h
  split at h
  · obtain ⟨c, hc, -⟩ := Option.map_eq_some_iff.mp h
    exact r.exists_depth_of_finalChoices ids context force draws hc
  · cases h

/-- A choice is made for supported tests only. -/
theorem supported_of_finalChoices {c : Choice}
    (h : (r.finalChoices a ids context force draws requested).get? n = some c) :
    Supported r a.tests force n := by
  obtain ⟨k, hk⟩ := r.exists_depth_of_finalChoices ids context force draws h
  -- by depth: the open gate of a test says that its parent has a choice too
  induction hk generalizing c with
  | root _ hend =>
      obtain ⟨-, hchoice⟩ := choiceFor_of_finalChoices ids context force draws h
      obtain ⟨d, -, hadmits, -⟩ :=
        (r.choiceFor_eq_some_iff a ids context force draws).mp hchoice
      exact Supported.root hadmits hend
  | @under n p k hp _ ih =>
      obtain ⟨-, hchoice⟩ := choiceFor_of_finalChoices ids context force draws h
      obtain ⟨d, hd, hadmits, -⟩ :=
        (r.choiceFor_eq_some_iff a ids context force draws).mp hchoice
      cases hforced : forcedBucket? force n d with
      | some b => exact Supported.forced hadmits hd hforced
      | none =>
          obtain ⟨dep, hdep, rfl⟩ :=
            Option.map_eq_some_iff.mp ((dependsOn_iff_of_get? hd).mp hp)
          obtain ⟨-, hgate⟩ := gate_of_finalChoices ids context force draws hd hforced h
          obtain ⟨c', hc', -⟩ := hgate dep hdep
          exact Supported.under hadmits hp (ih hc')

/-- Once a test is admitted, the filter has no say in the choice for it. -/
theorem choiceFor_withTestFilter (chosen : Choices)
    (hadmits : (r.withTestFilter testFilter).admits n = true) :
    (r.withTestFilter testFilter).choiceFor a ids context force draws chosen n
      = (r.withTestFilter none).choiceFor a ids context force draws chosen n := by
  rw [choiceFor, choiceFor]
  cases a.tests.get? n with
  | none => rfl
  | some d =>
      simp only [hadmits, r.admits_withTestFilter_none]
      rfl

/-- With and without the filter the tests are met in one order, so it is enough to
    compare what is chosen for a test once it is met. -/
theorem get?_finalChoices_of_choiceFor
    (h : (r.withTestFilter testFilter).choiceFor a ids context force draws
        ((r.withTestFilter testFilter).finalChoices a ids context force draws requested) n
      = (r.withTestFilter none).choiceFor a ids context force draws'
        ((r.withTestFilter none).finalChoices a ids context force draws' requested) n) :
    ((r.withTestFilter testFilter).finalChoices a ids context force draws requested).get? n
      = ((r.withTestFilter none).finalChoices a ids context force draws' requested).get? n := by
  have horder : (r.withTestFilter testFilter).orderOf a requested
      = (r.withTestFilter none).orderOf a requested := rfl
  by_cases hn : n ∈ (r.withTestFilter none).orderOf a requested
  · rw [get?_finalChoices _ a ids context force draws requested (horder ▸ hn),
      get?_finalChoices _ a ids context force draws' requested hn, h]
  · rw [get?_finalChoices_of_notMem _ a ids context force draws requested (horder ▸ hn),
      get?_finalChoices_of_notMem _ a ids context force draws' requested hn]

/-- A forced test that is admitted is in its forced bucket. -/
theorem choiceFor_of_forced {d : Definition} {b : Bucket} (hadmits : r.admits n = true)
    (hd : a.tests.get? n = some d) (hb : forcedBucket? force n d = some b)
    (chosen : Choices) :
    r.choiceFor a ids context force draws chosen n = some (b, "") := by
  refine (r.choiceFor_eq_some_iff a ids context force draws).mpr ⟨d, hd, hadmits, ?_⟩
  rw [r.choose_of_forced ids context force draws hb, value_pure]

section Fixed

variable (hfixed : ∀ n d, a.tests.get? n = some d → d.isRandomized = false)

include hfixed

/-- For an admitted test the choice is as without the filter if that for its parent
    is. -/
theorem get?_finalChoices_of_parents
    (hadmits : (r.withTestFilter testFilter).admits n = true)
    (hparents : ∀ p, DependsOn a.tests n p →
      ((r.withTestFilter testFilter).finalChoices a ids context force draws requested).get? p
        = ((r.withTestFilter none).finalChoices a ids context force draws' requested).get? p) :
    ((r.withTestFilter testFilter).finalChoices a ids context force draws requested).get? n
      = ((r.withTestFilter none).finalChoices a ids context force draws' requested).get? n := by
  refine r.get?_finalChoices_of_choiceFor ids context force draws draws' ?_
  rw [r.choiceFor_withTestFilter ids context force draws _ hadmits]
  exact choiceFor_congr _ a ids context force draws rfl (Or.inr (hfixed n)) hparents

/-- A supported test is chosen for as if no test were kept out. -/
theorem get?_finalChoices_of_supported
    (h : Supported (r.withTestFilter testFilter) a.tests force n) :
    ((r.withTestFilter testFilter).finalChoices a ids context force draws requested).get? n
      = ((r.withTestFilter none).finalChoices a ids context force draws' requested).get? n := by
  induction h with
  | @forced n d b hadmits hd hb =>
      -- whatever became of the parent, the force decides
      refine r.get?_finalChoices_of_choiceFor ids context force draws draws' ?_
      rw [choiceFor_of_forced _ ids context force draws hadmits hd hb,
        choiceFor_of_forced _ ids context force draws' (r.admits_withTestFilter_none n) hd hb]
  | @root n hadmits hend =>
      refine r.get?_finalChoices_of_parents ids context force draws draws' hfixed hadmits ?_
      intro p hp
      rw [get?_finalChoices_of_missing ids context force draws (hend p hp),
        get?_finalChoices_of_missing ids context force draws' (hend p hp)]
  | @under n p hadmits hp _ ih =>
      refine r.get?_finalChoices_of_parents ids context force draws draws' hfixed hadmits ?_
      intro q hq
      rw [← hp.unique hq]
      exact ih

/-- **WHAT A FILTER LEAVES**: the groups of the supported tests, each as it would be
    without the filter. -/
theorem get?_groups_withTestFilter_iff {g : TestGroup} (s s' : Session) :
    ((r.withTestFilter testFilter).resolve a ids context requested force draws
        s).1.groups.get? n = some g ↔
      Supported (r.withTestFilter testFilter) a.tests force n ∧
        ((r.withTestFilter none).resolve a ids context requested force draws'
          s').1.groups.get? n = some g := by
  rw [get?_groups, get?_groups]
  -- both requests are about the same tests, and mark them alike
  show (if r.selects a requested n then _ else none) = some g
    ↔ _ ∧ (if r.selects a requested n then _ else none) = some g
  by_cases hselects : r.selects a requested n = true
  · rw [if_pos hselects, if_pos hselects]
    constructor
    · intro h
      obtain ⟨c, hc, -⟩ := Option.map_eq_some_iff.mp h
      have hsupported := supported_of_finalChoices _ ids context force draws hc
      rw [r.get?_finalChoices_of_supported ids context force draws draws' hfixed hsupported] at h
      exact ⟨hsupported, h⟩
    · rintro ⟨hsupported, h⟩
      rw [r.get?_finalChoices_of_supported ids context force draws draws' hfixed hsupported]
      exact h
  · rw [if_neg hselects, if_neg hselects]
    constructor
    · intro h
      cases h
    · rintro ⟨-, h⟩
      cases h

end Fixed

end Chosen

/-- **A FILTER OF TESTS ONLY NARROWS**: unless tests draw their positions, every group
    behind the filter is one of a test of the filter, and is the same without it
    at the same time.
    A test of the filter that is missing behind it is not forced to one of its
    buckets, and one of the tests above it is not in the filter. -/
theorem test_filter_only_narrows (r : Resolver) (a : Artifact) (ids : Identifiers)
    (context : Context) (requested : Requested) (force : ForceGroups) (draws draws' : Draws)
    (hfixed : ∀ n d, a.tests.get? n = some d → d.isRandomized = false) (names : NameSet)
    (s s' : Session) :
    let behind :=
      (r.withTestFilter (some names)).resolve a ids context requested force draws s
    let without := (r.withTestFilter none).resolve a ids context requested force draws' s'
    (∀ n g, behind.1.groups.get? n = some g →
      n ∈ names ∧ without.1.groups.get? n = some g) ∧
    (∀ n ∈ behind.1.dynamic, n ∈ without.1.dynamic) ∧
    (∀ n g, n ∈ names → without.1.groups.get? n = some g →
      behind.1.groups.get? n = none →
      ∃ d, a.tests.get? n = some d ∧
        (∀ value, force.forced.get? n = some value → ¬ Declares d value) ∧
        ∃ m, Relation.TransGen (DependsOn a.tests) n m ∧ a.tests.contains m = true ∧
          m ∉ names) := by
  intro behind without
  have hiff : ∀ n g, behind.1.groups.get? n = some g ↔
      Supported (r.withTestFilter (some names)) a.tests force n ∧
        without.1.groups.get? n = some g :=
    fun n g => r.get?_groups_withTestFilter_iff ids context force draws draws' hfixed s s'
  refine ⟨?_, ?_, ?_⟩
  · intro n g hg
    obtain ⟨hsupported, hwithout⟩ := (hiff n g).mp hg
    exact ⟨(r.admits_withTestFilter_some names n).mp hsupported.admits, hwithout⟩
  · intro n hn
    obtain ⟨hincluded, hsome⟩ := (mem_dynamic_iff _ ids context force draws s).mp hn
    rw [reported, Option.isSome_map, Option.isSome_iff_exists] at hsome
    obtain ⟨g, hg⟩ := hsome
    refine (mem_dynamic_iff _ ids context force draws' s').mpr ⟨hincluded, ?_⟩
    rw [reported, Option.isSome_map, Option.isSome_iff_exists]
    exact ⟨g, ((hiff n g).mp hg).2⟩
  · intro n g hn hg hnone
    obtain ⟨k, hk⟩ := exists_depth_of_groups _ ids context force draws' hg
    obtain ⟨d, hd⟩ := NameMap.contains_iff.mp hk.contains
    have hnot : ¬ Supported (r.withTestFilter (some names)) a.tests force n := by
      intro hsupported
      rw [(hiff n g).mpr ⟨hsupported, hg⟩] at hnone
      cases hnone
    obtain ⟨hfree, m, hm, hin, hout⟩ :=
      exists_keptOut hk hd ((r.admits_withTestFilter_some names n).mpr hn) hnot
    refine ⟨d, hd, ?_, m, hm, hin, ?_⟩
    · intro value hforced hdeclared
      obtain ⟨b, -, hb⟩ := forcedBucket?_of_declared force hforced hdeclared
      rw [hfree] at hb
      cases hb
    · exact NameSet.contains_eq_false_iff.mp hout

/-- The guest and the child of the household. -/
def childAndGuest : NameSet := NameSet.ofList ["child", "guest"]

/-- Behind the filter the guest stays what it was, and the child is missing, since its
    parent is kept out. -/
theorem guest_behind_filter :
    (∃ g, ((plainResolver.withTestFilter (some childAndGuest)).resolve household visitor
        NameMap.empty .all ForceGroups.none (fun _ => 0.5)
        Session.fresh).1.groups.get? "guest" = some g ∧
      ((plainResolver.withTestFilter none).resolve household visitor NameMap.empty .all
        ForceGroups.none (fun _ => 0.5) Session.fresh).1.groups.get? "guest" = some g) ∧
    (∃ m, Relation.TransGen (DependsOn household.tests) "child" m ∧
      household.tests.contains m = true ∧ m ∉ childAndGuest) := by
  have hfixed : ∀ n d, household.tests.get? n = some d → d.isRandomized = false := by
    have hall : ∀ e ∈ household.tests.entries, e.2.isRandomized = false := by decide +kernel
    intro n d hd
    exact hall (n, d) (NameMap.get?_eq_some_iff.mp hd)
  obtain ⟨hkept, -, hmissing⟩ := plainResolver.test_filter_only_narrows household visitor
    NameMap.empty .all ForceGroups.none (fun _ => 0.5) (fun _ => 0.5) hfixed childAndGuest
    Session.fresh Session.fresh
  constructor
  · obtain ⟨g, hg⟩ := Option.isSome_iff_exists.mp
      (show (((plainResolver.withTestFilter (some childAndGuest)).resolve household visitor
        NameMap.empty .all ForceGroups.none (fun _ => 0.5)
        Session.fresh).1.groups.get? "guest").isSome = true by decide +kernel)
    exact ⟨g, hg, (hkept "guest" g hg).2⟩
  · obtain ⟨g, hg⟩ := Option.isSome_iff_exists.mp
      (show (((plainResolver.withTestFilter none).resolve household visitor
        NameMap.empty .all ForceGroups.none (fun _ => 0.5)
        Session.fresh).1.groups.get? "child").isSome = true by decide +kernel)
    have hgone : ((plainResolver.withTestFilter (some childAndGuest)).resolve household
        visitor NameMap.empty .all ForceGroups.none (fun _ => 0.5)
        Session.fresh).1.groups.get? "child" = none :=
      Option.isNone_iff_eq_none.mp (by decide +kernel)
    obtain ⟨-, -, -, hkeptOut⟩ := hmissing "child" g (by decide) hg hgone
    exact hkeptOut

end Cohort.Resolver
