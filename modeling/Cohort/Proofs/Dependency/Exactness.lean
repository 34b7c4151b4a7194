import Cohort.Proofs.Dependency.Servable
import Cohort.Proofs.Resolution.Locality

/-! # What the walks find

    The search for broken dependencies and the order of a request come from
    walks that are cut into levels, fill maps on their way and leave out what
    they never reach.  Here both are described by chains of parents alone.  A
    test is found broken exactly when its own dependency is broken, that of a
    test above it is, a test above it is invalid, or its chain enters a cycle.
    The order of a request holds exactly the tests on the chains of its names
    that enter no cycle, each once and after its parent. -/

namespace Cohort

variable {tests : Tests} {invalid : NameSet} {names names' : List String} {n p : String}

/-! ## One dependency -/

/-- What may be wrong between a test and a parent that is among the tests. -/
def Mismatched (d : Definition) (dep : Dependency) (parent : Definition) : Prop :=
  parent.testType ≠ d.testType ∨ parent.salt = d.salt ∨ dep.bucketValue.toInt < 0 ∨
    ∀ b ∈ parent.buckets, b.value ≠ dep.bucketValue

theorem brokenWithParent_eq_none_iff {d parent : Definition} {dep : Dependency} :
    brokenWithParent d dep parent = none ↔ ¬ Mismatched d dep parent := by
  rw [brokenWithParent, Mismatched]
  by_cases htype : parent.testType ≠ d.testType
  · simp [htype]
  · rw [if_neg htype]
    by_cases hsalt : parent.salt = d.salt
    · simp [hsalt]
    · rw [if_neg hsalt]
      by_cases hnegative : dep.bucketValue.toInt < 0
      · simp [hnegative]
      · rw [if_neg hnegative]
        -- what is left is whether the parent has the bucket
        have hbucket : parent.bucket? dep.bucketValue = none
            ↔ ∀ b ∈ parent.buckets, b.value ≠ dep.bucketValue := by
          rw [Option.eq_none_iff_forall_ne_some, ← not_exists,
            Definition.exists_bucket?_iff, not_exists]
          simp only [not_and]
        simp only [htype, hsalt, hnegative, false_or, ← hbucket]
        cases parent.bucket? dep.bucketValue with
        | none => simp
        | some b => simp

/-- The dependency of a test fails by itself: there is no such parent, or the two do
    not match. -/
inductive DependencyFails (tests : Tests) (test : String) : Prop where
  | unknown {d : Definition} {dep : Dependency} : tests.get? test = some d →
      d.dependsOn = some dep → tests.contains dep.testName = false →
      DependencyFails tests test
  | mismatched {d parent : Definition} {dep : Dependency} : tests.get? test = some d →
      d.dependsOn = some dep → tests.get? dep.testName = some parent →
      Mismatched d dep parent → DependencyFails tests test

/-- The check of one dependency finds just this. -/
theorem ownBrokenDependency_eq_none_iff {d : Definition} (hd : tests.get? n = some d) :
    ownBrokenDependency tests d = none ↔ ¬ DependencyFails tests n := by
  have hof : ∀ e, tests.get? n = some e → e = d :=
    fun e he => Option.some.inj (he.symm.trans hd)
  rw [ownBrokenDependency]
  cases hdep : d.dependsOn with
  | none =>
      refine iff_of_true rfl ?_
      rintro (⟨he, hedep, -⟩ | ⟨he, hedep, -, -⟩)
      · rw [hof _ he, hdep] at hedep
        cases hedep
      · rw [hof _ he, hdep] at hedep
        cases hedep
  | some dep =>
      cases hparent : tests.get? dep.testName with
      | none =>
          simp only [hparent]
          refine iff_of_false (Option.some_ne_none _) (not_not.mpr ?_)
          exact DependencyFails.unknown hd hdep (NameMap.contains_eq_false_iff.mpr hparent)
      | some parent =>
          simp only [hparent]
          rw [brokenWithParent_eq_none_iff, not_iff_not]
          constructor
          · exact fun hwrong => DependencyFails.mismatched hd hdep hparent hwrong
          · rintro (⟨he, hedep, hout⟩ | ⟨he, hedep, hparent', hwrong⟩)
            · rw [hof _ he, hdep] at hedep
              obtain rfl := Option.some.inj hedep
              rw [NameMap.contains_eq_false_iff.mp hout] at hparent
              cases hparent
            · obtain rfl := hof _ he
              obtain rfl := Option.some.inj (hdep.symm.trans hedep)
              obtain rfl := Option.some.inj (hparent.symm.trans hparent')
              exact hwrong

/-- A parent that is no test fails the test below it. -/
theorem DependencyFails.of_missing (hp : DependsOn tests n p)
    (hout : tests.contains p = false) : DependencyFails tests n := by
  obtain ⟨d, hd, hname⟩ := hp
  obtain ⟨dep, hdep, rfl⟩ := Option.map_eq_some_iff.mp hname
  exact DependencyFails.unknown hd hdep hout

/-! ## What the search flags -/

/-- Nothing on the chain of a test whose chain ends keeps it from being served. -/
theorem get?_brokenDependencies_eq_none_iff {k : Nat} (hk : AtDepth tests k n) :
    (brokenDependencies tests invalid).get? n = none ↔
      ¬ DependencyFails tests n ∧
        ∀ m, Relation.TransGen (DependsOn tests) n m →
          m ∉ invalid ∧ ¬ DependencyFails tests m := by
  -- by depth: the equation of the search passes the question on to the parent
  induction k using Nat.strongRecOn generalizing n with
  | _ k ih =>
      obtain ⟨d, hd⟩ := NameMap.contains_iff.mp hk.contains
      rw [get?_brokenDependencies_of_atDepth hk, brokenBy_eq_none_iff hd,
        ownBrokenDependency_eq_none_iff hd]
      refine and_congr_right fun hfine => ?_
      have hparent : ∀ p, DependsOn tests n p → ∃ j, j < k ∧ AtDepth tests j p := by
        intro p hp
        have hin : tests.contains p = true := by
          rw [← Bool.not_eq_false]
          exact fun hout => hfine (DependencyFails.of_missing hp hout)
        obtain ⟨j, rfl, hj⟩ := hk.parent hp hin
        exact ⟨j, Nat.lt_succ_self j, hj⟩
      constructor
      · intro h m hm
        obtain ⟨p, hp, hpm⟩ := Relation.TransGen.head'_iff.mp hm
        obtain ⟨hnone, hvalid⟩ := h p ((dependsOn_iff_of_get? hd).mp hp)
        obtain ⟨j, hjk, hj⟩ := hparent p hp
        obtain ⟨hown, habove⟩ := (ih j hjk hj).mp hnone
        rcases Relation.reflTransGen_iff_eq_or_transGen.mp hpm with rfl | hpm
        · exact ⟨hvalid, hown⟩
        · exact habove m hpm
      · intro h p hname
        have hp := (dependsOn_iff_of_get? hd).mpr hname
        obtain ⟨hvalid, hown⟩ := h p (Relation.TransGen.single hp)
        obtain ⟨j, hjk, hj⟩ := hparent p hp
        exact ⟨(ih j hjk hj).mpr ⟨hown, fun m hm => h m (Relation.TransGen.head hp hm)⟩,
          hvalid⟩

/-- The test cannot be served: its own dependency fails, a test above it is invalid or
    fails its own, or its chain enters a cycle. -/
def Unservable (tests : Tests) (invalid : NameSet) (test : String) : Prop :=
  DependencyFails tests test ∨
    (∃ m, Relation.TransGen (DependsOn tests) test m ∧
      (m ∈ invalid ∨ DependencyFails tests m)) ∨
    EntersCycle tests test

/-- **WHAT IS FLAGGED**: the tests that cannot be served, and no others. -/
theorem contains_brokenDependencies_iff :
    (brokenDependencies tests invalid).contains n = true ↔
      tests.contains n = true ∧ Unservable tests invalid n := by
  cases hn : tests.contains n with
  | false =>
      rw [NameMap.contains, get?_brokenDependencies_of_missing hn]
      refine iff_of_false Bool.false_ne_true ?_
      rintro ⟨h, -⟩
      cases h
  | true =>
      rw [eq_self_iff_true, true_and, Unservable]
      by_cases hcycle : EntersCycle tests n
      · rw [NameMap.contains, get?_brokenDependencies_of_entersCycle hn hcycle]
        exact iff_of_true rfl (Or.inr (Or.inr hcycle))
      · obtain ⟨k, hk⟩ := exists_depth_iff.mpr ⟨hn, hcycle⟩
        rw [← not_iff_not, Bool.not_eq_true, NameMap.contains_eq_false_iff,
          get?_brokenDependencies_eq_none_iff hk]
        simp only [hcycle, or_false, not_or, not_exists, not_and]

/-- What is wrong above the parent is wrong above the test. -/
theorem Unservable.of_parent (hp : DependsOn tests n p) (h : Unservable tests invalid p) :
    Unservable tests invalid n := by
  rcases h with hfails | ⟨m, hm, hwrong⟩ | hcycle
  · exact Or.inr (Or.inl ⟨p, Relation.TransGen.single hp, Or.inr hfails⟩)
  · exact Or.inr (Or.inl ⟨m, Relation.TransGen.head hp hm, hwrong⟩)
  · exact Or.inr (Or.inr (EntersCycle.of_parent hp hcycle))

/-- **THE SEARCH IS EXACT**: it flags the tests that cannot be served.  So whatever has a
    parent that is missing, invalid or flagged is flagged. -/
theorem search_flags_unservable (tests : Tests) (invalid : NameSet) :
    (∀ n, (brokenDependencies tests invalid).contains n = true ↔
      tests.contains n = true ∧ Unservable tests invalid n) ∧
    (∀ n p, DependsOn tests n p →
      tests.contains p = false ∨ p ∈ invalid ∨
        (brokenDependencies tests invalid).contains p = true →
      (brokenDependencies tests invalid).contains n = true) := by
  refine ⟨fun n => contains_brokenDependencies_iff, ?_⟩
  intro n p hp hparent
  refine contains_brokenDependencies_iff.mpr ⟨hp.contains, ?_⟩
  rcases hparent with hout | hinvalid | hflagged
  · exact Or.inl (DependencyFails.of_missing hp hout)
  · exact Or.inr (Or.inl ⟨p, Relation.TransGen.single hp, Or.inl hinvalid⟩)
  · exact Unservable.of_parent hp (contains_brokenDependencies_iff.mp hflagged).2

/-- A family, a test without its parent and one below it, and one below a test that
    depends on itself. -/
def thicket : Tests :=
  NameMap.ofList [("parent", Resolver.parentTest), ("child", Resolver.childTest),
    ("orphan", Resolver.evenSplit "o" (some ⟨"gone", 0⟩)),
    ("heir", Resolver.evenSplit "h" (some ⟨"orphan", 1⟩)),
    ("loop", Resolver.evenSplit "l" (some ⟨"loop", 1⟩)),
    ("tail", Resolver.evenSplit "t" (some ⟨"loop", 0⟩))]

/-- With the parent invalid, the child is flagged below it, the heir below the flagged
    orphan, and the parent itself is not. -/
theorem heir_and_child_flagged :
    (brokenDependencies thicket (NameSet.ofList ["parent"])).contains "child" = true ∧
    (brokenDependencies thicket (NameSet.ofList ["parent"])).contains "heir" = true ∧
    ¬ Unservable thicket (NameSet.ofList ["parent"]) "parent" := by
  obtain ⟨hexact, hbelow⟩ := search_flags_unservable thicket (NameSet.ofList ["parent"])
  refine ⟨?_, ?_, ?_⟩
  · exact hbelow "child" "parent" ⟨_, rfl, rfl⟩ (Or.inr (Or.inl (by decide)))
  · exact hbelow "heir" "orphan" ⟨_, rfl, rfl⟩ (Or.inr (Or.inr (by decide +kernel)))
  · intro hwrong
    have hflagged := (hexact "parent").mpr ⟨by decide +kernel, hwrong⟩
    exact absurd hflagged (by decide +kernel)

/-! ## What is ordered -/

/-- In an order with parents first, a parent has a smaller place. -/
theorem ParentsFirst.idxOf_lt {order : List String} (h : ParentsFirst tests order)
    (hn : n ∈ order) (hp : p ∈ order) (hdep : DependsOn tests n p) :
    order.idxOf p < order.idxOf n := by
  have hnlt := List.idxOf_lt_length_of_mem hn
  have hplt := List.idxOf_lt_length_of_mem hp
  have hnget := List.getElem_idxOf hnlt
  have hpget := List.getElem_idxOf hplt
  by_contra hle
  rcases Nat.lt_or_eq_of_le (Nat.le_of_not_lt hle) with hlt | heq
  · have hafter := (List.pairwise_iff_getElem.mp h.pairwise _ _ hnlt hplt hlt).2
    rw [hnget, hpget] at hafter
    exact hafter hdep
  -- one place is taken by one test
  · have hsame : n = p := by
      rw [← hnget, ← hpget]
      simp only [heq]
    subst hsame
    exact h.not_self n hn hdep

theorem ParentsFirst.nodup {order : List String} (h : ParentsFirst tests order) :
    order.Nodup :=
  h.pairwise.imp And.left

/-- The closure does not depend on the order of the names, nor on repetitions. -/
theorem withDependencies_congr (h : ∀ x, x ∈ names ↔ x ∈ names') :
    withDependencies tests names = withDependencies tests names' := by
  refine NameSet.ext_mem ?_
  intro m
  rw [mem_withDependencies_iff, mem_withDependencies_iff]
  simp only [h]

/-- **PARENTS FIRST, EACH ONCE, AND NOTHING LOST**: the order of some names has no
    repetitions and holds the tests on their chains that enter no cycle.  A parent
    that is a test is listed with the test, and before it.  The order of the names
    and repetitions among them do not matter. -/
theorem evaluationOrder_is_topological (tests : Tests) (names : List String) :
    (evaluationOrder tests names).Nodup ∧
    (∀ n, n ∈ evaluationOrder tests names ↔
      tests.contains n = true ∧ (∃ x ∈ names, OnChain tests x n) ∧
        ¬ EntersCycle tests n) ∧
    (∀ n p, n ∈ evaluationOrder tests names → DependsOn tests n p →
      tests.contains p = true →
      p ∈ evaluationOrder tests names ∧
        (evaluationOrder tests names).idxOf p < (evaluationOrder tests names).idxOf n) ∧
    (∀ names', (∀ x, x ∈ names ↔ x ∈ names') →
      evaluationOrder tests names' = evaluationOrder tests names) := by
  have hmem : ∀ n, n ∈ evaluationOrder tests names ↔
      tests.contains n = true ∧ (∃ x ∈ names, OnChain tests x n) ∧
        ¬ EntersCycle tests n := by
    intro n
    rw [mem_evaluationOrder_iff, exists_depth_iff]
    tauto
  have hfirst := parentsFirst_evaluationOrder tests names
  refine ⟨hfirst.nodup, hmem, ?_, ?_⟩
  · intro n p hn hp hin
    obtain ⟨-, ⟨x, hx, hchain⟩, hno⟩ := (hmem n).mp hn
    have hlisted : p ∈ evaluationOrder tests names :=
      (hmem p).mpr ⟨hin, ⟨x, hx, hchain.tail hp⟩, fun hcycle => hno (hcycle.of_parent hp)⟩
    exact ⟨hlisted, hfirst.idxOf_lt hn hlisted hp⟩
  · intro names' hsame
    rw [evaluationOrder, evaluationOrder, withDependencies_congr hsame]

/-- The child is ordered behind its parent, which nobody named, and the names may be
    shuffled and repeated. -/
theorem child_behind_parent :
    ("parent" ∈ evaluationOrder thicket ["heir", "child", "gone", "tail"] ∧
      (evaluationOrder thicket ["heir", "child", "gone", "tail"]).idxOf "parent"
        < (evaluationOrder thicket ["heir", "child", "gone", "tail"]).idxOf "child") ∧
    evaluationOrder thicket ["tail", "child", "heir", "tail", "gone"]
      = evaluationOrder thicket ["heir", "child", "gone", "tail"] := by
  obtain ⟨-, -, hparents, hshuffled⟩ :=
    evaluationOrder_is_topological thicket ["heir", "child", "gone", "tail"]
  constructor
  · exact hparents "child" "parent" (by decide +kernel) ⟨_, rfl, rfl⟩ (by decide +kernel)
  · refine hshuffled _ ?_
    intro x
    simp only [List.mem_cons, List.not_mem_nil, or_false]
    tauto

end Cohort
