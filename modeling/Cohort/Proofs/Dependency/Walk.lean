import Cohort.Proofs.Dependency.Chain

/-! # Walks from the roots

    A walk begins at the tests without a parent and goes on level by level.
    Its level `k` holds the tests of depth `k`, so the walk meets every test
    whose chain ends, each of them once and after its parent, and no test
    whose chain enters a cycle.  What is decided for one test after the other
    along such a walk can therefore be read off the end result, whatever else
    the walk passed on its way. -/

namespace Cohort

variable {tests : Tests} {n p : String}

/-! ## Levels -/

/-- The tests with a given parent. -/
theorem mem_childrenOf_iff : n ∈ childrenOf tests p ↔ DependsOn tests n p := by
  rw [childrenOf, DependsOn, List.mem_map]
  constructor
  · rintro ⟨⟨m, d⟩, he, rfl⟩
    obtain ⟨hin, hp⟩ := List.mem_filter.mp he
    exact ⟨d, NameMap.get?_eq_some_iff.mpr hin, eq_of_beq hp⟩
  · rintro ⟨d, hd, hp⟩
    refine ⟨(n, d), List.mem_filter.mpr ⟨NameMap.get?_eq_some_iff.mp hd, ?_⟩, rfl⟩
    exact beq_iff_eq.mpr hp

theorem nodup_childrenOf (tests : Tests) (p : String) :
    (childrenOf tests p).Nodup :=
  tests.nodup_names.sublist (List.filter_sublist.map _)

/-- The first level holds the tests of depth zero. -/
theorem mem_rootsOf_iff : n ∈ rootsOf tests ↔ AtDepth tests 0 n := by
  rw [rootsOf, List.mem_map]
  constructor
  · rintro ⟨⟨m, d⟩, he, rfl⟩
    obtain ⟨hin, hend⟩ := List.mem_filter.mp he
    have hd := NameMap.get?_eq_some_iff.mpr hin
    refine AtDepth.root (NameMap.contains_iff.mpr ⟨d, hd⟩) ?_
    intro p hp
    have hname := (dependsOn_iff_of_get? hd).mp hp
    have hnone := Option.filter_eq_none_iff.mp (Option.isNone_iff_eq_none.mp hend)
    exact Bool.not_eq_true _ ▸ hnone p hname
  · intro h
    cases h with
    | root hin hend =>
        obtain ⟨d, hd⟩ := NameMap.contains_iff.mp hin
        refine ⟨(n, d), List.mem_filter.mpr ⟨NameMap.get?_eq_some_iff.mp hd, ?_⟩, rfl⟩
        refine Option.isNone_iff_eq_none.mpr (Option.filter_eq_none_iff.mpr ?_)
        intro p hp
        rw [hend p ((dependsOn_iff_of_get? hd).mpr hp)]
        exact Bool.false_ne_true

theorem nodup_rootsOf (tests : Tests) : (rootsOf tests).Nodup :=
  tests.nodup_names.sublist (List.filter_sublist.map _)

/-- The children of all tests of one depth are the tests of the next. -/
theorem mem_flatMap_childrenOf {level : List String} {k : Nat}
    (hlevel : ∀ m, m ∈ level ↔ AtDepth tests k m) :
    n ∈ level.flatMap (childrenOf tests) ↔ AtDepth tests (k + 1) n := by
  rw [List.mem_flatMap]
  constructor
  · rintro ⟨p, hp, hn⟩
    exact AtDepth.under (mem_childrenOf_iff.mp hn) ((hlevel p).mp hp)
  · intro h
    cases h with
    | under hp hdeep => exact ⟨_, (hlevel _).mpr hdeep, mem_childrenOf_iff.mpr hp⟩

/-- No test is a child twice. -/
theorem nodup_flatMap_childrenOf {level : List String} (h : level.Nodup) :
    (level.flatMap (childrenOf tests)).Nodup := by
  refine List.nodup_flatMap.mpr ⟨fun p _ => nodup_childrenOf tests p, ?_⟩
  refine h.imp ?_
  -- a child of two tests would have two parents
  intro p q hpq m hmp hmq
  exact hpq ((mem_childrenOf_iff.mp hmp).unique (mem_childrenOf_iff.mp hmq))

/-- The walk from a level on meets the tests of the depths of its room. -/
theorem mem_levels_iff {room k : Nat} {level : List String}
    (hlevel : ∀ m, m ∈ level ↔ AtDepth tests k m) :
    n ∈ levels (childrenOf tests) room level
      ↔ ∃ j, k ≤ j ∧ j < k + room ∧ AtDepth tests j n := by
  induction room generalizing k level with
  | zero =>
      constructor
      · intro h
        exact nomatch h
      · rintro ⟨j, hkj, hj, -⟩
        omega
  | succ room ih =>
      rw [levels]
      split
      · next hempty =>
          constructor
          · intro h
            exact nomatch h
          · rintro ⟨j, hkj, -, hjn⟩
            -- depths have no gaps, so behind an empty level there is no other
            obtain ⟨m, hm⟩ := hjn.exists_of_le hkj
            rw [List.isEmpty_iff.mp hempty] at hlevel
            exact nomatch (hlevel m).mpr hm
      · rw [List.mem_append, hlevel, ih fun m => mem_flatMap_childrenOf hlevel]
        constructor
        · rintro (hn | ⟨j, hkj, hj, hjn⟩)
          · exact ⟨k, Nat.le_refl k, by omega, hn⟩
          · exact ⟨j, by omega, by omega, hjn⟩
        · rintro ⟨j, hkj, hj, hjn⟩
          by_cases hk : j = k
          · subst hk
            exact Or.inl hjn
          · exact Or.inr ⟨j, by omega, by omega, hjn⟩

/-! ## Parents come first -/

/-- No test is met twice, and none before its parent. -/
structure ParentsFirst (tests : Tests) (order : List String) : Prop where
  pairwise : order.Pairwise fun a b => a ≠ b ∧ ¬ DependsOn tests a b
  not_self : ∀ a ∈ order, ¬ DependsOn tests a a

/-- From a level on, the walk meets deeper tests later. -/
theorem pairwise_levels {room k : Nat} {level : List String}
    (hlevel : ∀ m, m ∈ level ↔ AtDepth tests k m) (hnodup : level.Nodup) :
    (levels (childrenOf tests) room level).Pairwise
      fun a b => a ≠ b ∧ ¬ DependsOn tests a b := by
  induction room generalizing k level with
  | zero => exact List.Pairwise.nil
  | succ room ih =>
      rw [levels]
      split
      · exact List.Pairwise.nil
      · refine List.pairwise_append.mpr ⟨?_, ?_, ?_⟩
        · refine hnodup.imp_of_mem ?_
          intro a b ha hb hab
          refine ⟨hab, ?_⟩
          intro hdep
          -- a parent on the same level would have two depths
          have hdepth := (AtDepth.under hdep ((hlevel b).mp hb)).unique
            ((hlevel a).mp ha)
          omega
        · exact ih (fun m => mem_flatMap_childrenOf hlevel)
            (nodup_flatMap_childrenOf hnodup)
        · intro a ha b hb
          obtain ⟨j, hkj, -, hjb⟩ :=
            (mem_levels_iff fun m => mem_flatMap_childrenOf hlevel).mp hb
          have hka := (hlevel a).mp ha
          constructor
          · rintro rfl
            have := hka.unique hjb
            omega
          · intro hdep
            have := (AtDepth.under hdep hjb).unique hka
            omega

/-- The walk from the roots of the tests. -/
def walkOf (tests : Tests) : List String :=
  levels (childrenOf tests) tests.size (rootsOf tests)

/-- There is room in the walk for every test whose chain ends. -/
theorem mem_walkOf_iff : n ∈ walkOf tests ↔ ∃ k, AtDepth tests k n := by
  rw [walkOf, mem_levels_iff fun m => mem_rootsOf_iff]
  constructor
  · rintro ⟨k, -, -, hk⟩
    exact ⟨k, hk⟩
  · rintro ⟨k, hk⟩
    exact ⟨k, Nat.zero_le k, by rw [Nat.zero_add]; exact hk.lt_size, hk⟩

theorem parentsFirst_walkOf (tests : Tests) : ParentsFirst tests (walkOf tests) := by
  refine ⟨pairwise_levels (fun m => mem_rootsOf_iff) (nodup_rootsOf tests), ?_⟩
  intro a ha hself
  obtain ⟨k, hk⟩ := mem_walkOf_iff.mp ha
  exact hk.not_entersCycle
    ⟨a, Relation.ReflTransGen.refl, Relation.TransGen.single hself⟩

/-! ## Deciding along a walk -/

section Decisions

variable {α : Type} {f : NameMap α → String → Option α} {order : List String}

/-- Decides one test from what was decided before it. -/
def decideNext (f : NameMap α → String → Option α) (decided : NameMap α)
    (name : String) : NameMap α :=
  match f decided name with
  | none => decided
  | some v => decided.insert name v

/-- The decision for a test sees no other one than that for its parent. -/
def SeesParent (tests : Tests) (f : NameMap α → String → Option α) : Prop :=
  ∀ name decided decided',
    (∀ p, DependsOn tests name p → decided.get? p = decided'.get? p) →
    f decided name = f decided' name

theorem get?_decideNext_ne (decided : NameMap α) {name k : String} (h : k ≠ name) :
    (decideNext f decided name).get? k = decided.get? k := by
  rw [decideNext]
  cases f decided name with
  | none => rfl
  | some v => exact NameMap.get?_insert_ne _ _ h

theorem get?_decideNext_self {decided : NameMap α} {name : String}
    (h : decided.get? name = none) :
    (decideNext f decided name).get? name = f decided name := by
  rw [decideNext]
  cases f decided name with
  | none => exact h
  | some v => exact NameMap.get?_insert_self _ _ _

/-- Nothing is decided for a test that is not met. -/
theorem get?_foldl_decideNext_of_notMem {decided : NameMap α} (h : n ∉ order) :
    (order.foldl (decideNext f) decided).get? n = decided.get? n := by
  induction order generalizing decided with
  | nil => rfl
  | cons a rest ih =>
      rw [List.foldl_cons, ih (List.not_mem_of_not_mem_cons h)]
      exact get?_decideNext_ne decided (List.ne_of_not_mem_cons h)

/-- **THE DECISIONS ARE FINAL**: what was decided for a test is what the end
    result decides for it.  Its parent was met before it, and nothing met
    after it touches either. -/
theorem get?_foldl_decideNext_of_mem (hf : SeesParent tests f)
    {decided : NameMap α} (horder : ParentsFirst tests order)
    (hnew : ∀ a ∈ order, decided.get? a = none) (hn : n ∈ order) :
    (order.foldl (decideNext f) decided).get? n
      = f (order.foldl (decideNext f) decided) n := by
  induction order generalizing decided with
  | nil => exact nomatch hn
  | cons a rest ih =>
      obtain ⟨hafter, hrest⟩ := List.pairwise_cons.mp horder.pairwise
      rw [List.foldl_cons]
      rcases List.mem_cons.mp hn with rfl | hn
      -- the test is decided now, and nothing after it decides it or its parent
      · have hnotMem : n ∉ rest := fun h => (hafter n h).1 rfl
        rw [get?_foldl_decideNext_of_notMem hnotMem,
          get?_decideNext_self (hnew n List.mem_cons_self)]
        refine hf n _ _ ?_
        intro p hp
        have hpn : p ≠ n := by
          rintro rfl
          exact horder.not_self p List.mem_cons_self hp
        rw [get?_foldl_decideNext_of_notMem fun h => (hafter p h).2 hp,
          get?_decideNext_ne decided hpn]
      · refine ih ⟨hrest, ?_⟩ ?_ hn
        · intro b hb
          exact horder.not_self b (List.mem_cons_of_mem _ hb)
        · intro b hb
          rw [get?_decideNext_ne decided (hafter b hb).1.symm]
          exact hnew b (List.mem_cons_of_mem _ hb)

end Decisions

end Cohort
