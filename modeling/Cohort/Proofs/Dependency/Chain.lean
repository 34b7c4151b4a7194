import Mathlib.Logic.Relation
import Cohort.Proofs.Names
import Cohort.Dependency

/-! # Chains of parents

    Every test names one parent at most, so following parents from a test
    gives one chain.  It ends, at a test without a parent among the tests, or
    it runs into a cycle; there is no third way, because there are only
    finitely many tests.  A test whose chain ends has a depth: the number of
    steps to that end.  All that is proved about walks from the roots is
    proved by depth. -/

namespace Cohort

variable {tests part : Tests} {n m p : String} {d : Definition}

/-! ## Parents -/

/-- A test names another one as its parent, whether or not that one exists. -/
def DependsOn (tests : Tests) (test parent : String) : Prop :=
  ∃ d, tests.get? test = some d ∧ d.parentName? = some parent

/-- The second name lies on the chain of parents that begins with the first. -/
abbrev OnChain (tests : Tests) : String → String → Prop :=
  Relation.ReflTransGen (DependsOn tests)

/-- The chain of parents of a test runs into a cycle, which the test itself
    may be part of. -/
def EntersCycle (tests : Tests) (test : String) : Prop :=
  ∃ m, OnChain tests test m ∧ Relation.TransGen (DependsOn tests) m m

/-- A test has one parent at most. -/
theorem DependsOn.unique {q : String} (hp : DependsOn tests n p)
    (hq : DependsOn tests n q) : p = q := by
  obtain ⟨d, hd, hdp⟩ := hp
  obtain ⟨e, he, heq⟩ := hq
  obtain rfl : d = e := Option.some.inj (hd.symm.trans he)
  exact Option.some.inj (hdp.symm.trans heq)

theorem DependsOn.contains (h : DependsOn tests n p) : tests.contains n = true := by
  obtain ⟨d, hd, -⟩ := h
  exact NameMap.contains_iff.mpr ⟨d, hd⟩

theorem dependsOn_iff_of_get? (h : tests.get? n = some d) :
    DependsOn tests n p ↔ d.parentName? = some p := by
  constructor
  · rintro ⟨e, he, hp⟩
    obtain rfl : d = e := Option.some.inj (h.symm.trans he)
    exact hp
  · intro hp
    exact ⟨d, h, hp⟩

/-- The chain of a test goes on with that of its parent. -/
theorem OnChain.of_dependsOn (hp : DependsOn tests n p) (h : OnChain tests n m) :
    m = n ∨ OnChain tests p m := by
  rcases h.cases_head with rfl | ⟨q, hq, hqm⟩
  · exact Or.inl rfl
  · exact Or.inr (hp.unique hq ▸ hqm)

/-- The chain of a test without a parent holds no other test. -/
theorem OnChain.eq_of_no_parent (hno : ∀ p, ¬ DependsOn tests n p)
    (h : OnChain tests n m) : m = n := by
  rcases h.cases_head with rfl | ⟨p, hp, -⟩
  · rfl
  · exact absurd hp (hno p)

/-- A cycle above the parent is a cycle above the test. -/
theorem EntersCycle.of_parent (hp : DependsOn tests n p)
    (h : EntersCycle tests p) : EntersCycle tests n := by
  obtain ⟨m, hm, hcycle⟩ := h
  exact ⟨m, hm.head hp, hcycle⟩

/-- A cycle above a test is one above its parent: a test on a cycle has its
    parent on it. -/
theorem EntersCycle.parent (hp : DependsOn tests n p) (h : EntersCycle tests n) :
    EntersCycle tests p := by
  obtain ⟨m, hm, hcycle⟩ := h
  rcases OnChain.of_dependsOn hp hm with rfl | hpm
  · obtain ⟨q, hq, hqm⟩ := Relation.TransGen.head'_iff.mp hcycle
    exact ⟨m, hp.unique hq ▸ hqm, hcycle⟩
  · exact ⟨m, hpm, hcycle⟩

/-- The parent of a test, as the walks look it up. -/
theorem parentAmong_eq_some_iff :
    parentAmong tests n = some p ↔ DependsOn tests n p ∧ tests.contains p = true := by
  rw [parentAmong, Option.bind_eq_some_iff]
  constructor
  · rintro ⟨d, hd, hp⟩
    obtain ⟨hname, hin⟩ := Option.filter_eq_some_iff.mp hp
    exact ⟨⟨d, hd, hname⟩, hin⟩
  · rintro ⟨⟨d, hd, hname⟩, hin⟩
    exact ⟨d, hd, Option.filter_eq_some_iff.mpr ⟨hname, hin⟩⟩

/-! ## Depth -/

/-- The chain of a test ends after so many steps. -/
inductive AtDepth (tests : Tests) : Nat → String → Prop where
  | root {n : String} : tests.contains n = true →
      (∀ p, DependsOn tests n p → tests.contains p = false) →
      AtDepth tests 0 n
  | under {n p : String} {k : Nat} : DependsOn tests n p →
      AtDepth tests k p → AtDepth tests (k + 1) n

namespace AtDepth

variable {k j : Nat}

theorem contains (h : AtDepth tests k n) : tests.contains n = true := by
  cases h with
  | root hin _ => exact hin
  | under hp _ => exact hp.contains

/-- There is one depth at most. -/
theorem unique (h : AtDepth tests k n) (h' : AtDepth tests j n) : k = j := by
  induction h generalizing j with
  | root _ hend =>
      cases h' with
      | root _ _ => rfl
      | under hp hdeep =>
          have hno := hend _ hp
          rw [hdeep.contains] at hno
          exact nomatch hno
  | under hp hdeep ih =>
      cases h' with
      | root _ hend =>
          have hno := hend _ hp
          rw [hdeep.contains] at hno
          exact nomatch hno
      | under hq hdeep' =>
          obtain rfl := hp.unique hq
          rw [ih hdeep']

/-- A parent among the tests lies one step nearer to the end. -/
theorem parent (h : AtDepth tests k n) (hp : DependsOn tests n p)
    (hin : tests.contains p = true) : ∃ j, k = j + 1 ∧ AtDepth tests j p := by
  cases h with
  | root _ hend =>
      rw [hend p hp] at hin
      exact nomatch hin
  | under hq hdeep =>
      obtain rfl := hp.unique hq
      exact ⟨_, rfl, hdeep⟩

/-- Every smaller depth is taken by a test of the chain. -/
theorem exists_of_le (h : AtDepth tests k n) (hjk : j ≤ k) :
    ∃ m, AtDepth tests j m := by
  induction h with
  | root hin hend =>
      obtain rfl : j = 0 := Nat.le_zero.mp hjk
      exact ⟨_, root hin hend⟩
  | @under n p k hp hdeep ih =>
      by_cases hj : j = k + 1
      · subst hj
        exact ⟨n, under hp hdeep⟩
      · exact ih (by omega)

/-- A chain that ends enters no cycle. -/
theorem not_entersCycle (h : AtDepth tests k n) : ¬ EntersCycle tests n := by
  induction h with
  | @root n hin hend =>
      rintro ⟨m, hm, hcycle⟩
      -- the cycle would have to leave `n` by a parent that is no test
      have hleaves : ∃ p, DependsOn tests n p ∧ tests.contains p = true := by
        rcases hm.cases_head with rfl | ⟨p, hp, hpm⟩
        · obtain ⟨p, hp, hpn⟩ := Relation.TransGen.head'_iff.mp hcycle
          rcases hpn.cases_head with rfl | ⟨q, hq, -⟩
          · exact ⟨p, hp, hin⟩
          · exact ⟨p, hp, hq.contains⟩
        · rcases hpm.cases_head with rfl | ⟨q, hq, -⟩
          · obtain ⟨q, hq, -⟩ := Relation.TransGen.head'_iff.mp hcycle
            exact ⟨p, hp, hq.contains⟩
          · exact ⟨p, hp, hq.contains⟩
      obtain ⟨p, hp, hpin⟩ := hleaves
      rw [hend p hp] at hpin
      exact nomatch hpin
  | under hp _ ih => exact fun hcycle => ih (hcycle.parent hp)

/-- The chain of a test visits as many tests as there are depths up to its own. -/
theorem exists_path (h : AtDepth tests k n) :
    ∃ path : List String, path.length = k + 1 ∧ path.Nodup ∧
      ∀ x ∈ path, ∃ j, j ≤ k ∧ AtDepth tests j x := by
  induction h with
  | @root n hin hend =>
      refine ⟨[n], rfl, List.nodup_singleton n, ?_⟩
      intro x hx
      obtain rfl := List.mem_singleton.mp hx
      exact ⟨0, Nat.le_refl 0, root hin hend⟩
  | @under n p k hp hdeep ih =>
      obtain ⟨path, hlen, hnodup, hall⟩ := ih
      refine ⟨n :: path, by rw [List.length_cons, hlen], ?_, ?_⟩
      · refine List.nodup_cons.mpr ⟨?_, hnodup⟩
        intro hn
        -- the tests passed so far are not as deep
        obtain ⟨j, hj, hjn⟩ := hall n hn
        have := hjn.unique (under hp hdeep)
        omega
      · intro x hx
        rcases List.mem_cons.mp hx with rfl | hx
        · exact ⟨k + 1, Nat.le_refl _, under hp hdeep⟩
        · obtain ⟨j, hj, hjx⟩ := hall x hx
          exact ⟨j, Nat.le_succ_of_le hj, hjx⟩

/-- The tests of a chain that ends are distinct, so its depth is less than
    the number of tests. -/
theorem lt_size (h : AtDepth tests k n) : k < tests.size := by
  obtain ⟨path, hlen, hnodup, hall⟩ := h.exists_path
  have hsub : path ⊆ tests.names := by
    intro x hx
    obtain ⟨j, -, hjx⟩ := hall x hx
    exact NameMap.mem_names_iff.mpr hjx.contains
  have hle : path.length ≤ tests.names.length :=
    (List.subperm_of_subset hnodup hsub).length_le
  rw [hlen, NameMap.names, List.length_map] at hle
  exact hle

end AtDepth

/-- A chain ends or enters a cycle.  `path` holds the tests already passed;
    when it holds all of them the next one must be among them. -/
private theorem depth_or_cycle (tests : Tests) :
    ∀ (room : Nat) (path : List String) (n : String),
      tests.contains n = true → path.Nodup →
      (∀ x ∈ path, tests.contains x = true ∧ Relation.TransGen (DependsOn tests) x n) →
      tests.size ≤ path.length + room →
      (∃ k, AtDepth tests k n) ∨ EntersCycle tests n := by
  intro room
  induction room with
  | zero =>
      intro path n hn hnodup hpath hsize
      have hmem : n ∈ path :=
        NameMap.mem_of_size_le hnodup (fun x hx => (hpath x hx).1) hsize hn
      exact Or.inr ⟨n, Relation.ReflTransGen.refl, (hpath n hmem).2⟩
  | succ room ih =>
      intro path n hn hnodup hpath hsize
      by_cases hmem : n ∈ path
      · exact Or.inr ⟨n, Relation.ReflTransGen.refl, (hpath n hmem).2⟩
      -- a new test: its chain ends here, or goes on with the parent
      · by_cases hparent : ∃ p, DependsOn tests n p ∧ tests.contains p = true
        · obtain ⟨p, hp, hin⟩ := hparent
          have hnext := ih (n :: path) p hin (List.nodup_cons.mpr ⟨hmem, hnodup⟩)
            (by
              intro x hx
              rcases List.mem_cons.mp hx with rfl | hx
              · exact ⟨hn, Relation.TransGen.single hp⟩
              · exact ⟨(hpath x hx).1, (hpath x hx).2.tail hp⟩)
            (by rw [List.length_cons]; omega)
          rcases hnext with ⟨k, hk⟩ | hcycle
          · exact Or.inl ⟨k + 1, AtDepth.under hp hk⟩
          · exact Or.inr (EntersCycle.of_parent hp hcycle)
        · refine Or.inl ⟨0, AtDepth.root hn ?_⟩
          intro p hp
          rw [← Bool.not_eq_true]
          exact fun hin => hparent ⟨p, hp, hin⟩

/-- **TWO KINDS OF TESTS**: those with a depth, and those whose chain enters a
    cycle. -/
theorem exists_depth_iff :
    (∃ k, AtDepth tests k n) ↔ tests.contains n = true ∧ ¬ EntersCycle tests n := by
  constructor
  · rintro ⟨k, hk⟩
    exact ⟨hk.contains, hk.not_entersCycle⟩
  · rintro ⟨hn, hno⟩
    have hcases := depth_or_cycle tests tests.size [] n hn
      List.nodup_nil (fun x hx => nomatch hx) (by rw [List.length_nil]; omega)
    exact hcases.resolve_right hno

/-! ## The same chain in other tests -/

/-- The tests of a chain, and the name it ends with, are the same among other
    tests. -/
def SameChain (tests tests' : Tests) (test : String) : Prop :=
  ∀ m, OnChain tests test m → tests.get? m = tests'.get? m

namespace SameChain

variable {tests' : Tests}

theorem get?_eq (h : SameChain tests tests' n) : tests.get? n = tests'.get? n :=
  h n Relation.ReflTransGen.refl

theorem contains_eq (h : SameChain tests tests' n) :
    tests.contains n = tests'.contains n :=
  congrArg Option.isSome h.get?_eq

theorem dependsOn_iff (h : SameChain tests tests' n) :
    DependsOn tests n p ↔ DependsOn tests' n p := by
  simp only [DependsOn]
  rw [h.get?_eq]

/-- A chain is the same from each of its tests on. -/
theorem of_onChain (h : SameChain tests tests' n) (hm : OnChain tests n m) :
    SameChain tests tests' m :=
  fun q hq => h q (hm.trans hq)

/-- Following the parents among the other tests leads along the same chain. -/
theorem onChain (h : SameChain tests tests' n) (hm : OnChain tests' n m) :
    OnChain tests n m := by
  induction hm with
  | refl => exact Relation.ReflTransGen.refl
  | tail _ hstep ih => exact ih.tail ((h.of_onChain ih).dependsOn_iff.mpr hstep)

theorem symm (h : SameChain tests tests' n) : SameChain tests' tests n :=
  fun m hm => (h m (h.onChain hm)).symm

/-- A chain ends after as many steps wherever it is found. -/
theorem atDepth {k : Nat} (h : SameChain tests tests' n) (hk : AtDepth tests k n) :
    AtDepth tests' k n := by
  induction hk with
  | root hin hend =>
      refine AtDepth.root (h.contains_eq ▸ hin) ?_
      intro p hp
      have hp := h.dependsOn_iff.mpr hp
      rw [← (h.of_onChain (Relation.ReflTransGen.single hp)).contains_eq]
      exact hend p hp
  | under hp _ ih =>
      exact AtDepth.under (h.dependsOn_iff.mp hp)
        (ih (h.of_onChain (Relation.ReflTransGen.single hp)))

end SameChain

/-! ## Closed parts

    A part of the tests that has the parent of each of its tests, when there
    is one, shows the same chains as the whole. -/

/-- The tests of a part are tests of the whole, and no parent is lost. -/
structure ClosedPart (part tests : Tests) : Prop where
  get? : ∀ {n d}, part.get? n = some d → tests.get? n = some d
  parent : ∀ {n p}, part.contains n = true → DependsOn tests n p →
    tests.contains p = true → part.contains p = true

namespace ClosedPart

theorem get?_eq (h : ClosedPart part tests) (hn : part.contains n = true) :
    part.get? n = tests.get? n := by
  obtain ⟨d, hd⟩ := NameMap.contains_iff.mp hn
  rw [hd, h.get? hd]

theorem dependsOn_iff (h : ClosedPart part tests) (hn : part.contains n = true) :
    DependsOn part n p ↔ DependsOn tests n p := by
  simp only [DependsOn]
  rw [h.get?_eq hn]

/-- A chain leaves the part only where it leaves the whole. -/
theorem contains_or_missing (h : ClosedPart part tests) (hn : part.contains n = true)
    (hm : OnChain part n m) : part.contains m = true ∨ tests.contains m = false := by
  cases hm with
  | refl => exact Or.inl hn
  | @tail q _ _ hstep =>
      have hq := hstep.contains
      cases hin : tests.contains m with
      | false => exact Or.inr rfl
      | true => exact Or.inl (h.parent hq ((h.dependsOn_iff hq).mp hstep) hin)

/-- The part shows the chains of its tests. -/
theorem sameChain (h : ClosedPart part tests) (hn : part.contains n = true) :
    SameChain part tests n := by
  intro m hm
  rcases h.contains_or_missing hn hm with hin | hout
  · exact h.get?_eq hin
  -- what is missing in the whole is missing in the part
  · have hnone := NameMap.contains_eq_false_iff.mp hout
    rw [hnone, ← Option.not_isSome_iff_eq_none, Option.isSome_iff_exists]
    rintro ⟨d, hd⟩
    exact nomatch (h.get? hd).symm.trans hnone

end ClosedPart

end Cohort
