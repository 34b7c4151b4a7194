import Cohort.Proofs.Dependency.Broken

/-! # Tests that can be served

    A test can be served when nothing is wrong with it, nothing is wrong
    between it and its parent, and the parent can be served.  The definition
    is inductive, so no test on a cycle or under one can be served.  One
    search for broken dependencies finds exactly the tests that cannot,
    whatever hangs on whatever else: the search needs no second round. -/

namespace Cohort

/-- The test, its dependency and all tests above it are in order.  `fine` says
    which definitions are, dependencies apart. -/
inductive Servable (fine : String → Definition → Prop) (tests : Tests) :
    String → Prop where
  | intro {n : String} {d : Definition} : tests.get? n = some d → fine n d →
      ownBrokenDependency tests d = none →
      (∀ p, d.parentName? = some p → Servable fine tests p) →
      Servable fine tests n

variable {fine : String → Definition → Prop} {tests tests' : Tests}
  {invalid : NameSet} {n : String} {d : Definition}

/-! ## Dependencies that are in order -/

/-- What is wrong between a test and its parent lies in their definitions. -/
theorem ownBrokenDependency_congr
    (h : ∀ p, d.parentName? = some p → tests.get? p = tests'.get? p) :
    ownBrokenDependency tests d = ownBrokenDependency tests' d := by
  simp only [ownBrokenDependency]
  cases hdep : d.dependsOn with
  | none => rfl
  | some dep =>
      have hparent := h dep.testName (by rw [Definition.parentName?, hdep]; rfl)
      simp only [hparent]

/-- A parent that is no test breaks the dependency. -/
theorem contains_of_ownBrokenDependency (h : ownBrokenDependency tests d = none)
    {p : String} (hp : d.parentName? = some p) : tests.contains p = true := by
  obtain ⟨dep, hdep, rfl⟩ := Option.map_eq_some_iff.mp hp
  rw [ownBrokenDependency, hdep] at h
  cases hparent : tests.get? dep.testName with
  | none =>
      simp only [hparent] at h
      exact nomatch h
  | some e => exact NameMap.contains_iff.mpr ⟨e, hparent⟩

/-- Nothing is found wrong with a test exactly when its own dependency is in order
    and its parent is neither broken nor invalid. -/
theorem brokenBy_eq_none_iff {reasons : NameMap BrokenDependency}
    (hd : tests.get? n = some d) :
    brokenBy tests invalid reasons n = none ↔
      ownBrokenDependency tests d = none ∧
        ∀ p, d.parentName? = some p → reasons.get? p = none ∧ p ∉ invalid := by
  rw [brokenBy]
  simp only [hd]
  cases ownBrokenDependency tests d with
  | some reason =>
      constructor
      · intro h
        cases h
      · rintro ⟨h, -⟩
        cases h
  | none =>
      -- the dependency itself is in order: only the parent can be wrong
      cases d.parentName? with
      | none =>
          constructor
          · intro _
            refine ⟨rfl, ?_⟩
            intro p hp
            cases hp
          · intro _
            rfl
      | some p =>
          show (if (reasons.contains p || invalid.contains p) = true then _ else _) = none
            ↔ _
          constructor
          · intro h
            split at h
            · cases h
            · next hno =>
                obtain ⟨hreason, hin⟩ :=
                  Bool.or_eq_false_iff.mp (Bool.not_eq_true _ ▸ hno)
                refine ⟨rfl, ?_⟩
                rintro _ ⟨⟩
                exact ⟨NameMap.contains_eq_false_iff.mp hreason,
                  NameSet.contains_eq_false_iff.mp hin⟩
          · rintro ⟨-, h⟩
            obtain ⟨hreason, hin⟩ := h p rfl
            rw [NameMap.contains_eq_false_iff.mpr hreason,
              NameSet.contains_eq_false_iff.mpr hin]
            rfl

/-! ## What serving means for a chain -/

namespace Servable

theorem contains (h : Servable fine tests n) : tests.contains n = true := by
  cases h with
  | intro hd _ _ _ => exact NameMap.contains_iff.mpr ⟨_, hd⟩

/-- The parent of a test that can be served can be served. -/
theorem parent {p : String} (h : Servable fine tests n) (hp : DependsOn tests n p) :
    Servable fine tests p := by
  cases h with
  | intro hd _ _ hparent => exact hparent p ((dependsOn_iff_of_get? hd).mp hp)

/-- The chain of a test that can be served ends. -/
theorem exists_depth (h : Servable fine tests n) : ∃ k, AtDepth tests k n := by
  induction h with
  | @intro n d hd _ hown _ ih =>
      cases hname : d.parentName? with
      | none =>
          refine ⟨0, AtDepth.root (NameMap.contains_iff.mpr ⟨d, hd⟩) ?_⟩
          intro p hp
          rw [dependsOn_iff_of_get? hd, hname] at hp
          exact nomatch hp
      | some p =>
          obtain ⟨k, hk⟩ := ih p hname
          exact ⟨k + 1, AtDepth.under ((dependsOn_iff_of_get? hd).mpr hname) hk⟩

/-- A test that can be served can also be served under a weaker notion of which
    definitions are in order. -/
theorem imp {fine' : String → Definition → Prop} (h : Servable fine tests n)
    (hfine : ∀ m d, tests.get? m = some d → fine m d → fine' m d) :
    Servable fine' tests n := by
  induction h with
  | @intro n d hd hd' hown _ ih => exact Servable.intro hd (hfine n d hd hd') hown ih

/-- What can be served in a part can be served in the whole. -/
theorem mono (h : Servable fine tests n)
    (hpart : ∀ m d, tests.get? m = some d → tests'.get? m = some d) :
    Servable fine tests' n := by
  induction h with
  | @intro n d hd hfine hown _ ih =>
      refine Servable.intro (hpart n d hd) hfine ?_ ih
      rw [← hown]
      refine ownBrokenDependency_congr ?_
      intro p hp
      obtain ⟨e, he⟩ := NameMap.contains_iff.mp (contains_of_ownBrokenDependency hown hp)
      rw [he, hpart p e he]

/-- What can be served can be served beside nothing else. -/
theorem alone (h : Servable fine tests n)
    (hpart : ∀ m, Servable fine tests m → tests'.get? m = tests.get? m) :
    Servable fine tests' n := by
  induction h with
  | @intro n d hd hfine hown hparent ih =>
      -- the tests above are in the part as well, since they can be served
      have hn := hpart n (Servable.intro hd hfine hown hparent)
      refine Servable.intro (hn.trans hd) hfine ?_ ih
      rw [← hown]
      exact ownBrokenDependency_congr fun p hp => hpart p (hparent p hp)

end Servable

/-- The dependencies along the chain of a test are in order, whatever its
    definitions are otherwise. -/
def DependenciesInOrder (tests : Tests) (test : String) : Prop :=
  Servable (fun _ _ => True) tests test

/-- Among definitions in order, only dependencies can keep a test from being
    served. -/
theorem servable_iff_dependenciesInOrder
    (hfine : ∀ m d, tests.get? m = some d → fine m d) :
    Servable fine tests n ↔ DependenciesInOrder tests n := by
  constructor
  · exact fun h => h.imp fun _ _ _ _ => trivial
  · exact fun h => h.imp fun m d hd _ => hfine m d hd

/-! ## The search finds them -/

/-- What is neither invalid nor found to be broken can be served. -/
theorem servable_of_not_broken
    (hinvalid : ∀ m d, tests.get? m = some d → (m ∈ invalid ↔ ¬ fine m d)) {k : Nat}
    (hk : AtDepth tests k n) (hn : n ∉ invalid)
    (hnone : (brokenDependencies tests invalid).get? n = none) :
    Servable fine tests n := by
  -- by depth: the parent is neither invalid nor broken either
  induction k using Nat.strongRecOn generalizing n with
  | _ k ih =>
      obtain ⟨d, hd⟩ := NameMap.contains_iff.mp hk.contains
      have hfine : fine n d := not_not.mp (mt (hinvalid n d hd).mpr hn)
      rw [get?_brokenDependencies_of_atDepth hk, brokenBy_eq_none_iff hd] at hnone
      obtain ⟨hown, hparents⟩ := hnone
      refine Servable.intro hd hfine hown ?_
      intro p hp
      obtain ⟨hreason, hin⟩ := hparents p hp
      obtain ⟨j, rfl, hj⟩ := hk.parent ((dependsOn_iff_of_get? hd).mpr hp)
        (contains_of_ownBrokenDependency hown hp)
      exact ih j (Nat.lt_succ_self j) hj hin hreason

/-- What can be served is neither invalid nor found to be broken. -/
theorem Servable.not_broken
    (hinvalid : ∀ m d, tests.get? m = some d → (m ∈ invalid ↔ ¬ fine m d))
    (h : Servable fine tests n) :
    n ∉ invalid ∧ (brokenDependencies tests invalid).get? n = none := by
  induction h with
  | @intro n d hd hfine hown hparent ih =>
      refine ⟨fun hn => (hinvalid n d hd).mp hn hfine, ?_⟩
      obtain ⟨k, hk⟩ := (Servable.intro hd hfine hown hparent).exists_depth
      rw [get?_brokenDependencies_of_atDepth hk, brokenBy_eq_none_iff hd]
      exact ⟨hown, fun p hp => ⟨(ih p hp).2, (ih p hp).1⟩⟩

/-- **ONE ROUND IS ENOUGH**: a test is neither invalid nor found to be broken
    exactly when it can be served. -/
theorem not_broken_iff_servable
    (hinvalid : ∀ m d, tests.get? m = some d → (m ∈ invalid ↔ ¬ fine m d))
    (hn : tests.contains n = true) :
    (n ∉ invalid ∧ (brokenDependencies tests invalid).get? n = none)
      ↔ Servable fine tests n := by
  constructor
  · rintro ⟨hvalid, hnone⟩
    have hends : ∃ k, AtDepth tests k n := by
      refine exists_depth_iff.mpr ⟨hn, ?_⟩
      intro hcycle
      rw [get?_brokenDependencies_of_entersCycle hn hcycle] at hnone
      exact nomatch hnone
    obtain ⟨k, hk⟩ := hends
    exact servable_of_not_broken hinvalid hk hvalid hnone
  · exact Servable.not_broken hinvalid

end Cohort
