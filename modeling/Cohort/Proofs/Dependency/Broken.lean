import Cohort.Proofs.Dependency.Walk

/-! # Broken dependencies

    The search for broken dependencies judges one test after the other on a
    walk from the roots, and says of every test the walk never meets that it
    hangs on a cycle.  What it finds for a test whose chain ends solves one
    equation, in which only its parent occurs, so the chain of a test decides
    what is found wrong with it. -/

namespace Cohort

variable {tests : Tests} {invalid : NameSet} {n : String}

/-- What is found wrong with a test, given what is found wrong with the others. -/
def brokenBy (tests : Tests) (invalid : NameSet) (reasons : NameMap BrokenDependency)
    (test : String) : Option BrokenDependency :=
  match tests.get? test with
  | none => none
  | some d => match ownBrokenDependency tests d with
    | some reason => some reason
    | none =>
        if d.parentName?.any fun parent => reasons.contains parent || invalid.contains parent
        then some .invalidAncestor
        else none

/-- A judgement is a decision that sees no other test than the parent. -/
theorem judge_eq_decideNext (tests : Tests) (invalid : NameSet) :
    judge tests invalid = decideNext (brokenBy tests invalid) := by
  funext reasons test
  rw [judge, decideNext, brokenBy]
  cases tests.get? test with
  | none => rfl
  | some d =>
      cases hown : ownBrokenDependency tests d with
      | some reason => simp only [hown]
      | none =>
          simp only [hown]
          split
          · rfl
          · rfl

/-- The parent is the only other test that is looked at, and all that matters is
    whether it is known to be bad. -/
theorem brokenBy_congr {invalid' : NameSet} {reasons reasons' : NameMap BrokenDependency}
    {test : String}
    (h : ∀ p, DependsOn tests test p →
      (reasons.contains p || invalid.contains p)
        = (reasons'.contains p || invalid'.contains p)) :
    brokenBy tests invalid reasons test = brokenBy tests invalid' reasons' test := by
  simp only [brokenBy]
  cases hd : tests.get? test with
  | none => rfl
  | some d =>
      cases hp : d.parentName? with
      | none => simp only [hp, Option.any_none]
      | some p =>
          simp only [hp, Option.any_some, h p ((dependsOn_iff_of_get? hd).mpr hp)]

theorem seesParent_brokenBy (tests : Tests) (invalid : NameSet) :
    SeesParent tests (brokenBy tests invalid) :=
  fun _ _ _ h => brokenBy_congr fun p hp => by
    rw [NameMap.contains, NameMap.contains, h p hp]

/-- The reasons found on the walk. -/
def walkReasons (tests : Tests) (invalid : NameSet) : NameMap BrokenDependency :=
  (walkOf tests).foldl (decideNext (brokenBy tests invalid)) NameMap.empty

/-- The walk decides for the tests it meets, and the others hang on a cycle. -/
theorem get?_brokenDependencies (tests : Tests) (invalid : NameSet) (n : String) :
    (brokenDependencies tests invalid).get? n
      = if tests.contains n = true ∧ n ∉ walkOf tests then some .circular
        else (walkReasons tests invalid).get? n := by
  show (List.foldl _ ((walkOf tests).foldl (judge tests invalid) NameMap.empty)
    (tests.names.filter fun name => !(walkOf tests).contains name)).get? n = _
  rw [NameMap.get?_foldl_insert, judge_eq_decideNext]
  have hmem : n ∈ tests.names.filter (fun name => !(walkOf tests).contains name)
      ↔ tests.contains n = true ∧ n ∉ walkOf tests := by
    rw [List.mem_filter, NameMap.mem_names_iff]
    simp
  rw [if_congr hmem rfl rfl]
  rfl

/-- **ON A CYCLE OR UNDER ONE**: the test is said to hang on a cycle. -/
theorem get?_brokenDependencies_of_entersCycle (hn : tests.contains n = true)
    (h : EntersCycle tests n) :
    (brokenDependencies tests invalid).get? n = some .circular := by
  have hnot : n ∉ walkOf tests := by
    intro hwalk
    obtain ⟨k, hk⟩ := mem_walkOf_iff.mp hwalk
    exact hk.not_entersCycle h
  rw [get?_brokenDependencies, if_pos ⟨hn, hnot⟩]

/-- Nothing is found wrong with a name of no test. -/
theorem get?_brokenDependencies_of_missing (hn : tests.contains n = false) :
    (brokenDependencies tests invalid).get? n = none := by
  rw [get?_brokenDependencies, if_neg (by rw [hn]; exact fun h => nomatch h.1)]
  refine (get?_foldl_decideNext_of_notMem ?_).trans (NameMap.get?_empty n)
  intro hwalk
  obtain ⟨k, hk⟩ := mem_walkOf_iff.mp hwalk
  rw [hk.contains] at hn
  exact nomatch hn

/-- For a test that is met, or that is none, the walk decides. -/
theorem get?_brokenDependencies_of_walk (h : tests.contains n = true → n ∈ walkOf tests) :
    (brokenDependencies tests invalid).get? n = (walkReasons tests invalid).get? n := by
  rw [get?_brokenDependencies, if_neg]
  rintro ⟨hn, hnot⟩
  exact hnot (h hn)

/-- **THE EQUATION OF THE SEARCH**: what is found wrong with a test whose chain
    ends follows from what is found wrong with its parent. -/
theorem get?_brokenDependencies_of_atDepth {k : Nat} (hk : AtDepth tests k n) :
    (brokenDependencies tests invalid).get? n
      = brokenBy tests invalid (brokenDependencies tests invalid) n := by
  have hn := mem_walkOf_iff.mpr ⟨k, hk⟩
  rw [get?_brokenDependencies_of_walk fun _ => hn]
  refine (get?_foldl_decideNext_of_mem (seesParent_brokenBy tests invalid)
    (parentsFirst_walkOf tests) (fun _ _ => NameMap.get?_empty _) hn).trans ?_
  -- the parent is met too, or it is no test: its reasons are those of the walk
  refine seesParent_brokenBy tests invalid n _ _ ?_
  intro p hp
  refine (get?_brokenDependencies_of_walk ?_).symm
  intro hin
  obtain ⟨j, -, hj⟩ := hk.parent hp hin
  exact mem_walkOf_iff.mpr ⟨j, hj⟩

/-- **THE CHAIN DECIDES**: what is found wrong with a test follows from which tests
    of its chain are invalid.  Which others are does not matter. -/
theorem get?_brokenDependencies_congr {invalid' : NameSet}
    (h : ∀ m, OnChain tests n m → invalid.contains m = invalid'.contains m) :
    (brokenDependencies tests invalid).get? n
      = (brokenDependencies tests invalid').get? n := by
  cases hn : tests.contains n with
  | false =>
      rw [get?_brokenDependencies_of_missing hn, get?_brokenDependencies_of_missing hn]
  | true =>
      by_cases hcycle : EntersCycle tests n
      · rw [get?_brokenDependencies_of_entersCycle hn hcycle,
          get?_brokenDependencies_of_entersCycle hn hcycle]
      · obtain ⟨k, hk⟩ := exists_depth_iff.mpr ⟨hn, hcycle⟩
        -- by depth: the parent is found to be broken by both searches or by neither
        induction k using Nat.strongRecOn generalizing n with
        | _ k ih =>
            rw [get?_brokenDependencies_of_atDepth hk, get?_brokenDependencies_of_atDepth hk]
            refine brokenBy_congr ?_
            intro p hp
            have hstep := Relation.ReflTransGen.single hp
            have hreason : (brokenDependencies tests invalid).contains p
                = (brokenDependencies tests invalid').contains p := by
              rw [NameMap.contains, NameMap.contains]
              cases hin : tests.contains p with
              | false =>
                  rw [get?_brokenDependencies_of_missing hin,
                    get?_brokenDependencies_of_missing hin]
              | true =>
                  obtain ⟨j, rfl, hj⟩ := hk.parent hp hin
                  rw [ih j (Nat.lt_succ_self j) (fun m hm => h m (hm.head hp)) hin
                    hj.not_entersCycle hj]
            rw [hreason, h p hstep]

end Cohort
