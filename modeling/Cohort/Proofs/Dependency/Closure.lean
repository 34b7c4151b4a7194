import Mathlib.Order.Bounds.Basic
import Cohort.Proofs.Dependency.Exactness

/-! # The closure under parents

    To gather the tests above a test, a loop climbs from parent to parent and
    takes every test in, and it leaves off at the first one that is there
    already.  It has no bound of its own: that it comes to an end, on a cycle
    too, is because each step takes in a test that was missing.  What it leaves
    off at is already closed, or closes with what was just taken in.  So all
    that is gathered is the least set with the given tests and the parents of
    its tests. -/

namespace Cohort

variable {tests : Tests} {names names' : List String} {found result : NameSet}
  {next : Option String} {n : String}

/-! ## The loop without a bound -/

/-- From what was found and the test to go on with, the loop ends with what it has found then. -/
inductive Climbs (tests : Tests) : NameSet → Option String → NameSet → Prop where
  | ended {found : NameSet} : Climbs tests found none found
  | met {found : NameSet} {name : String} : name ∈ found → Climbs tests found (some name) found
  | on {found result : NameSet} {name : String} : name ∉ found →
      Climbs tests (found.insert name) (parentAmong tests name) result →
      Climbs tests found (some name) result

/-- The loop is run from each of the names that is a test, one after the other. -/
inductive ClimbsEach (tests : Tests) : List String → NameSet → NameSet → Prop where
  | done {found : NameSet} : ClimbsEach tests [] found found
  | unknown {name : String} {names : List String} {found result : NameSet} :
      tests.contains name = false → ClimbsEach tests names found result →
      ClimbsEach tests (name :: names) found result
  | test {name : String} {names : List String} {found between result : NameSet} :
      tests.contains name = true → Climbs tests found (some name) between →
      ClimbsEach tests names between result → ClimbsEach tests (name :: names) found result

theorem Climbs.unique {result' : NameSet} (h : Climbs tests found next result)
    (h' : Climbs tests found next result') : result = result' := by
  induction h generalizing result' with
  | ended => cases h' with
    | ended => rfl
  | met hin => cases h' with
    | met _ => rfl
    | on hout _ => exact absurd hin hout
  | on hout _ ih => cases h' with
    | met hin => exact absurd hin hout
    | on _ hrest => exact ih hrest

theorem ClimbsEach.unique {result' : NameSet} (h : ClimbsEach tests names found result)
    (h' : ClimbsEach tests names found result') : result = result' := by
  induction h generalizing result' with
  | done => cases h' with
    | done => rfl
  | unknown hno _ ih => cases h' with
    | unknown _ hrest => exact ih hrest
    | test hyes _ _ => exact absurd (hno.symm.trans hyes) Bool.false_ne_true
  | test hyes hclimbs _ ih => cases h' with
    | unknown hno _ => exact absurd (hno.symm.trans hyes) Bool.false_ne_true
    | test _ hclimbs' hrest =>
        obtain rfl := hclimbs.unique hclimbs'
        exact ih hrest

/-- **THE LOOP ENDS**: there is room for the tests that are not found yet, and each step takes one
    of them in, so it is never the room that ends it. -/
theorem climbs_addChain {room : Nat} (h : Gathering tests found next)
    (hroom : tests.size ≤ found.size + room) :
    Climbs tests found next (addChain tests room found next) := by
  induction room generalizing found next with
  | zero =>
      -- all tests are found, the next one included
      cases next with
      | none => exact .ended
      | some name => exact .met (h.mem_of_size_le hroom (h.next_test name rfl))
  | succ room ih =>
      cases next with
      | none => exact .ended
      | some name =>
          rw [addChain]
          by_cases hname : name ∈ found
          · rw [if_pos (NameSet.contains_iff.mpr hname)]
            exact .met hname
          · rw [if_neg (fun hin => hname (NameSet.contains_iff.mp hin))]
            exact .on hname (ih h.insert (by rw [NameSet.size_insert hname]; omega))

private theorem climbsEach_foldl (hfound : ∀ m ∈ found, tests.contains m = true)
    (hclosed : ParentClosed tests found) :
    ClimbsEach tests names found (names.foldl (fun found name =>
      if tests.contains name then addChain tests tests.size found (some name)
      else found) found) := by
  induction names generalizing found with
  | nil => exact .done
  | cons name names ih =>
      rw [List.foldl_cons]
      cases hname : tests.contains name with
      | false => exact .unknown hname (ih hfound hclosed)
      | true =>
          have hstart : Gathering tests found (some name) := by
            refine ⟨hfound, ?_, fun m hm p hp => Or.inl (hclosed m hm p hp)⟩
            rintro x ⟨⟩
            exact hname
          have hroom := Nat.le_add_left tests.size found.size
          have hgathers := gathers_addChain hstart hroom
          exact .test hname (climbs_addChain hstart hroom)
            (ih (hgathers.contains hfound) hgathers.closed)

theorem climbsEach_withDependencies (tests : Tests) (names : List String) :
    ClimbsEach tests names NameSet.empty (withDependencies tests names) :=
  climbsEach_foldl (fun _ hm => absurd hm (NameSet.not_mem_empty _))
    (fun _ hm => absurd hm (NameSet.not_mem_empty _))

/-! ## The least closed set -/

/-- The set has those of the names that are tests, and with each test its parent, if that is a
    test. -/
structure ClosesOver (tests : Tests) (names : List String) (s : Set String) : Prop where
  named : ∀ n ∈ names, tests.contains n = true → n ∈ s
  parent : ∀ n ∈ s, ∀ p, DependsOn tests n p → tests.contains p = true → p ∈ s

theorem closesOver_withDependencies (tests : Tests) (names : List String) :
    ClosesOver tests names {n | n ∈ withDependencies tests names} := by
  constructor
  · intro n hn hin
    exact mem_withDependencies_iff.mpr ⟨hin, n, hn, Relation.ReflTransGen.refl⟩
  · intro n hn p hp hin
    obtain ⟨-, x, hx, hchain⟩ := mem_withDependencies_iff.mp hn
    exact mem_withDependencies_iff.mpr ⟨hin, x, hx, hchain.tail hp⟩

/-- A closed set has the tests of the chains that begin in it. -/
theorem ClosesOver.of_onChain {s : Set String} (h : ClosesOver tests names s) {x : String}
    (hx : x ∈ names) (hchain : OnChain tests x n) (hn : tests.contains n = true) : n ∈ s := by
  induction hchain with
  | refl => exact h.named x hx hn
  | tail _ hstep ih => exact h.parent _ (ih hstep.contains) _ hstep hn

theorem isLeast_withDependencies (tests : Tests) (names : List String) :
    IsLeast {s | ClosesOver tests names s} {n | n ∈ withDependencies tests names} := by
  refine ⟨closesOver_withDependencies tests names, ?_⟩
  intro s hs n hn
  obtain ⟨hin, x, hx, hchain⟩ := mem_withDependencies_iff.mp hn
  exact hs.of_onChain hx hchain hin

/-- What is closed gathers nothing more. -/
theorem withDependencies_toList (tests : Tests) (names : List String) :
    withDependencies tests (withDependencies tests names).toList
      = withDependencies tests names := by
  refine NameSet.ext_mem fun n => ?_
  rw [mem_withDependencies_iff, mem_withDependencies_iff]
  constructor
  · rintro ⟨hn, x, hx, hchain⟩
    obtain ⟨-, y, hy, hup⟩ := mem_withDependencies_iff.mp hx
    exact ⟨hn, y, hy, hup.trans hchain⟩
  · rintro ⟨hn, y, hy, hchain⟩
    have hmem : n ∈ withDependencies tests names :=
      mem_withDependencies_iff.mpr ⟨hn, y, hy, hchain⟩
    exact ⟨hn, n, hmem, Relation.ReflTransGen.refl⟩

/-- **THE DEPENDENCY CLOSURE**: for any tests, cycles among them or not, and any names, the loops
    over the names end, and end with the tests that are computed.  They are the least set with
    those names that are tests and with the parent of each test in it that has one; none that is
    above a name is lost, though a loop leaves off where it meets one that is there.  The order of
    the names and repetitions do not matter, and from the set itself nothing more is gathered. -/
theorem withDependencies_is_closure (tests : Tests) (names : List String) :
    (∀ result, ClimbsEach tests names NameSet.empty result ↔
      result = withDependencies tests names) ∧
    IsLeast {s | ClosesOver tests names s} {n | n ∈ withDependencies tests names} ∧
    (∀ x ∈ names, ∀ n, OnChain tests x n → tests.contains n = true →
      n ∈ withDependencies tests names) ∧
    (∀ names', (∀ x, x ∈ names ↔ x ∈ names') →
      withDependencies tests names' = withDependencies tests names) ∧
    withDependencies tests (withDependencies tests names).toList
      = withDependencies tests names := by
  have hclimbs := climbsEach_withDependencies tests names
  refine ⟨?_, isLeast_withDependencies tests names, ?_, ?_, withDependencies_toList tests names⟩
  · intro result
    constructor
    · exact fun h => h.unique hclimbs
    · rintro rfl
      exact hclimbs
  · intro x hx n hchain hn
    exact mem_withDependencies_iff.mpr ⟨hn, x, hx, hchain⟩
  · intro names' hsame
    exact (withDependencies_congr hsame).symm

/-- The loop at the test that depends on itself ends, a child brings its parent, and a name of no
    test brings nothing; shuffled and repeated, the names gather the same. -/
theorem loop_and_child_are_gathered :
    let names := ["tail", "gone", "child"]
    (OnChain thicket "child" "parent" ∧ thicket.contains "parent" = true ∧
      "parent" ∈ withDependencies thicket names) ∧
    ((∀ x, x ∈ names ↔ x ∈ ["child", "tail", "child", "gone"]) ∧
      withDependencies thicket ["child", "tail", "child", "gone"]
        = withDependencies thicket names) ∧
    (withDependencies thicket names).toList = ["child", "loop", "parent", "tail"] := by
  intro names
  obtain ⟨-, -, hchain, hshuffled, -⟩ := withDependencies_is_closure thicket names
  have hup : OnChain thicket "child" "parent" := Relation.ReflTransGen.single ⟨_, rfl, rfl⟩
  have hsame : ∀ x, x ∈ names ↔ x ∈ ["child", "tail", "child", "gone"] := by
    intro x
    simp only [names, List.mem_cons, List.not_mem_nil, or_false]
    tauto
  refine ⟨⟨hup, by decide +kernel, ?_⟩, ⟨hsame, hshuffled _ hsame⟩, by decide +kernel⟩
  exact hchain "child" (by decide) "parent" hup (by decide +kernel)

end Cohort
