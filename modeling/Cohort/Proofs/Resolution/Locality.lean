import Cohort.Pattern.Engine
import Cohort.Proofs.Resolution.Choices
import Cohort.Rule.Library.Standard

/-! # Resolution is local

    Two requests, of two artifacts, that both select a test and find the same
    chain of parents above it come to the same choice for it, as long as no
    test of that chain draws its positions.  The orders of the two requests
    may have nothing else in common; what carries the proof is that each of
    them meets the tests of the chain, parents first, if and only if the chain
    ends. -/

namespace Cohort.Resolver

open InSession

/-- No test of the chain draws its positions. -/
def FixedChain (tests : Tests) (test : String) : Prop :=
  ∀ m d, OnChain tests test m → tests.get? m = some d → d.isRandomized = false

theorem FixedChain.of_onChain {tests : Tests} {n m : String}
    (h : FixedChain tests n) (hm : OnChain tests n m) : FixedChain tests m :=
  fun q d hq hd => h q d (hm.trans hq) hd

/-- A test that was selected, or that a selected test depends on, directly or
    not. -/
def Needed (r : Resolver) (a : Artifact) (requested : Requested) (test : String) : Prop :=
  ∃ x ∈ r.selectedTests a requested, OnChain a.tests x test

section Needed

variable {r : Resolver} {a : Artifact} {requested : Requested} {n m : String}

theorem Needed.of_onChain (h : Needed r a requested n) (hm : OnChain a.tests n m) :
    Needed r a requested m := by
  obtain ⟨x, hx, hxn⟩ := h
  exact ⟨x, hx, hxn.trans hm⟩

/-- A needed test is met if its chain ends. -/
theorem Needed.mem_orderOf_iff (h : Needed r a requested n) :
    n ∈ r.orderOf a requested ↔ ∃ k, AtDepth a.tests k n := by
  rw [orderOf, mem_evaluationOrder_iff]
  exact and_iff_right h

/-- Nothing is chosen for a name of no test. -/
theorem get?_finalChoices_of_missing (ids : Identifiers) (context : Context)
    (force : ForceGroups) (draws : Draws) (h : a.tests.contains n = false) :
    (r.finalChoices a ids context force draws requested).get? n = none := by
  refine r.get?_finalChoices_of_notMem a ids context force draws requested ?_
  intro hn
  obtain ⟨-, k, hk⟩ := mem_evaluationOrder_iff.mp hn
  rw [hk.contains] at h
  exact nomatch h

end Needed

section TwoRuns

variable {r r' : Resolver} (hrules : SameRules r r') {a a' : Artifact} (ids : Identifiers)
  (context : Context) (force : ForceGroups) (draws draws' : Draws)
  {requested requested' : Requested} {n : String}

include hrules

/-- Both runs choose the same for a test whose chain ends. -/
theorem get?_finalChoices_of_atDepth {k : Nat} (hk : AtDepth a.tests k n)
    (hsame : SameChain a.tests a'.tests n) (hfixed : FixedChain a.tests n)
    (hneeded : Needed r a requested n) (hneeded' : Needed r' a' requested' n) :
    (r.finalChoices a ids context force draws requested).get? n
      = (r'.finalChoices a' ids context force draws' requested').get? n := by
  -- by depth: the gate of a test is opened by the choice for its parent
  induction hk with
  | @root n hin hend =>
      have hk := AtDepth.root hin hend
      rw [r.get?_finalChoices a ids context force draws requested
          (hneeded.mem_orderOf_iff.mpr ⟨0, hk⟩),
        r'.get?_finalChoices a' ids context force draws' requested'
          (hneeded'.mem_orderOf_iff.mpr ⟨0, hsame.atDepth hk⟩),
        ← hrules.choiceFor_eq]
      refine r.choiceFor_congr a ids context force draws hsame.get?_eq
        (Or.inr fun d => hfixed n d Relation.ReflTransGen.refl) ?_
      intro p hp
      -- the parent is no test in either artifact, so neither run chooses for it
      have hsamep := hsame.of_onChain (Relation.ReflTransGen.single hp)
      rw [get?_finalChoices_of_missing ids context force draws (hend p hp),
        get?_finalChoices_of_missing ids context force draws'
          (hsamep.contains_eq.symm.trans (hend p hp))]
  | @under n q k hq hdeep ih =>
      have hk := AtDepth.under hq hdeep
      rw [r.get?_finalChoices a ids context force draws requested
          (hneeded.mem_orderOf_iff.mpr ⟨k + 1, hk⟩),
        r'.get?_finalChoices a' ids context force draws' requested'
          (hneeded'.mem_orderOf_iff.mpr ⟨k + 1, hsame.atDepth hk⟩),
        ← hrules.choiceFor_eq]
      refine r.choiceFor_congr a ids context force draws hsame.get?_eq
        (Or.inr fun d => hfixed n d Relation.ReflTransGen.refl) ?_
      intro p hp
      obtain rfl := hq.unique hp
      have hstep := Relation.ReflTransGen.single hp
      exact ih (hsame.of_onChain hstep) (hfixed.of_onChain hstep)
        (hneeded.of_onChain hstep)
        (hneeded'.of_onChain (Relation.ReflTransGen.single (hsame.dependsOn_iff.mp hp)))

/-- **SAME CHAIN, SAME CHOICE**: a chain that enters a cycle is met by neither
    run, and along any other one both choose the same. -/
theorem get?_finalChoices_congr (hsame : SameChain a.tests a'.tests n)
    (hfixed : FixedChain a.tests n) (hneeded : Needed r a requested n)
    (hneeded' : Needed r' a' requested' n) :
    (r.finalChoices a ids context force draws requested).get? n
      = (r'.finalChoices a' ids context force draws' requested').get? n := by
  by_cases hends : ∃ k, AtDepth a.tests k n
  · obtain ⟨k, hk⟩ := hends
    exact get?_finalChoices_of_atDepth hrules ids context force draws draws' hk hsame hfixed
      hneeded hneeded'
  · have hends' : ¬ ∃ k, AtDepth a'.tests k n := by
      rintro ⟨k, hk⟩
      exact hends ⟨k, hsame.symm.atDepth hk⟩
    rw [r.get?_finalChoices_of_notMem a ids context force draws requested
        (mt hneeded.mem_orderOf_iff.mp hends),
      r'.get?_finalChoices_of_notMem a' ids context force draws' requested'
        (mt hneeded'.mem_orderOf_iff.mp hends')]

end TwoRuns

/-! ## Reports -/

/-- The bucket and the allocation id that a resolution reports for a test. -/
def reported (r : Resolver) (a : Artifact) (ids : Identifiers) (context : Context)
    (requested : Requested) (force : ForceGroups) (draws : Draws) (s : Session)
    (test : String) : Option Choice :=
  ((r.resolve a ids context requested force draws s).1.groups.get? test).map
    fun g => (g.bucket, g.allocationId)

theorem reported_eq (r : Resolver) (a : Artifact) (ids : Identifiers)
    (context : Context) (requested : Requested) (force : ForceGroups) (draws : Draws)
    (s : Session) (n : String) :
    r.reported a ids context requested force draws s n
      = if r.selects a requested n then
          (r.finalChoices a ids context force draws requested).get? n
        else none := by
  rw [reported, get?_groups]
  split
  · rw [Option.map_map]
    exact Option.map_id'
  · rfl

/-- A request for all tests is about each of them. -/
theorem selects_all {r : Resolver} {a : Artifact} {n : String}
    (hn : a.tests.contains n = true) : r.selects a .all n = true := by
  refine selects_iff.mpr ⟨rfl, ?_⟩
  exact NameMap.mem_nameSet.mpr hn

/-- A request for one test is about it. -/
theorem selects_singleton {r : Resolver} {a : Artifact} {n : String}
    (hn : a.tests.contains n = true) :
    r.selects a (.names (NameSet.ofList [n])) n = true := by
  refine selects_iff.mpr ⟨rfl, NameSet.mem_filter.mpr ⟨?_, ?_⟩⟩
  · exact NameMap.mem_nameSet.mpr hn
  · have hname : (NameSet.ofList [n]).contains n = true :=
      NameSet.contains_iff.mpr (NameSet.mem_ofList.mpr (List.mem_singleton_self n))
    rw [hname, Bool.true_or]

theorem needed_of_selects {r : Resolver} {a : Artifact} {requested : Requested}
    {n : String} (h : r.selects a requested n = true) : Needed r a requested n :=
  ⟨n, (selects_iff.mp h).2, Relation.ReflTransGen.refl⟩

/-- Both runs report the same for a test with the same chain. -/
theorem reported_congr (r : Resolver) {a a' : Artifact} (ids : Identifiers)
    (context : Context) (force : ForceGroups) (draws draws' : Draws)
    {requested requested' : Requested} {n : String}
    (hselected : r.selects a requested n = true)
    (hselected' : r.selects a' requested' n = true)
    (hsame : SameChain a.tests a'.tests n) (hfixed : FixedChain a.tests n)
    (s s' : Session) :
    r.reported a ids context requested force draws s n
      = r.reported a' ids context requested' force draws' s' n := by
  rw [reported_eq, reported_eq, hselected, hselected', if_pos rfl, if_pos rfl]
  exact get?_finalChoices_congr ⟨rfl, rfl⟩ ids context force draws draws' hsame hfixed
    (needed_of_selects hselected) (needed_of_selects hselected')

/-- Both runs of one request report the same group. -/
theorem get?_groups_congr (r : Resolver) {a a' : Artifact} (ids : Identifiers)
    (context : Context) (force : ForceGroups) (draws draws' : Draws)
    {requested : Requested} {n : String} (hselected : r.selects a requested n = true)
    (hsame : SameChain a.tests a'.tests n) (hfixed : FixedChain a.tests n)
    (s s' : Session) :
    (r.resolve a ids context requested force draws s).1.groups.get? n
      = (r.resolve a' ids context requested force draws' s').1.groups.get? n := by
  have hselected' : r.selects a' requested n = true := by
    rw [← r.selects_congr a requested hsame.get?_eq]
    exact hselected
  rw [get?_groups, get?_groups, hselected, hselected', if_pos rfl, if_pos rfl,
    r.groupOf_congr a requested hsame.get?_eq,
    get?_finalChoices_congr ⟨rfl, rfl⟩ ids context force draws draws' hsame hfixed
      (needed_of_selects hselected) (needed_of_selects hselected')]

/-- **RESOLUTION IS LOCAL**: what a selected test is resolved to follows from the
    tests of its chain.  No other test of an artifact and no other name of a
    request matters, and neither do the session and what is drawn.  So a
    request for all tests resolves each of them as a request for it alone.  Both
    runs have one library of functions, and so rules that ask for the time are
    told the same time in both. -/
theorem resolution_is_local (r : Resolver) (ids : Identifiers) (context : Context)
    (force : ForceGroups) (draws draws' : Draws) (s s' : Session) :
    (∀ (a a' : Artifact) (requested requested' : Requested) (n : String),
      r.selects a requested n = true → r.selects a' requested' n = true →
      SameChain a.tests a'.tests n → FixedChain a.tests n →
      r.reported a ids context requested force draws s n
        = r.reported a' ids context requested' force draws' s' n) ∧
    (∀ (a : Artifact) (n : String),
      a.tests.contains n = true → FixedChain a.tests n →
      r.reported a ids context .all force draws s n
        = r.reported a ids context (.names (NameSet.ofList [n])) force draws' s' n) := by
  constructor
  · intro a a' requested requested' n hselected hselected' hsame hfixed
    exact r.reported_congr ids context force draws draws' hselected hselected' hsame
      hfixed s s'
  · intro a n hn hfixed
    exact r.reported_congr ids context force draws draws' (selects_all hn)
      (selects_singleton hn) (fun _ _ => rfl) hfixed s s'

/-! ### A small family of tests -/

/-- A test that splits its users in two halves. -/
def evenSplit (salt : String) (dependsOn : Option Dependency) : Definition where
  version := "1"
  testType := .user
  salt := salt
  rule := none
  dependsOn := dependsOn
  buckets := [⟨"control", 0, none, none⟩, ⟨"active", 1, none, none⟩]
  allocations := [⟨none, [⟨0, 0.5⟩, ⟨1, 0.5⟩], "#A1", none⟩]
  constants := NameMap.empty
  specialConstants := NameMap.empty
  description := none
  silent := false
  metaTags := NameSet.empty
  dynamic := false
  evaluateForIncognitoUsers := false
  payloadExperimentConfig := none

/-- An artifact of these tests. -/
def snapshot (tests : List (String × Definition)) : Artifact :=
  ⟨⟨"1", 0, "author"⟩, NameMap.ofList tests⟩

/-- A test without a parent. -/
def parentTest : Definition := evenSplit "p" none

/-- A test for those whom the parent puts into its second bucket. -/
def childTest : Definition := evenSplit "c" (some ⟨"parent", 1⟩)

/-- A test whose rule cannot be read. -/
def strangerTest : Definition := { evenSplit "s" none with rule := some "&&" }

/-- A test and one below it. -/
def family : Artifact := snapshot [("parent", parentTest), ("child", childTest)]

/-- The family beside a stranger. -/
def crowd : Artifact :=
  snapshot [("parent", parentTest), ("child", childTest), ("stranger", strangerTest)]

section Family

variable {tests : Tests} (hparent : tests.get? "parent" = some parentTest)
  (hchild : tests.get? "child" = some childTest)

include hparent hchild

/-- The chain of the child ends with the parent. -/
theorem onChain_child {m : String} (h : OnChain tests "child" m) :
    m = "child" ∨ m = "parent" := by
  have hstep : DependsOn tests "child" "parent" := ⟨childTest, hchild, rfl⟩
  have hroot : ∀ p, ¬ DependsOn tests "parent" p := by
    intro p hp
    exact nomatch (dependsOn_iff_of_get? hparent).mp hp
  exact (OnChain.of_dependsOn hstep h).imp_right (OnChain.eq_of_no_parent hroot)

/-- Neither of the two draws its positions. -/
theorem fixedChain_child : FixedChain tests "child" := by
  intro m d hm hd
  rcases onChain_child hparent hchild hm with rfl | rfl
  · exact Option.some.inj (hchild.symm.trans hd) ▸ rfl
  · exact Option.some.inj (hparent.symm.trans hd) ▸ rfl

end Family

/-- The standard functions, with the engine for patterns, at a fixed time. -/
def plainLibrary : Rule.Library := Rule.Standard.library Pattern.Engine.library 0

/-- The rules of this resolver know the standard functions. -/
def plainResolver : Resolver := ⟨plainLibrary, DynamicFilters.none, none⟩

/-- Somebody whom the parent puts into its active bucket. -/
def visitor : Identifiers := Identifiers.none.insert .user "u6"

/-- The child is resolved alike beside a stranger and without one, asked for with
    all tests or by name. -/
theorem child_beside_stranger :
    (plainResolver.reported family visitor NameMap.empty
        (.names (NameSet.ofList ["child"])) ForceGroups.none (fun _ => 0.25)
        Session.fresh "child"
      = plainResolver.reported crowd visitor NameMap.empty .all ForceGroups.none
        (fun _ => 0.75) Session.fresh "child") ∧
    (plainResolver.reported family visitor NameMap.empty .all ForceGroups.none
        (fun _ => 0.25) Session.fresh "child"
      = plainResolver.reported family visitor NameMap.empty
        (.names (NameSet.ofList ["child"])) ForceGroups.none (fun _ => 0.75)
        Session.fresh "child") ∧
    (plainResolver.reported crowd visitor NameMap.empty .all ForceGroups.none
        (fun _ => 0.75) Session.fresh "child").map (·.1.name) = some "active" := by
  have hlocal := plainResolver.resolution_is_local visitor NameMap.empty
    ForceGroups.none (fun _ => 0.25) (fun _ => 0.75) Session.fresh Session.fresh
  have hsame : SameChain family.tests crowd.tests "child" := by
    intro m hm
    rcases onChain_child rfl rfl hm with rfl | rfl
    · rfl
    · rfl
  have hfixed : FixedChain family.tests "child" := fixedChain_child rfl rfl
  refine ⟨?_, ?_, ?_⟩
  · exact hlocal.1 _ _ _ _ _ (by decide +kernel) (by decide +kernel) hsame hfixed
  · exact hlocal.2 _ _ (by decide +kernel) hfixed
  · decide +kernel

end Cohort.Resolver
