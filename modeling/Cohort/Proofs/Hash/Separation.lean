import Mathlib.Data.Set.Function
import Cohort.Catalogue
import Cohort.Hash.Position
import Cohort.Proofs.Names
import Cohort.Proofs.Resolution.Locality
import Cohort.Proofs.Text.Search

/-! # What is hashed for different tests

    If two tests hashed the same text for different identities, or for the same
    one, their groups would go together, and nobody would see it.  The text is
    put together of three parts of any length, with one separator between the
    first and the second and none behind it.  That is enough to keep tests
    apart: no name has a separator in it, so the first separator ends the name,
    and no name starts like a linked salt. -/

namespace Cohort

namespace Hash

variable {test test' salt salt' identity identity' : String}

/-! ## Linked salts -/

/-- The salt links all tests that have it. -/
def Linked (salt : String) : Prop :=
  Text.startsWith ['&'] salt.toList = true

instance (salt : String) : Decidable (Linked salt) :=
  inferInstanceAs (Decidable (Text.startsWith ['&'] salt.toList = true))

theorem Linked.head? (h : Linked salt) : salt.toList.head? = some '&' := by
  obtain ⟨rest, hrest⟩ := Text.startsWith_iff.mp h
  rw [← hrest]
  rfl

/-- A linked salt is hashed without the name. -/
theorem input_of_linked (h : Linked salt) (test identity : String) :
    input test salt identity = salt ++ identity := by
  have hsalt : saltText test salt = salt := if_pos h
  rw [input, hsalt]

/-- Any other salt stands behind the name and a separator. -/
theorem toList_input (h : ¬ Linked salt) (test identity : String) :
    (input test salt identity).toList = test.toList ++ '|' :: (salt ++ identity).toList := by
  have hsalt : saltText test salt = test ++ "|" ++ salt := if_neg h
  rw [input, hsalt]
  simp only [String.toList_append, List.append_assoc]
  rfl

/-! ## Names -/

/-- Neither a separator nor the sign of a linked salt is in a name. -/
theorem ne_of_mem_name {name : List Char} (h : Catalogue.isTestName name = true) {c : Char}
    (hc : c ∈ name) : c ≠ '|' ∧ c ≠ '&' := by
  have hletter := Catalogue.nameChar_of_isTestName h hc
  constructor
  · rintro rfl
    exact absurd hletter (by decide)
  · rintro rfl
    exact absurd hletter (by decide)

theorem exists_head_of_name {name : List Char} (h : Catalogue.isTestName name = true) :
    ∃ c, name.head? = some c ∧ c ≠ '&' := by
  obtain ⟨c, cs, rfl⟩ := List.exists_cons_of_ne_nil (Catalogue.ne_nil_of_isTestName h)
  exact ⟨c, rfl, (ne_of_mem_name h List.mem_cons_self).2⟩

/-- The first separator of a text parts it in one way only. -/
theorem append_cons_inj_of_ne {α : Type} {a : α} {u v x y : List α} (hu : ∀ c ∈ u, c ≠ a)
    (hv : ∀ c ∈ v, c ≠ a) (h : u ++ a :: x = v ++ a :: y) : u = v ∧ x = y := by
  induction u generalizing v with
  | nil =>
      cases v with
      | nil => exact ⟨rfl, (List.cons.inj h).2⟩
      | cons d v => exact absurd (List.cons.inj h).1.symm (hv d List.mem_cons_self)
  | cons c u ih =>
      cases v with
      | nil => exact absurd (List.cons.inj h).1 (hu c List.mem_cons_self)
      | cons d v =>
          obtain ⟨rfl, hrest⟩ := List.cons.inj h
          obtain ⟨rfl, hxy⟩ := ih (fun e he => hu e (List.mem_cons_of_mem c he))
            (fun e he => hv e (List.mem_cons_of_mem c he)) hrest
          exact ⟨rfl, hxy⟩

/-! ## Inputs -/

/-- **THE FIRST SEPARATOR ENDS THE NAME**: where inputs of tests that are not linked agree, the
    tests are the same, and so is what stands behind the name. -/
theorem eq_of_input_eq (hname : Catalogue.isTestName test.toList = true)
    (hname' : Catalogue.isTestName test'.toList = true) (hsalt : ¬ Linked salt)
    (hsalt' : ¬ Linked salt') (h : input test salt identity = input test' salt' identity') :
    test = test' ∧ salt ++ identity = salt' ++ identity' := by
  have hchars := congrArg String.toList h
  rw [toList_input hsalt, toList_input hsalt'] at hchars
  obtain ⟨htest, hrest⟩ := append_cons_inj_of_ne
    (fun c hc => (ne_of_mem_name hname hc).1) (fun c hc => (ne_of_mem_name hname' hc).1) hchars
  exact ⟨String.toList_inj.mp htest, String.toList_inj.mp hrest⟩

/-- A linked input starts with a sign that no name starts with. -/
theorem input_ne_of_linked (hname : Catalogue.isTestName test.toList = true)
    (hsalt : ¬ Linked salt) (hsalt' : Linked salt') :
    input test salt identity ≠ input test' salt' identity' := by
  intro h
  have hhead := congrArg (fun s : String => s.toList.head?) h
  obtain ⟨c, hc, hne⟩ := exists_head_of_name hname
  simp only [toList_input hsalt, input_of_linked hsalt', String.toList_append,
    List.head?_append, hc, hsalt'.head?, Option.some_or] at hhead
  exact hne (Option.some.inj hhead)

end Hash

/-- The text that is hashed for an identity in a test of the artifact. -/
def Artifact.hashed? (a : Artifact) (test identity : String) : Option String :=
  (a.tests.get? test).map fun d => Hash.input test d.salt identity

/-- The artifact has the test, under a name as catalogues have them, and the test is not
    linked. -/
def Artifact.HasUnlinked (a : Artifact) (test : String) : Prop :=
  Catalogue.isTestName test.toList = true ∧
    ∃ d, a.tests.get? test = some d ∧ ¬ Hash.Linked d.salt

namespace Hash

/-- Within an artifact the name of a test decides its salt, so the identity is all that is left
    behind them. -/
theorem injOn_hashed? (a : Artifact) :
    Set.InjOn (fun e : String × String => a.hashed? e.1 e.2) {e | a.HasUnlinked e.1} := by
  rintro ⟨test, identity⟩ ⟨hname, d, hd, hsalt⟩ ⟨test', identity'⟩ ⟨hname', d', hd', hsalt'⟩ h
  simp only [Artifact.hashed?, hd, hd', Option.map_some, Option.some.injEq] at h
  obtain ⟨rfl, hrest⟩ := eq_of_input_eq hname hname' hsalt hsalt' h
  obtain rfl : d = d' := Option.some.inj (hd.symm.trans hd')
  have hidentity : identity = identity' := by
    rw [← String.toList_inj, String.toList_append, String.toList_append] at hrest
    exact String.toList_inj.mp (List.append_cancel_left hrest)
  rw [hidentity]

/-- **INPUTS STAY APART.** Whatever the salts and identities: inputs of tests that are not
    linked agree only for one test, with the same text behind its name; so within an artifact
    the test and the identity are known by the input.  No input of a linked test is one of a
    test that is not.  And tests that are linked by one salt put every identity at the same
    position, which is what they are linked for. -/
theorem inputs_stay_apart :
    (∀ test test' salt salt' identity identity' : String,
      Catalogue.isTestName test.toList = true → Catalogue.isTestName test'.toList = true →
      ¬ Linked salt → ¬ Linked salt' →
      input test salt identity = input test' salt' identity' →
      test = test' ∧ salt ++ identity = salt' ++ identity') ∧
    (∀ a : Artifact,
      Set.InjOn (fun e : String × String => a.hashed? e.1 e.2) {e | a.HasUnlinked e.1}) ∧
    (∀ test test' salt salt' identity identity' : String,
      Catalogue.isTestName test.toList = true → ¬ Linked salt → Linked salt' →
      input test salt identity ≠ input test' salt' identity') ∧
    (∀ test test' salt identity : String, Linked salt →
      input test salt identity = input test' salt identity ∧
      position test salt identity = position test' salt identity) := by
  refine ⟨?_, injOn_hashed?, ?_, ?_⟩
  · intro test test' salt salt' identity identity' hname hname' hsalt hsalt' h
    exact eq_of_input_eq hname hname' hsalt hsalt' h
  · intro test test' salt salt' identity identity' hname hsalt hsalt'
    exact input_ne_of_linked hname hsalt hsalt'
  · intro test test' salt identity hsalt
    have hinput : input test salt identity = input test' salt identity := by
      rw [input_of_linked hsalt, input_of_linked hsalt]
    refine ⟨hinput, ?_⟩
    show positionOf (input test salt identity) = positionOf (input test' salt identity)
    rw [hinput]

/-- A character moves from the salt to the identity and nothing changes, but only within one
    test; a separator in a salt is none; and linked tests stay together. -/
theorem trial_keeps_its_inputs :
    let a := Resolver.snapshot [("trial", Resolver.evenSplit "v|1" none),
      ("trial_v", Resolver.evenSplit "1" none)]
    (input "trial" "v" "1x" = input "trial" "v1" "x" ∧
      "trial" = "trial" ∧ "v" ++ "1x" = "v1" ++ "x") ∧
    (a.HasUnlinked "trial" ∧ a.HasUnlinked "trial_v" ∧
      a.hashed? "trial" "x" ≠ a.hashed? "trial_v" "x") ∧
    input "trial" "v" "x" ≠ input "other" "&v" "x" ∧
    position "trial" "&v" "x" = position "other" "&v" "x" := by
  intro a
  obtain ⟨hsame, hartifact, hlinked, htogether⟩ := inputs_stay_apart
  have hinput : input "trial" "v" "1x" = input "trial" "v1" "x" := by decide
  have htrial : a.HasUnlinked "trial" := ⟨by decide, Resolver.evenSplit "v|1" none, rfl, by decide⟩
  have hother : a.HasUnlinked "trial_v" := ⟨by decide, Resolver.evenSplit "1" none, rfl, by decide⟩
  refine ⟨⟨hinput, hsame _ _ _ _ _ _ (by decide) (by decide) (by decide) (by decide) hinput⟩,
    ⟨htrial, hother, ?_⟩, ?_, (htogether _ _ "&v" "x" (by decide)).2⟩
  · intro h
    have hpair := hartifact a (show a.HasUnlinked ("trial", "x").1 from htrial)
      (show a.HasUnlinked ("trial_v", "x").1 from hother) h
    exact absurd (congrArg Prod.fst hpair) (by decide)
  · exact hlinked _ _ _ _ _ _ (by decide) (by decide) (by decide)

end Hash

end Cohort
