import Cohort.Proofs.Selection.Verified

/-! # The first match decides

    Allocations are asked in their order, and those whose rules are false are
    passed over.  The first other one decides: with an error if its rule
    fails, and with its bucket at the position if its rule is true.  What
    stands behind it is never looked at, so two definitions that are the same
    up to there give the same. -/

namespace Cohort.Selection

open InSession Consistency

/-! ## The allocation that decides -/

/-- The allocation comes after others that are all passed over, and its own rule
    is true or fails. -/
structure Decides (l : Rule.Library) (scope : Rule.Scope) (earlier : List Allocation)
    (a : Allocation) : Prop where
  passesOver : PassesOver l scope earlier
  not_false : answer l scope a.rule ≠ .ok false

section Deciding

variable {l : Rule.Library} {scope : Rule.Scope} {earlier : List Allocation}
  {a : Allocation} (test : String)

/-- Of an append, a list that is passed over leaves the rest to be asked. -/
theorem PassesOver.value_matchAllocation_append (h : PassesOver l scope earlier)
    (index : Nat) (rest : List Allocation) :
    (matchAllocation l test scope index (earlier ++ rest)).value
      = (matchAllocation l test scope (index + earlier.length) rest).value := by
  induction earlier generalizing index with
  | nil => rfl
  | cons a earlier ih =>
      obtain ⟨ha, hearlier⟩ := List.forall_mem_cons.mp h
      have hindex : index + 1 + earlier.length = index + (a :: earlier).length := by
        rw [List.length_cons]
        omega
      rw [List.cons_append, value_matchAllocation_cons, ha, ← hindex]
      exact ih hearlier (index + 1)

/-- **NOTHING BEHIND IT MATTERS**: what the deciding allocation answers is what
    asking all of them comes to. -/
theorem Decides.value_matchAllocation (h : Decides l scope earlier a)
    (later : List Allocation) :
    (matchAllocation l test scope 0 (earlier ++ a :: later)).value
      = (answer l scope a.rule).map fun _ => some (earlier.length, a) := by
  rw [h.passesOver.value_matchAllocation_append, value_matchAllocation_cons,
    Nat.zero_add]
  cases ha : answer l scope a.rule with
  | error err => rfl
  | ok b =>
      cases b with
      | false => exact absurd ha h.not_false
      | true => rfl

variable {d : Definition} {identity : Option String} {context : Context}

/-- The deciding allocation decides on the selection, if the test applies. -/
theorem Decides.fst_select (h : Decides l (scopeOf d context) earlier a)
    {later : List Allocation} (hd : d.allocations = earlier ++ a :: later)
    (hid : Identified d identity) (hrule : answer l (scopeOf d context) d.rule = .ok true)
    (drawn : Float) (s : Session) :
    (select l test d identity context drawn s).1
      = (answer l (scopeOf d context) a.rule).map fun _ =>
          (bucketAt d a (d.position test identity drawn)).map
            fun b => ⟨a, earlier.length, b⟩ := by
  have hneeds : ¬ (d.testType.requiresIdentity && identity.isNone) = true :=
    Bool.eq_false_iff.mp ((identified_iff d identity).mp hid)
  rw [Selection.fst_select, if_neg hneeds, hrule, hd]
  dsimp only
  rw [h.value_matchAllocation test later]
  cases answer l (scopeOf d context) a.rule with
  | error err => rfl
  | ok b => rfl

end Deciding

/-! ## Two definitions -/

/-- In all that a selection reads, allocations apart, the definitions are the
    same. -/
structure SameButAllocations (d d' : Definition) : Prop where
  testType : d.testType = d'.testType
  salt : d.salt = d'.salt
  rule : d.rule = d'.rule
  constants : d.constants = d'.constants
  specialConstants : d.specialConstants = d'.specialConstants
  buckets : d.buckets = d'.buckets

namespace SameButAllocations

variable {d d' : Definition} (h : SameButAllocations d d')

include h

theorem scopeOf_eq (context : Context) : scopeOf d context = scopeOf d' context := by
  rw [scopeOf, scopeOf, h.constants, h.specialConstants]

theorem isRandomized_eq : d.isRandomized = d'.isRandomized := by
  rw [Definition.isRandomized, Definition.isRandomized, h.testType, h.salt]

theorem position_eq (test : String) (identity : Option String) (drawn : Float) :
    d.position test identity drawn = d'.position test identity drawn := by
  simp only [Definition.position, h.isRandomized_eq, h.salt]

theorem givenAt_eq (position : Float) : givenAt d position = givenAt d' position := by
  have hbucket : d.bucket? = d'.bucket? := by
    funext value
    rw [Definition.bucket?, Definition.bucket?, h.buckets]
  funext found
  rw [givenAt, givenAt]
  simp only [bucketAt, hbucket]

/-- **THE SAME UP TO THE DECISION**: whatever follows the deciding allocation of
    either definition, a request is given the same. -/
theorem fst_select_eq {l : Rule.Library} {context : Context} {earlier : List Allocation}
    {a : Allocation} (hdecides : Decides l (scopeOf d context) earlier a)
    {later later' : List Allocation} (hd : d.allocations = earlier ++ a :: later)
    (hd' : d'.allocations = earlier ++ a :: later') (hfixed : d.isRandomized = false)
    (test : String) (identity : Option String) (drawn drawn' : Float) (s s' : Session) :
    (select l test d identity context drawn s).1
      = (select l test d' identity context drawn' s').1 := by
  rw [select_drawn l test hfixed identity context drawn drawn', fst_select, fst_select,
    ← h.scopeOf_eq, ← h.testType, ← h.rule, ← h.position_eq, ← h.givenAt_eq, hd, hd',
    hdecides.value_matchAllocation, hdecides.value_matchAllocation]

end SameButAllocations

/-! ## First match wins -/

/-- **FIRST MATCH WINS**: a selection is of the first allocation whose rule is
    true, behind others whose rules are false.  If the test applies, the first
    rule that is not false decides: its error is the error of the selection, and
    where it is true the allocation gives its bucket at the position.  And two
    definitions that are the same up to the allocation that decides give every
    request the same, whatever follows. -/
theorem first_match_wins (l : Rule.Library) (test : String) (d : Definition)
    (identity : Option String) (context : Context) (drawn : Float) (s : Session) :
    let scope := scopeOf d context
    let outcome := (select l test d identity context drawn s).1
    (∀ given, outcome = .ok (some given) →
      (Rule.evaluate l d.rule scope).outcome = .ok true ∧
      ∃ earlier later, d.allocations = earlier ++ given.allocation :: later ∧
        given.index = earlier.length ∧
        (∀ a ∈ earlier, (Rule.evaluate l a.rule scope).outcome = .ok false) ∧
        (Rule.evaluate l given.allocation.rule scope).outcome = .ok true) ∧
    (∀ earlier a later, d.allocations = earlier ++ a :: later →
      (∀ b ∈ earlier, (Rule.evaluate l b.rule scope).outcome = .ok false) →
      Identified d identity → (Rule.evaluate l d.rule scope).outcome = .ok true →
      (∀ err, (Rule.evaluate l a.rule scope).outcome = .error err →
        outcome = .error err) ∧
      ((Rule.evaluate l a.rule scope).outcome = .ok true →
        outcome = .ok ((bucketAt d a (d.position test identity drawn)).map
          fun b => ⟨a, earlier.length, b⟩))) ∧
    (∀ d' earlier a later later', SameButAllocations d d' →
      d.allocations = earlier ++ a :: later → d'.allocations = earlier ++ a :: later' →
      (∀ b ∈ earlier, (Rule.evaluate l b.rule scope).outcome = .ok false) →
      (Rule.evaluate l a.rule scope).outcome ≠ .ok false → d.isRandomized = false →
      ∀ drawn' s', outcome = (select l test d' identity context drawn' s').1) := by
  intro scope outcome
  refine ⟨?_, ?_, ?_⟩
  · intro given hgiven
    have hselects : Selects l d identity context (d.position test identity drawn)
        outcome := selects_select l test d identity context drawn s
    rw [hgiven] at hselects
    obtain ⟨-, hrule, ⟨earlier, later, hd, hindex, hearlier, ha⟩, -⟩ := hselects.of_some
    exact ⟨hrule, earlier, later, hd, hindex, hearlier, ha⟩
  · intro earlier a later hd hearlier hid hrule
    have hdecided : ∀ r, answer l scope a.rule = r → r ≠ .ok false → outcome = r.map
        fun _ => (bucketAt d a (d.position test identity drawn)).map
          fun b => ⟨a, earlier.length, b⟩ := by
      rintro r rfl ha
      exact Decides.fst_select test ⟨hearlier, ha⟩ hd hid hrule drawn s
    exact ⟨fun err ha => hdecided _ ha nofun, fun ha => hdecided _ ha nofun⟩
  · intro d' earlier a later later' hsame hd hd' hearlier ha hfixed drawn' s'
    exact hsame.fst_select_eq ⟨hearlier, ha⟩ hd hd' hfixed test identity drawn drawn' s s'

/-! ### A test in tiers -/

/-- The old all get the first bucket. -/
def oldest : Allocation := ⟨some "$\x7bage > 60\x7d", [⟨0, 1.0⟩], "#A1", none⟩

/-- Those on trial are split. -/
def onTrial : Allocation :=
  ⟨some "$\x7bplan == 'trial'\x7d", [⟨0, 0.25⟩, ⟨1, 0.75⟩], "#B1", none⟩

/-- A test with a tier for the old and one for those on trial, in front of
    others. -/
def tieredTest (later : List Allocation) : Definition :=
  { Resolver.evenSplit "t" none with
    rule := some "$\x7bcountry == 'US'\x7d"
    allocations := [oldest, onTrial] ++ later }

/-- Somebody on trial is given a bucket of the second tier, also by a test whose
    third tier cannot be read; without a plan the second rule fails, and so does
    the selection. -/
theorem second_tier_decides :
    let l := Resolver.plainLibrary
    let d := tieredTest [⟨none, [⟨0, 1.0⟩], "#C1", none⟩]
    let d' := { tieredTest [⟨some "&&", [], "#C1", none⟩] with silent := true }
    let planless := promised.values.insert "age" (.int 20)
    let undefined := Rule.Error.mk "$\x7bplan == 'trial'\x7d"
      (.evaluation (.undefinedVariable "plan"))
    (∃ given, (select l "tiered" d (some "u6") trial 0.5 Session.fresh).1
        = .ok (some given) ∧ given.allocation = onTrial ∧ given.index = 1 ∧
      (Rule.evaluate l given.allocation.rule (scopeOf d trial)).outcome = .ok true) ∧
    (select l "tiered" d (some "u6") trial 0.5 Session.fresh).1
      = (select l "tiered" d' (some "u6") trial 0.25 Session.fresh).1 ∧
    (select l "tiered" d' (some "u6") planless 0.5 Session.fresh).1
      = .error undefined := by
  intro l d d' planless undefined
  obtain ⟨hgiven, hdecided, hsame⟩ :=
    first_match_wins l "tiered" d (some "u6") trial 0.5 Session.fresh
  obtain ⟨-, hfailed, -⟩ :=
    first_match_wins l "tiered" d' (some "u6") planless 0.5 Session.fresh
  have hid : ∀ d : Definition, Identified d (some "u6") :=
    fun _ _ => Option.some_ne_none _
  have hpassed : ∀ b ∈ [oldest],
      (Rule.evaluate l b.rule (scopeOf d trial)).outcome = .ok false := by
    decide +kernel
  have htrial : (Rule.evaluate l onTrial.rule (scopeOf d trial)).outcome = .ok true := by
    decide +kernel
  refine ⟨?_, ?_, ?_⟩
  · have houtcome :=
      (hdecided [oldest] onTrial _ rfl hpassed (hid d) (by decide +kernel)).2 htrial
    have hbucket : (bucketAt d onTrial
        (d.position "tiered" (some "u6") 0.5)).isSome = true := by
      decide +kernel
    obtain ⟨b, hb⟩ := Option.isSome_iff_exists.mp hbucket
    rw [hb] at houtcome
    obtain ⟨-, earlier, later, -, -, -, htrue⟩ := hgiven _ houtcome
    exact ⟨_, houtcome, rfl, rfl, htrue⟩
  · have hfixed : d.isRandomized = false := by decide +kernel
    refine hsame d' [oldest] onTrial _ _ ⟨rfl, rfl, rfl, rfl, rfl, rfl⟩ rfl rfl hpassed
      ?_ hfixed 0.25 Session.fresh
    rw [htrial]
    exact nofun
  · exact (hfailed [oldest] onTrial _ rfl (by decide +kernel) (hid d')
      (by decide +kernel)).1 undefined (by decide +kernel)

end Cohort.Selection
