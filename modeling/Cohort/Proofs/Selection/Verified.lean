import Cohort.Proofs.Resolution.Locality
import Cohort.Proofs.Selection.Outcome

/-! # What is verified is served

    Verification reads a definition once, long before any request; a selection
    reads it for every request, with rules that are asked anew.  Two things
    are promised in between.  A rule that was verified with what clients
    provide finds all its variables when they do provide it.  And an
    allocation that was verified has a bucket for every position, so that a
    request that matches one never goes without. -/

namespace Cohort.Selection

open InSession Consistency

/-! ### A verified test -/

/-- A test for the adults of a country and those who pay, with an allocation for
    trials, all of which get the second bucket, and one for everyone else. -/
def gatedTest : Definition :=
  { Resolver.evenSplit "g" none with
    rule := some "$\x7bcountry == 'US' && (plan == 'paid' || age > 17)\x7d"
    allocations := [
      ⟨some "$\x7bplan == 'trial'\x7d", [⟨0, 0.0⟩, ⟨1, 1.0⟩], "#A1", none⟩,
      ⟨none, [⟨0, 0.5⟩, ⟨1, 0.5⟩], "#B1", none⟩] }

/-- A sample of one variable, and a promise of two more. -/
def promised : Provided :=
  ⟨NameMap.ofList [("country", .string "US")], NameSet.ofList ["plan", "age"], true⟩

/-- An adult of whose plan nothing is known. -/
def adult : Context :=
  NameMap.ofList [("country", .string "US"), ("plan", .null), ("age", .int 20)]

/-- An adult on trial. -/
def trial : Context := adult.insert "plan" (.string "trial")

theorem verify_gatedTest :
    (verify Resolver.plainLibrary promised "matrix" "gated" gatedTest
      Session.fresh).1 = .ok () := by
  decide +kernel

/-! ## Variables -/

section Variables

variable {l l' : Rule.Library} {p : Provided} {d : Definition} {context : Context}
  {identity : Option String} {position : Float}

/-- A name has a value in one of the layers. -/
theorem contains_scopeOf_iff {name : String} :
    (scopeOf d context).contains name = true ↔
      d.constants.contains name = true ∨ d.specialConstants.contains name = true ∨
        context.contains name = true := by
  rw [scopeOf, Rule.Scope.contains, Rule.Scope.lookup, NameMap.contains,
    NameMap.contains, NameMap.contains]
  cases d.constants.get? name with
  | some v => simp
  | none =>
      cases d.specialConstants.get? name with
      | some v => simp
      | none => simp

/-- The request defines every name that clients provide, whatever its value. -/
def Honours (p : Provided) (context : Context) : Prop :=
  ∀ name, p.values.contains name = true ∨ name ∈ p.uninstantiated →
    context.contains name = true

/-- What a rule was found to be provided with is there for a request. -/
theorem contains_of_provides {e : Rule.Expr} {name : String}
    (he : Provides p (scopeOf d p.values) e) (hcontext : Honours p context)
    (hname : name ∈ e.reads) : (scopeOf d context).contains name = true := by
  rw [contains_scopeOf_iff]
  rcases he name hname with hvalue | hpromised
  · rcases contains_scopeOf_iff.mp hvalue with hconstant | hspecial | hsample
    · exact Or.inl hconstant
    · exact Or.inr (Or.inl hspecial)
    · exact Or.inr (Or.inr (hcontext name (Or.inl hsample)))
  · exact Or.inr (Or.inr (hcontext name (Or.inr hpromised)))

/-- A rule that was accepted finds every variable it asks for. -/
theorem answer_ne_undefined {rule : Option String} (hrule : RuleAccepted l p d rule)
    (hevaluate : p.evaluate = true) (hcontext : Honours p context) (text name : String) :
    answer l' (scopeOf d context) rule
      ≠ .error ⟨text, .evaluation (.undefinedVariable name)⟩ := by
  intro h
  obtain ⟨e, rfl, hblank, hparse, hread, hmissing⟩ := Rule.undefined_of_evaluate h
  obtain ⟨e', hparse', hchecked⟩ := hrule text rfl hblank
  obtain rfl : e = e' := Except.ok.inj (hparse.symm.trans hparse')
  have hpresent := contains_of_provides (hchecked hevaluate).1 hcontext hread
  rw [hmissing] at hpresent
  exact nomatch hpresent

/-- An error of a selection is the error of one of the rules. -/
theorem Selects.rule_of_error {err : Rule.Error}
    (h : Selects l d identity context position (.error err)) :
    answer l (scopeOf d context) d.rule = .error err ∨
      ∃ a ∈ d.allocations, answer l (scopeOf d context) a.rule = .error err := by
  cases h with
  | testFailed h hrule => exact Or.inl hrule
  | allocationFailed h hrule hfound => exact Or.inr hfound.exists_failed

/-- **NO VARIABLE IS MISSED**: if rules were verified with what clients provide,
    no request that provides it fails for an undefined variable. -/
theorem select_ne_undefined {source test test' : String} {s : Session}
    (hverified : (verify l p source test d s).1 = .ok ())
    (hevaluate : p.evaluate = true)
    (hcontext : ∀ name, p.values.contains name = true ∨ name ∈ p.uninstantiated →
      context.contains name = true)
    (drawn : Float) (s' : Session) (text name : String) :
    (select l' test' d identity context drawn s').1
      ≠ .error ⟨text, .evaluation (.undefinedVariable name)⟩ := by
  intro h
  have haccepted := accepted_of_verify l p hverified
  have hselects := selects_select l' test' d identity context drawn s'
  rw [h] at hselects
  rcases hselects.rule_of_error with hrule | ⟨a, ha, hrule⟩
  · exact answer_ne_undefined haccepted.rule hevaluate hcontext text name hrule
  · exact answer_ne_undefined (haccepted.allocation a ha).rule hevaluate hcontext
      text name hrule

theorem honours_adult : Honours promised adult := by
  intro name h
  have hall : ∀ name ∈ ["country", "plan", "age"], adult.contains name = true := by
    decide +kernel
  refine hall name ?_
  rcases h with h | h
  · have hsample : promised.values.names = ["country"] := by decide +kernel
    have hname := NameMap.mem_names_iff.mpr h
    rw [hsample] at hname
    exact List.mem_append_left ["plan", "age"] hname
  · exact List.mem_cons_of_mem _ (NameSet.mem_ofList.mp h)

/-- A plan that is promised may be null, but not missing. -/
theorem adult_misses_no_plan :
    (verify Resolver.plainLibrary promised "matrix" "gated" gatedTest
      Session.fresh).1 = .ok () ∧ promised.evaluate = true ∧ Honours promised adult ∧
    (select Resolver.plainLibrary "gated" gatedTest (some "u6") adult 0.5
      Session.fresh).1 ≠ .error ⟨"$\x7bplan == 'trial'\x7d",
        .evaluation (.undefinedVariable "plan")⟩ :=
  ⟨verify_gatedTest, rfl, honours_adult,
    select_ne_undefined verify_gatedTest rfl honours_adult 0.5 Session.fresh _ _⟩

-- the sample alone is not enough
example :
    (select Resolver.plainLibrary "gated" gatedTest (some "u6") promised.values 0.5
      Session.fresh).1 = .error ⟨gatedTest.rule.getD "",
        .evaluation (.undefinedVariable "plan")⟩ := by
  with_unfolding_all rfl

end Variables

/-! ## Buckets -/

section Buckets

variable {l l' : Rule.Library} {p : Provided} {d : Definition} {a : Allocation}
  {identity : Option String} {context : Context} {position : Float}

/-- The bucket is a declared one, and a range of some length of the allocation
    belongs to it. -/
def Offers (d : Definition) (a : Allocation) (b : Bucket) : Prop :=
  b ∈ d.buckets ∧ ∃ r ∈ a.ranges, 0 < r.length ∧ r.bucketValue = b.value

/-- **A BUCKET FOR EVERY POSITION**: an allocation that was accepted offers one. -/
theorem exists_bucketAt (h : AllocationAccepted l p d a) (position : Float) :
    ∃ b, Offers d a b ∧ bucketAt d a position = some b := by
  obtain ⟨r, hr, hpos, hchosen⟩ := exists_chooseRange h.isLength h.total position
  obtain ⟨b, hfound⟩ :=
    Definition.exists_bucket?_iff.mpr (List.mem_map.mp (h.declared r hr))
  obtain ⟨hb, hvalue⟩ := Definition.bucket?_eq_some hfound
  refine ⟨b, ⟨hb, r, hr, hpos, hvalue.symm⟩, ?_⟩
  rw [bucketAt, hchosen, Option.bind_some, hfound]

/-- So no position is reported to be without a bucket. -/
theorem exists_reach (h : AllocationAccepted l p d a) (test : String) (index : Nat)
    (position : Float) :
    ∃ b, Offers d a b ∧ reach test d index a position = pure (some ⟨a, index, b⟩) := by
  obtain ⟨b, hoffers, hb⟩ := exists_bucketAt h position
  refine ⟨b, hoffers, ?_⟩
  rw [reach, ← bucketAt, hb]

/-- A selection of an accepted definition, taken apart: the allocation is the
    first whose rule is true, and it has the bucket at the position. -/
theorem Selects.of_some {given : Selection}
    (h : Selects l d identity context position (.ok (some given))) :
    Identified d identity ∧ answer l (scopeOf d context) d.rule = .ok true ∧
      FirstTrue l (scopeOf d context) d.allocations given.index given.allocation ∧
      bucketAt d given.allocation position = some given.bucket := by
  cases h with
  | @settled found given hid hrule hfound hgiven =>
      obtain ⟨⟨index, a⟩, rfl, hbucket⟩ := Option.bind_eq_some_iff.mp hgiven
      obtain ⟨b, hb, rfl⟩ := Option.map_eq_some_iff.mp hbucket
      exact ⟨hid, hrule, hfound.firstTrue, hb⟩

/-- Nothing is selected, though no rule fails, for one of three reasons: the
    identity is missing, the rule of the test is false, or all others are. -/
theorem Selects.of_none (hd : Accepted l' p d)
    (h : Selects l d identity context position (.ok none)) :
    ¬ Identified d identity ∨ answer l (scopeOf d context) d.rule = .ok false ∨
      PassesOver l (scopeOf d context) d.allocations := by
  generalize hnone : (none : Option Selection) = given at h
  cases h with
  | unidentified hid => exact Or.inl hid
  | notApplied hid hrule => exact Or.inr (Or.inl hrule)
  | @settled found given hid hrule hfound hgiven =>
      cases found with
      | none => exact Or.inr (Or.inr hfound.passesOver)
      | some found =>
          -- the allocation that was found has a bucket
          obtain ⟨index, a⟩ := found
          obtain ⟨b, -, hb⟩ :=
            exists_bucketAt (hd.allocation a hfound.firstTrue.mem) position
          rw [givenAt, Option.bind_some, hb, ← hnone] at hgiven
          exact nomatch hgiven

/-- Unless a rule fails, something is selected exactly when the identity is there,
    the rule of the test is true, and that of some allocation is. -/
theorem Selects.isSome_iff (hd : Accepted l' p d) {given : Option Selection}
    (h : Selects l d identity context position (.ok given)) :
    given.isSome = true ↔ Identified d identity ∧
      answer l (scopeOf d context) d.rule = .ok true ∧
      ∃ a ∈ d.allocations, answer l (scopeOf d context) a.rule = .ok true := by
  cases given with
  | some given =>
      obtain ⟨hid, hrule, hfirst, -⟩ := h.of_some
      exact ⟨fun _ => ⟨hid, hrule, given.allocation, hfirst.mem, hfirst.answer_eq⟩,
        fun _ => rfl⟩
  | none =>
      refine ⟨nofun, ?_⟩
      rintro ⟨hid, hrule, a, hmem, ha⟩
      rcases h.of_none hd with hno | hfalse | hpassed
      · exact absurd hid hno
      · exact nomatch hrule.symm.trans hfalse
      · exact nomatch ha.symm.trans (hpassed a hmem)

/-- The bucket of a selection is offered by its allocation. -/
theorem Selects.offers (hd : Accepted l' p d) {given : Selection}
    (h : Selects l d identity context position (.ok (some given))) :
    Offers d given.allocation given.bucket := by
  obtain ⟨-, -, hfirst, hbucket⟩ := h.of_some
  obtain ⟨b, hoffers, hb⟩ :=
    exists_bucketAt (hd.allocation given.allocation hfirst.mem) position
  obtain rfl := Option.some.inj (hb.symm.trans hbucket)
  exact hoffers

/-- A blank rule is true of everybody. -/
theorem answer_of_blank {scope : Rule.Scope} {rule : Option String}
    (h : Rule.isBlank rule = true) : answer l scope rule = .ok true := by
  cases rule with
  | none => rfl
  | some text =>
      rw [Rule.isBlank] at h
      rw [answer, Rule.evaluate, if_pos h]
      rfl

/-- If the last allocation is for everyone, nobody to whom the test applies goes
    without a bucket, unless the rule of an allocation fails. -/
theorem Selects.of_blank (hd : Accepted l' p d)
    {result : Except Rule.Error (Option Selection)}
    (h : Selects l d identity context position result)
    (hlast : d.allocations.getLast? = some a) (hblank : Rule.isBlank a.rule = true)
    (hid : Identified d identity) (hrule : answer l (scopeOf d context) d.rule = .ok true) :
    (∃ given, result = .ok (some given)) ∨
      ∃ a ∈ d.allocations, ∃ err, answer l (scopeOf d context) a.rule = .error err ∧
        result = .error err := by
  cases result with
  | error err =>
      rcases h.rule_of_error with hfailed | ⟨a', ha', hfailed⟩
      · exact nomatch hrule.symm.trans hfailed
      · exact Or.inr ⟨a', ha', err, hfailed, rfl⟩
  | ok given =>
      have hsome := (h.isSome_iff hd).mpr
        ⟨hid, hrule, a, List.mem_of_getLast? hlast, answer_of_blank hblank⟩
      obtain ⟨given, rfl⟩ := Option.isSome_iff_exists.mp hsome
      exact Or.inl ⟨given, rfl⟩

/-! ## What is reported -/

/-- The event is not that a matched allocation has no bucket. -/
def NoDeadEnd (e : Event) : Prop :=
  ∀ test allocation, e ≠ .noReachableBucket test allocation

theorem reportsOnly_matchAllocation (test : String) (scope : Rule.Scope) (index : Nat)
    (allocations : List Allocation) :
    ReportsOnly NoDeadEnd (matchAllocation l test scope index allocations) := by
  induction allocations generalizing index with
  | nil => exact reportsOnly_pure _
  | cons a rest ih =>
      refine (reportsOnly_evaluate l _ a.rule scope).bind
        (steady_evaluate l _ a.rule scope) ?_
      rcases (evaluate l (.allocation test index) a.rule scope).value with err | b
      · exact reportsOnly_pure _
      · cases b with
        | false => exact ih (index + 1)
        | true =>
            refine (reportsOnly_report ?_).bind (steady_report _) (reportsOnly_pure _)
            exact fun _ _ => Event.noConfusion

/-- No request of an accepted definition reports a matched allocation without
    a bucket. -/
theorem reportsOnly_select (hd : Accepted l' p d) (test : String) (drawn : Float) :
    ReportsOnly NoDeadEnd (select l test d identity context drawn) := by
  rw [select]
  split
  · exact reportsOnly_pure _
  · refine (reportsOnly_evaluate l _ d.rule _).bind (steady_evaluate l _ d.rule _) ?_
    rcases (evaluate l (.test test) d.rule (scopeOf d context)).value with err | b
    · exact reportsOnly_pure _
    · cases b with
      | false =>
          refine (reportsOnly_report ?_).bind (steady_report _) (reportsOnly_pure _)
          exact fun _ _ => Event.noConfusion
      | true =>
          refine (reportsOnly_matchAllocation test _ 0 d.allocations).bind
            (steady_matchAllocation l test _ 0 d.allocations) ?_
          have hsettled := settled_matchAllocation l (scopeOf d context) test 0 d.allocations
          revert hsettled
          rcases (matchAllocation l test (scopeOf d context) 0 d.allocations).value
            with err | found
          · exact fun _ => reportsOnly_pure _
          · cases found with
            | none =>
                intro _
                refine (reportsOnly_report ?_).bind (steady_report _) (reportsOnly_pure _)
                exact fun _ _ => Event.noConfusion
            | some found =>
                intro hfound
                obtain ⟨index, a⟩ := found
                refine ReportsOnly.bind ?_ (steady_reach test d index a _)
                  (reportsOnly_pure _)
                obtain ⟨b, -, hreach⟩ :=
                  exists_reach (hd.allocation a hfound.firstTrue.mem) test index _
                rw [hreach]
                exact reportsOnly_pure _

/-- **NO DEAD ENDS**: a request of a verified definition whose rules do not fail is
    given a bucket if and only if it has the identity that the test needs, the
    rule of the test is true, and that of some allocation is.  The bucket is
    offered by the first such allocation.  Every allocation has a bucket for
    every position, and no request reports one that has none.  If the last
    allocation is for everyone, a request that the test applies to goes without
    a bucket only when the rule of an allocation fails. -/
theorem select_of_verified {source test : String} {s : Session}
    (hverified : (verify l' p source test d s).1 = .ok ()) (test' : String)
    (identity : Option String) (context : Context) (drawn : Float) (s' : Session) :
    let scope := scopeOf d context
    let outcome := select l test' d identity context drawn s'
    (∀ given, outcome.1 = .ok given →
      (given.isSome = true ↔ Identified d identity ∧
        (Rule.evaluate l d.rule scope).outcome = .ok true ∧
        ∃ a ∈ d.allocations, (Rule.evaluate l a.rule scope).outcome = .ok true)) ∧
    (∀ given, outcome.1 = .ok (some given) →
      FirstTrue l scope d.allocations given.index given.allocation ∧
      Offers d given.allocation given.bucket) ∧
    (∀ a ∈ d.allocations, ∀ index position, ∃ b, Offers d a b ∧
      reach test' d index a position = pure (some ⟨a, index, b⟩)) ∧
    (∃ added, outcome.2.log = s'.log ++ added ∧
      ∀ test allocation, .noReachableBucket test allocation ∉ added) ∧
    (∀ a, d.allocations.getLast? = some a → Rule.isBlank a.rule = true →
      Identified d identity → (Rule.evaluate l d.rule scope).outcome = .ok true →
      (∃ given, outcome.1 = .ok (some given)) ∨
      ∃ a ∈ d.allocations, ∃ err, (Rule.evaluate l a.rule scope).outcome = .error err ∧
        outcome.1 = .error err) := by
  intro scope outcome
  have hd := accepted_of_verify l' p hverified
  have hselects : Selects l d identity context (d.position test' identity drawn) outcome.1 :=
    selects_select l test' d identity context drawn s'
  refine ⟨?_, ?_, ?_, ?_, ?_⟩
  · intro given hgiven
    exact (hgiven ▸ hselects).isSome_iff hd
  · intro given hgiven
    have hselects := hgiven ▸ hselects
    exact ⟨hselects.of_some.2.2.1, hselects.offers hd⟩
  · intro a ha index position
    exact exists_reach (hd.allocation a ha) test' index position
  · obtain ⟨added, hadded, hnone⟩ := reportsOnly_select hd test' drawn s'
    exact ⟨added, hadded, fun test allocation h => hnone _ h test allocation rfl⟩
  · intro a hlast hblank hid hrule
    exact hselects.of_blank hd hlast hblank hid hrule

/-- Somebody on trial gets the second bucket, past a range without length. -/
theorem trial_gets_bucket :
    (verify Resolver.plainLibrary promised "matrix" "gated" gatedTest
      Session.fresh).1 = .ok () ∧
    ∃ given, (select Resolver.plainLibrary "gated" gatedTest (some "u6") trial 0.5
        Session.fresh).1 = .ok (some given) ∧
      FirstTrue Resolver.plainLibrary (scopeOf gatedTest trial)
        gatedTest.allocations given.index given.allocation ∧
      Offers gatedTest given.allocation given.bucket := by
  obtain ⟨-, hgiven, -, -, hblank⟩ := select_of_verified (l := Resolver.plainLibrary)
    verify_gatedTest "gated" (some "u6") trial 0.5 Session.fresh
  have hid : Identified gatedTest (some "u6") := fun _ => Option.some_ne_none _
  have hfine : ∀ a ∈ gatedTest.allocations, ∀ err,
      answer Resolver.plainLibrary (scopeOf gatedTest trial) a.rule ≠ .error err := by
    have hok : ∀ a ∈ gatedTest.allocations, (answer Resolver.plainLibrary
        (scopeOf gatedTest trial) a.rule).toOption.isSome = true := by decide +kernel
    intro a ha err herr
    have h := hok a ha
    rw [herr] at h
    exact nomatch h
  rcases hblank _ rfl rfl hid (by decide +kernel)
    with ⟨given, hsome⟩ | ⟨a, ha, err, herr, -⟩
  · exact ⟨verify_gatedTest, given, hsome, hgiven given hsome⟩
  · exact absurd herr (hfine a ha err)

end Buckets

end Cohort.Selection
