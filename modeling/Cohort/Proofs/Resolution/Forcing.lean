import Cohort.Proofs.Resolution.Locality

/-! # Forced groups and gates

    Four things decide on a test before its rules do: whether its chain ends,
    whether the filter of the resolver admits it, whether it is forced, and
    whether its parent has put the request there.  They come in this order,
    along a chain of any length and however forced tests and others alternate
    on it. -/

namespace Cohort.Resolver

open InSession

variable (r : Resolver) (a : Artifact) (ids : Identifiers) (context : Context)
  (force : ForceGroups) (draws : Draws) (requested : Requested)

/-! ## Which bucket is forced -/

/-- The value is that of a bucket of the test. -/
def Declares (d : Definition) (value : Int32) : Prop :=
  ∃ b ∈ d.buckets, b.value = value

theorem forcedBucket?_of_declared {test : String} {d : Definition} {value : Int32}
    (hforced : force.forced.get? test = some value) (h : Declares d value) :
    ∃ b, d.bucket? value = some b ∧ forcedBucket? force test d = some b := by
  obtain ⟨b, hb⟩ := Definition.exists_bucket?_iff.mpr h
  refine ⟨b, hb, ?_⟩
  rw [forcedBucket?, hforced]
  exact hb

theorem forcedBucket?_eq_none {test : String} {d : Definition}
    (h : ∀ value, force.forced.get? test = some value → ¬ Declares d value) :
    forcedBucket? force test d = none := by
  refine Option.eq_none_iff_forall_ne_some.mpr ?_
  intro b hb
  obtain ⟨value, hforced, hbucket⟩ := Option.bind_eq_some_iff.mp hb
  exact h value hforced (Definition.exists_bucket?_iff.mp ⟨b, hbucket⟩)

/-! ## What a choice says -/

/-- A forced test is in its forced bucket, whatever its parent has chosen. -/
theorem choose_of_forced {chosen : Choices} {test : String} {d : Definition}
    {b : Bucket} (h : forcedBucket? force test d = some b) :
    r.choose ids context force draws chosen test d = pure (some (b, "")) := by
  rw [choose, h]

/-- A test that is not forced is chosen for freely, behind an open gate. -/
theorem choose_of_free {chosen : Choices} {test : String} {d : Definition}
    (hfree : forcedBucket? force test d = none) (hmode : force.mode ≠ .fallback) :
    r.choose ids context force draws chosen test d
      = if gateOpen chosen d then r.chooseFreely ids context force.mode draws test d
        else pure none := by
  rw [choose, hfree]
  cases gateOpen chosen d with
  | true => exact if_neg hmode
  | false => exact if_neg hmode

/-- The gate is open if the parent has chosen the bucket of the dependency. -/
theorem gateOpen_iff {chosen : Choices} {d : Definition} :
    gateOpen chosen d = true ↔ ∀ dep, d.dependsOn = some dep →
      ∃ c, chosen.get? dep.testName = some c ∧ c.1.value = dep.bucketValue := by
  rw [gateOpen]
  cases d.dependsOn with
  | none =>
      constructor
      · intro _ dep hdep
        cases hdep
      · intro _
        rfl
  | some dep =>
      constructor
      · rintro h dep' ⟨⟩
        obtain ⟨c, hc, hvalue⟩ := (Option.any_eq_true _ _).mp h
        exact ⟨c, hc, beq_iff_eq.mp hvalue⟩
      · intro h
        obtain ⟨c, hc, hvalue⟩ := h dep rfl
        show (chosen.get? dep.testName).any _ = true
        rw [hc]
        exact beq_iff_eq.mpr hvalue

/-- Nothing is in front of a test without a parent. -/
theorem gateOpen_of_root {chosen : Choices} {d : Definition} (h : d.dependsOn = none) :
    gateOpen chosen d = true := by
  rw [gateOpen, h]

/-- A test that is not forced gets a choice only behind an open gate, and none
    in the mode that leaves everyone without a group. -/
theorem gate_of_choose {chosen : Choices} {test : String} {d : Definition}
    {c : Choice} (hfree : forcedBucket? force test d = none)
    (h : (r.choose ids context force draws chosen test d).value = some c) :
    force.mode ≠ .fallback ∧ gateOpen chosen d = true := by
  rw [choose, hfree] at h
  by_cases hmode : force.mode = .fallback
  · simp only [hmode, if_true] at h
    cases h
  · refine ⟨hmode, ?_⟩
    cases hgate : gateOpen chosen d with
    | true => rfl
    | false =>
        simp only [hmode, hgate, Bool.not_false, if_true, if_false] at h
        cases h

/-! ## Whole resolutions -/

section Resolutions

variable {r a requested} {n : String}

/-- A choice is made for tests whose chain ends, and it solves their equation. -/
theorem choiceFor_of_finalChoices {c : Choice}
    (h : (r.finalChoices a ids context force draws requested).get? n = some c) :
    ¬ EntersCycle a.tests n ∧
      r.choiceFor a ids context force draws
        (r.finalChoices a ids context force draws requested) n = some c := by
  by_cases hn : n ∈ r.orderOf a requested
  · obtain ⟨-, hends⟩ := mem_evaluationOrder_iff.mp hn
    refine ⟨(exists_depth_iff.mp hends).2, ?_⟩
    rw [← h, r.get?_finalChoices a ids context force draws requested hn]
  · rw [r.get?_finalChoices_of_notMem a ids context force draws requested hn] at h
    exact nomatch h

/-- **FORCED AND ADMITTED**: the choice for a selected test is its forced bucket,
    unless its chain enters a cycle. -/
theorem get?_finalChoices_of_forced {d : Definition} {b : Bucket}
    (hselected : n ∈ r.selectedTests a requested) (hadmits : r.admits n = true)
    (hends : ¬ EntersCycle a.tests n) (hd : a.tests.get? n = some d)
    (hforced : forcedBucket? force n d = some b) :
    (r.finalChoices a ids context force draws requested).get? n = some (b, "") := by
  rw [r.get?_finalChoices a ids context force draws requested
    ((r.mem_orderOf_iff a requested hselected).mpr hends)]
  refine (r.choiceFor_eq_some_iff a ids context force draws).mpr ⟨d, hd, hadmits, ?_⟩
  rw [r.choose_of_forced ids context force draws hforced, value_pure]

/-- **BEHIND THE GATE**: a choice for a test that is not forced says that its
    parent has chosen the bucket of the dependency. -/
theorem gate_of_finalChoices {d : Definition} {c : Choice}
    (hd : a.tests.get? n = some d) (hfree : forcedBucket? force n d = none)
    (h : (r.finalChoices a ids context force draws requested).get? n = some c) :
    force.mode ≠ .fallback ∧ ∀ dep, d.dependsOn = some dep →
      ∃ p, (r.finalChoices a ids context force draws requested).get? dep.testName
        = some p ∧ p.1.value = dep.bucketValue := by
  obtain ⟨-, hchoice⟩ := choiceFor_of_finalChoices ids context force draws h
  obtain ⟨e, he, -, hchoose⟩ :=
    (r.choiceFor_eq_some_iff a ids context force draws).mp hchoice
  obtain rfl : d = e := Option.some.inj (hd.symm.trans he)
  have hgate := r.gate_of_choose ids context force draws hfree hchoose
  exact ⟨hgate.1, gateOpen_iff.mp hgate.2⟩

/-- What is reported was chosen for a test the request is about. -/
theorem finalChoices_of_reported {s : Session} {c : Choice}
    (h : r.reported a ids context requested force draws s n = some c) :
    r.selects a requested n = true ∧
      (r.finalChoices a ids context force draws requested).get? n = some c := by
  rw [reported_eq] at h
  split at h
  · next hselected => exact ⟨hselected, h⟩
  · exact nomatch h

end Resolutions

/-! ## Forced values that name no bucket -/

section Idle

variable {force' : ForceGroups}

/-- Both say the same about every test of the artifact. -/
structure SameForce (tests : Tests) (force force' : ForceGroups) : Prop where
  mode : force.mode = force'.mode
  bucket : ∀ n d, tests.get? n = some d →
    forcedBucket? force n d = forcedBucket? force' n d

theorem choose_sameForce (h : SameForce a.tests force force') (chosen : Choices)
    {n : String} {d : Definition} (hd : a.tests.get? n = some d) :
    r.choose ids context force draws chosen n d
      = r.choose ids context force' draws chosen n d := by
  simp only [choose]
  rw [h.bucket n d hd, h.mode]

theorem walk_sameForce (h : SameForce a.tests force force') (selected : NameSet)
    (chosen : Choices) (order : List String) :
    r.walk a ids context force draws selected chosen order
      = r.walk a ids context force' draws selected chosen order := by
  induction order generalizing chosen with
  | nil => rfl
  | cons n rest ih =>
      rw [walk, walk]
      cases hd : a.tests.get? n with
      | none => exact ih chosen
      | some d =>
          simp only [ih, r.choose_sameForce a ids context force draws h chosen hd]

/-- Forced groups that say the same lead to the same work. -/
theorem resolve_sameForce (h : SameForce a.tests force force') :
    r.resolve a ids context requested force draws
      = r.resolve a ids context requested force' draws := by
  simp only [resolve, choices]
  simp only [r.walk_sameForce a ids context force draws h]

/-- A forced value that no test declares says nothing. -/
theorem sameForce_erase {n : String} {value : Int32}
    (hforced : force.forced.get? n = some value)
    (hidle : ∀ d, a.tests.get? n = some d → ¬ Declares d value) :
    SameForce a.tests force { force with forced := force.forced.erase n } := by
  refine ⟨rfl, ?_⟩
  intro m d hd
  by_cases hm : m = n
  -- with the value the test has no forced bucket, and without it neither
  · subst hm
    have hfree : forcedBucket? force m d = none := by
      refine forcedBucket?_eq_none force ?_
      intro v hv
      obtain rfl : value = v := Option.some.inj (hforced.symm.trans hv)
      exact hidle d hd
    rw [hfree]
    refine (forcedBucket?_eq_none _ ?_).symm
    intro v hv
    rw [NameMap.get?_erase, if_pos rfl] at hv
    exact nomatch hv
  · simp only [forcedBucket?]
    rw [NameMap.get?_erase, if_neg hm]

end Idle

/-! ## The order of the four -/

/-- **FIRST THE CHAIN, THEN THE FORCE, THEN THE GATE**: a test whose chain enters a
    cycle is never reported.  Any other selected and admitted test that is
    forced to one of its buckets is reported in that bucket.  All other
    reported tests have a parent that obtained, in the same run, the bucket
    they depend on, and there are none in the mode of fallbacks.  A forced
    value of no bucket changes nothing. -/
theorem forced_before_gated (s : Session) :
    (∀ n, EntersCycle a.tests n →
      r.reported a ids context requested force draws s n = none) ∧
    (∀ n d value, r.selects a requested n = true → r.admits n = true →
      ¬ EntersCycle a.tests n → a.tests.get? n = some d →
      force.forced.get? n = some value → Declares d value →
      ∃ b, d.bucket? value = some b ∧
        r.reported a ids context requested force draws s n = some (b, "")) ∧
    (∀ n d c, a.tests.get? n = some d →
      r.reported a ids context requested force draws s n = some c →
      (∀ value, force.forced.get? n = some value → ¬ Declares d value) →
      force.mode ≠ .fallback ∧ ∀ dep, d.dependsOn = some dep →
        ∃ p, (r.choices a ids context requested force draws s).1.get? dep.testName
          = some p ∧ p.1.value = dep.bucketValue) ∧
    (∀ n value, force.forced.get? n = some value →
      (∀ d, a.tests.get? n = some d → ¬ Declares d value) →
      r.resolve a ids context requested force draws
        = r.resolve a ids context requested
            { force with forced := force.forced.erase n } draws) := by
  refine ⟨?_, ?_, ?_, ?_⟩
  · intro n hcycle
    refine Option.eq_none_iff_forall_ne_some.mpr ?_
    intro c hc
    obtain ⟨-, hchosen⟩ := finalChoices_of_reported ids context force draws hc
    exact (choiceFor_of_finalChoices ids context force draws hchosen).1 hcycle
  · intro n d value hselected hadmits hends hd hforced hdeclared
    obtain ⟨b, hb, hbucket⟩ := forcedBucket?_of_declared force hforced hdeclared
    refine ⟨b, hb, ?_⟩
    rw [reported_eq, if_pos hselected]
    exact get?_finalChoices_of_forced ids context force draws (selects_iff.mp hselected).2
      hadmits hends hd hbucket
  · intro n d c hd hc hfree
    obtain ⟨-, hchosen⟩ := finalChoices_of_reported ids context force draws hc
    rw [fst_choices]
    exact gate_of_finalChoices ids context force draws hd
      (forcedBucket?_eq_none force hfree) hchosen
  · intro n value hforced hidle
    exact r.resolve_sameForce a ids context force draws requested
      (sameForce_erase a force hforced hidle)

/-- The family beside a test that depends on itself. -/
def knot : Artifact :=
  snapshot [("parent", parentTest), ("child", childTest),
    ("loop", evenSplit "l" (some ⟨"loop", 1⟩))]

/-- The parent is forced, the loop too, and the child to no bucket it has. -/
def hold : ForceGroups :=
  ⟨NameMap.ofList [("parent", 1), ("loop", 1), ("child", 7)], .normal⟩

/-- The visitor sees the forced parent and the child that hangs on it, and never
    the loop. -/
theorem hold_on_knot :
    plainResolver.reported knot visitor NameMap.empty .all hold (fun _ => 0.5)
      Session.fresh "loop" = none ∧
    (∃ b, parentTest.bucket? 1 = some b ∧
      plainResolver.reported knot visitor NameMap.empty .all hold (fun _ => 0.5)
        Session.fresh "parent" = some (b, "")) ∧
    (∃ p, (plainResolver.choices knot visitor NameMap.empty .all hold (fun _ => 0.5)
        Session.fresh).1.get? "parent" = some p ∧ p.1.value = 1) ∧
    plainResolver.resolve knot visitor NameMap.empty .all hold (fun _ => 0.5)
      = plainResolver.resolve knot visitor NameMap.empty .all
          { hold with forced := hold.forced.erase "child" } (fun _ => 0.5) := by
  obtain ⟨hcycle, hforced, hgated, hidle⟩ :=
    plainResolver.forced_before_gated knot visitor NameMap.empty hold (fun _ => 0.5)
      .all Session.fresh
  have hloop : DependsOn knot.tests "loop" "loop" := ⟨_, rfl, rfl⟩
  have hroot : ∃ k, AtDepth knot.tests k "parent" := by
    refine ⟨0, AtDepth.root (by decide +kernel) ?_⟩
    rintro p ⟨d, ⟨⟩, ⟨⟩⟩
  have hchild : knot.tests.get? "child" = some childTest := rfl
  have hnot : ∀ value, hold.forced.get? "child" = some value →
      ¬ Declares childTest value := by
    rintro value ⟨⟩ hdeclared
    obtain ⟨b, hb⟩ := Definition.exists_bucket?_iff.mpr hdeclared
    exact nomatch hb
  refine ⟨?_, ?_, ?_, ?_⟩
  · exact hcycle "loop" ⟨"loop", Relation.ReflTransGen.refl,
      Relation.TransGen.single hloop⟩
  · exact hforced "parent" _ 1 (by decide +kernel) (by decide +kernel)
      (exists_depth_iff.mp hroot).2 rfl rfl
      ⟨_, List.mem_cons_of_mem _ List.mem_cons_self, rfl⟩
  · obtain ⟨c, hc⟩ := Option.isSome_iff_exists.mp
      (show (plainResolver.reported knot visitor NameMap.empty .all hold
        (fun _ => 0.5) Session.fresh "child").isSome = true by decide +kernel)
    exact (hgated "child" _ c hchild hc hnot).2 _ rfl
  · refine hidle "child" 7 rfl ?_
    intro d hd
    obtain rfl := Option.some.inj (hchild.symm.trans hd)
    exact hnot 7 rfl

end Cohort.Resolver
