import Cohort.Proofs.Consistency.Acceptance
import Cohort.Proofs.Decimal.Order

/-! # Verification accepts what is well-formed, and nothing else

    Verification walks through a definition, remembers what it has seen and
    leaves at the first problem.  Whoever writes a definition wants to know
    what it must be like, without any order and without anything remembered:
    values and names that differ, ranges that divide the unit interval, rules
    that can be evaluated, payloads of one kind.  The two are shown to be the
    same, part by part, so no problem hides behind another one. -/

namespace Cohort.Consistency

open InSession

/-! ## Buckets -/

/-- Keys that differ from each other and from those seen before: the first is one of those
    that the rest must avoid. -/
theorem nodup_avoiding_cons {α κ : Type} (key : α → κ) (seen : List κ) (b : α)
    (rest : List α) :
    (((b :: rest).map key).Nodup ∧ ∀ c ∈ b :: rest, key c ∉ seen) ↔
      key b ∉ seen ∧ (rest.map key).Nodup ∧ ∀ c ∈ rest, key c ∉ key b :: seen := by
  rw [List.map_cons, List.nodup_cons, List.forall_mem_cons]
  constructor
  · rintro ⟨⟨hfirst, hnodup⟩, hseen, hrest⟩
    refine ⟨hseen, hnodup, fun c hc hin => ?_⟩
    obtain heq | hin := List.mem_cons.mp hin
    · exact hfirst (heq ▸ List.mem_map_of_mem hc)
    · exact hrest c hc hin
  · rintro ⟨hseen, hnodup, hrest⟩
    refine ⟨⟨fun hin => ?_, hnodup⟩, hseen, fun c hc hin => ?_⟩
    · obtain ⟨c, hc, heq⟩ := List.mem_map.mp hin
      exact hrest c hc (heq ▸ List.mem_cons_self)
    · exact hrest c hc (List.mem_cons_of_mem _ hin)

/-- No bucket repeats a value or a name, neither of another one nor of those seen before. -/
theorem bucketProblem_eq_none_iff {values : List Int32} {names : List String}
    {buckets : List Bucket} :
    bucketProblem values names buckets = none ↔
      ((buckets.map (·.value)).Nodup ∧ ∀ b ∈ buckets, b.value ∉ values) ∧
        (buckets.map (·.name)).Nodup ∧ ∀ b ∈ buckets, b.name ∉ names := by
  induction buckets generalizing values names with
  | nil => simp [bucketProblem]
  | cons b rest ih =>
      rw [bucketProblem, nodup_avoiding_cons, nodup_avoiding_cons, List.contains_eq_mem,
        List.contains_eq_mem]
      by_cases hvalue : b.value ∈ values
      · simp [hvalue]
      · by_cases hname : b.name ∈ names
        · simp [hname, hvalue]
        · simp only [hvalue, hname, decide_false, Bool.false_eq_true, if_false, ih,
            not_false_eq_true, true_and]

/-! ## Payloads -/

/-- Either no bucket has a payload, or all have payloads of one kind. -/
def OneKind (buckets : List Bucket) : Prop :=
  (∀ b ∈ buckets, b.payload = none) ∨
    ∃ kind, ∀ b ∈ buckets, ∃ payload, b.payload = some payload ∧ payload.kind = kind

theorem payloadKindProblem_eq_none_iff {expected : String} {buckets : List Bucket} :
    payloadKindProblem expected buckets = none ↔
      ∀ b ∈ buckets, ∀ payload, b.payload = some payload → payload.kind = expected := by
  induction buckets with
  | nil => simp [payloadKindProblem]
  | cons b rest ih =>
      rw [payloadKindProblem, List.forall_mem_cons]
      cases hpayload : b.payload with
      | none => simp [ih]
      | some payload =>
          by_cases hkind : payload.kind = expected
          · simp [hkind, ih]
          · simp [hkind]

/-- The payloads of buckets are fine exactly when they are of one kind. -/
theorem payloadProblem_eq_none_iff {buckets : List Bucket} :
    payloadProblem buckets = none ↔ OneKind buckets := by
  rw [payloadProblem]
  cases hsome : buckets.filterMap (·.payload) with
  | nil =>
      have hnone : ∀ b ∈ buckets, b.payload = none := List.filterMap_eq_nil_iff.mp hsome
      exact ⟨fun _ => Or.inl hnone, fun _ => rfl⟩
  | cons first payloads =>
      -- the first payload belongs to a bucket, so not all are without one
      obtain ⟨witness, hwitness, hfirst⟩ := List.mem_filterMap.mp
        (hsome ▸ List.mem_cons_self : first ∈ buckets.filterMap (·.payload))
      show (if buckets.all (·.payload.isSome) = true then _ else _) = none ↔ _
      constructor
      · intro h
        split at h
        · rename_i hall
          refine Or.inr ⟨first.kind, fun b hb => ?_⟩
          obtain ⟨payload, hpayload⟩ := Option.isSome_iff_exists.mp (List.all_eq_true.mp hall b hb)
          exact ⟨payload, hpayload, payloadKindProblem_eq_none_iff.mp h b hb payload hpayload⟩
        · exact nomatch h
      · rintro (hnone | ⟨kind, hkind⟩)
        · rw [hnone witness hwitness] at hfirst
          exact nomatch hfirst
        · obtain ⟨first', hfirst', rfl⟩ := hkind witness hwitness
          obtain rfl : first = first' := Option.some.inj (hfirst.symm.trans hfirst')
          have hall : buckets.all (·.payload.isSome) = true := by
            refine List.all_eq_true.mpr fun b hb => ?_
            obtain ⟨payload, hpayload, -⟩ := hkind b hb
            exact Option.isSome_iff_exists.mpr ⟨payload, hpayload⟩
          rw [if_pos hall, payloadKindProblem_eq_none_iff]
          intro b hb payload hpayload
          obtain ⟨payload', hpayload', hsame⟩ := hkind b hb
          obtain rfl : payload = payload' := Option.some.inj (hpayload.symm.trans hpayload')
          exact hsame

/-! ## Ranges -/

theorem isLength_iff {x : Float} :
    isLength x = true ↔ x.isFinite = true ∧ 0.0 ≤ x ∧ x ≤ 1.0 := by
  simp only [isLength, Bool.and_eq_true, decide_eq_true_eq]

/-- Finite lengths add up to a number; the sum may be infinite, but that is a number too. -/
theorem isNaN_totalLength {ranges : List Range}
    (h : ∀ r ∈ ranges, r.length.isFinite = true) : (totalLength ranges).isNaN = false := by
  have hfrom : ∀ start : Float, start.isNaN = false →
      (ranges.foldl (fun total r => total + r.length) start).isNaN = false := by
    induction ranges with
    | nil => exact fun _ hstart => hstart
    | cons r rest ih =>
        obtain ⟨hr, hrest⟩ := List.forall_mem_cons.mp h
        exact fun start hstart => ih hrest _ (Decimal.isNaN_add_of_isFinite hstart hr)
  exact hfrom 0.0 (by decide)

/-- The ranges divide the whole unit interval, but for the tolerance, among buckets of given
    values. -/
structure Divides (values : List Int32) (ranges : List Range) : Prop where
  ne_nil : ranges ≠ []
  declared : ∀ r ∈ ranges, r.bucketValue ∈ values
  inUnit : ∀ r ∈ ranges, r.length.isFinite = true ∧ 0.0 ≤ r.length ∧ r.length ≤ 1.0
  total : (totalLength ranges - 1.0).abs ≤ tolerance

/-- A total that is not too far off is close: of finite lengths it is never a NaN, which
    would be neither. -/
theorem total_le_iff {ranges : List Range} (h : ∀ r ∈ ranges, r.length.isFinite = true) :
    (totalLength ranges - 1.0).abs ≤ tolerance ↔
      ¬ tolerance < (totalLength ranges - 1.0).abs :=
  Decimal.le_iff_not_lt
    (Decimal.isNaN_abs (Decimal.isNaN_sub_of_isFinite (isNaN_totalLength h) (by decide)))
    (by decide)

/-! ## Definitions -/

variable (l : Rule.Library) (p : Provided)

/-- A definition that can be served, dependencies apart. -/
structure WellFormed (d : Definition) : Prop where
  buckets_ne_nil : d.buckets ≠ []
  values_nodup : (d.buckets.map (·.value)).Nodup
  names_nodup : (d.buckets.map (·.name)).Nodup
  allocations_ne_nil : d.allocations ≠ []
  divides : ∀ a ∈ d.allocations, Divides (d.buckets.map (·.value)) a.ranges
  /-- Only the last allocation may be for everyone. -/
  conditional : ∀ a ∈ d.allocations.dropLast,
    ∃ rule, a.rule = some rule ∧ Text.isBlankText rule = false
  rule : RuleAccepted l p d d.rule
  allocationRule : ∀ a ∈ d.allocations, RuleAccepted l p d a.rule
  payloads : OneKind d.buckets

theorem allocationAccepted_iff_divides {d : Definition} {a : Allocation} :
    AllocationAccepted l p d a ↔
      Divides (d.buckets.map (·.value)) a.ranges ∧ RuleAccepted l p d a.rule := by
  constructor
  · intro h
    have hunit := fun r hr => isLength_iff.mp (h.isLength r hr)
    exact ⟨⟨h.ranges_ne_nil, h.declared, hunit,
      (total_le_iff fun r hr => (hunit r hr).1).mpr h.total⟩, h.rule⟩
  · rintro ⟨h, hrule⟩
    exact ⟨h.ne_nil, h.declared, fun r hr => isLength_iff.mpr (h.inUnit r hr),
      (total_le_iff fun r hr => (h.inUnit r hr).1).mp h.total, hrule⟩

theorem isBlank_eq_false_iff {rule : Option String} :
    Rule.isBlank rule = false ↔ ∃ text, rule = some text ∧ Text.isBlankText text = false := by
  cases rule with
  | none =>
      constructor
      · exact fun h => nomatch h
      · rintro ⟨_, h, -⟩
        exact nomatch h
  | some text =>
      constructor
      · exact fun h => ⟨text, rfl, h⟩
      · rintro ⟨text', htext, h⟩
        obtain rfl := Option.some.inj htext
        exact h

/-- To have passed every check is to be well-formed. -/
theorem accepted_iff_wellFormed {d : Definition} : Accepted l p d ↔ WellFormed l p d := by
  have hdistinct : bucketProblem [] [] d.buckets = none ↔
      (d.buckets.map (·.value)).Nodup ∧ (d.buckets.map (·.name)).Nodup := by
    simp [bucketProblem_eq_none_iff]
  constructor
  · intro h
    have heach := fun a ha => (allocationAccepted_iff_divides l p).mp (h.allocation a ha)
    exact {
      buckets_ne_nil := h.buckets_ne_nil
      values_nodup := (hdistinct.mp h.distinct).1
      names_nodup := (hdistinct.mp h.distinct).2
      allocations_ne_nil := h.allocations_ne_nil
      divides := fun a ha => (heach a ha).1
      conditional := fun a ha => isBlank_eq_false_iff.mp (h.blankOnlyLast a ha)
      rule := h.rule
      allocationRule := fun a ha => (heach a ha).2
      payloads := payloadProblem_eq_none_iff.mp h.payloads }
  · intro h
    exact {
      buckets_ne_nil := h.buckets_ne_nil
      distinct := hdistinct.mpr ⟨h.values_nodup, h.names_nodup⟩
      rule := h.rule
      allocations_ne_nil := h.allocations_ne_nil
      allocation := fun a ha =>
        (allocationAccepted_iff_divides l p).mpr ⟨h.divides a ha, h.allocationRule a ha⟩
      blankOnlyLast := fun a ha => isBlank_eq_false_iff.mpr (h.conditional a ha)
      payloads := payloadProblem_eq_none_iff.mpr h.payloads }

/-- **VERIFICATION DECIDES WELL-FORMEDNESS**: in whichever session, whatever clients provide
    and under whichever name, a definition is accepted exactly when it is well-formed. -/
theorem verify_ok_iff_wellFormed (source test : String) (d : Definition) (s : Session) :
    (verify l p source test d s).1 = .ok () ↔ WellFormed l p d := by
  rw [← accepted_iff_wellFormed]
  constructor
  · exact accepted_of_verify l p
  · intro h
    have hfine := (ownProblem_eq_none_iff l p source).mpr ((fine_iff_accepted l p test d).mpr h)
    rw [steady_verify]
    rw [ownProblem] at hfine
    cases hverified : (verify l p source test d).value with
    | ok _ => rfl
    | error e =>
        rw [hverified] at hfine
        cases hfine

end Cohort.Consistency
