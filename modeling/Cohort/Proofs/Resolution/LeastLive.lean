import Mathlib.Order.Bounds.Defs
import Cohort.Proofs.Resolution.Forcing
import Cohort.Proofs.Selection.Verified

/-! # The mode of least live buckets

    In this mode a request is put into the least bucket that its allocation
    has some length for.  Its identity is still asked for, and its position is
    still looked up, but neither of them has a say: a verified allocation has
    a bucket for every position, so two requests that differ in identities
    alone fall into the same allocation and are given the same least bucket
    there.  Every test is decided alike then, so gates open alike along a
    chain of any length. -/

namespace Cohort

open InSession Consistency

/-! ## The allocation of a selection -/

namespace Selection

variable {l l' : Rule.Library} {p : Provided} {d : Definition} {context : Context}

/-- Wherever the position is, an accepted allocation has a bucket for it. -/
theorem map_givenAt (hd : Accepted l' p d) {found : Option (Nat × Allocation)}
    (hfound : Settled l (scopeOf d context) 0 d.allocations (.ok found))
    (position : Float) :
    (givenAt d position found).map Selection.allocation = found.map Prod.snd := by
  cases found with
  | none => rfl
  | some found =>
      obtain ⟨b, -, hb⟩ :=
        exists_bucketAt (hd.allocation found.2 hfound.firstTrue.mem) position
      rw [givenAt, Option.bind_some, hb]
      rfl

/-- **THE POSITION HAS NO SAY** in the allocation that a request of an accepted
    definition falls into. -/
theorem allocation_select (hd : Accepted l' p d) (test : String)
    (identity : Option String) (drawn : Float) :
    (select l test d identity context drawn).value.map (Option.map Selection.allocation)
      = if d.testType.requiresIdentity && identity.isNone then .ok none
        else match answer l (scopeOf d context) d.rule with
        | .error err => .error err
        | .ok false => .ok none
        | .ok true => (matchAllocation l test (scopeOf d context) 0 d.allocations).value.map
            (Option.map Prod.snd) := by
  rw [value, fst_select]
  split
  · rfl
  · cases answer l (scopeOf d context) d.rule with
    | error err => rfl
    | ok b =>
        cases b with
        | false => rfl
        | true =>
            have hsettled := settled_matchAllocation l (scopeOf d context) test 0 d.allocations
            revert hsettled
            cases (matchAllocation l test (scopeOf d context) 0 d.allocations).value with
            | error err => exact fun _ => rfl
            | ok found => exact fun hfound => congrArg Except.ok (map_givenAt hd hfound _)

end Selection

namespace Resolver

open Selection

/-! ## Live buckets -/

/-- Both ways to write zero are the same number. -/
theorem zero_lt_iff {x : Float} : 0.0 < x ↔ 0 < x := by
  have hzero : (0.0 : Float) = 0 := rfl
  rw [hzero]

/-- The bucket values that an allocation has some length for. -/
def liveValues (a : Allocation) : Set Int32 :=
  {v | ∃ r ∈ a.ranges, 0 < r.length ∧ r.bucketValue = v}

theorem leastLive?_eq_some_iff {a : Allocation} {v : Int32} :
    leastLive? a.ranges = some v ↔ IsLeast (liveValues a) v := by
  have hmem : ∀ w, w ∈ (a.ranges.filter fun r => decide (0.0 < r.length)).map (·.bucketValue)
      ↔ w ∈ liveValues a := by
    intro w
    rw [List.mem_map]
    constructor
    · rintro ⟨r, hr, hvalue⟩
      obtain ⟨hmem, hpos⟩ := List.mem_filter.mp hr
      exact ⟨r, hmem, zero_lt_iff.mp (of_decide_eq_true hpos), hvalue⟩
    · rintro ⟨r, hmem, hpos, hvalue⟩
      exact ⟨r, List.mem_filter.mpr ⟨hmem, decide_eq_true (zero_lt_iff.mpr hpos)⟩, hvalue⟩
  rw [leastLive?, List.min?_eq_some_iff, hmem]
  exact and_congr_right fun _ => forall_congr' fun w => imp_congr_left (hmem w)

/-- The least live bucket of an allocation, as a choice. -/
def leastChoice? (d : Definition) (a : Allocation) : Option Choice :=
  ((leastLive? a.ranges).bind d.bucket?).map fun b => (b, "")

theorem leastChoice?_eq_some_iff {d : Definition} {a : Allocation} {c : Choice} :
    leastChoice? d a = some c
      ↔ IsLeast (liveValues a) c.1.value ∧ d.bucket? c.1.value = some c.1 ∧ c.2 = "" := by
  rw [leastChoice?, Option.map_eq_some_iff]
  constructor
  · rintro ⟨b, hb, rfl⟩
    obtain ⟨v, hv, hbucket⟩ := Option.bind_eq_some_iff.mp hb
    obtain rfl := (Definition.bucket?_eq_some hbucket).2
    exact ⟨leastLive?_eq_some_iff.mp hv, hbucket, rfl⟩
  · rintro ⟨hleast, hbucket, hid⟩
    refine ⟨c.1, Option.bind_eq_some_iff.mpr ⟨_, leastLive?_eq_some_iff.mpr hleast, hbucket⟩, ?_⟩
    rw [← hid]

/-- An accepted allocation has a least live bucket. -/
theorem exists_leastChoice {l : Rule.Library} {p : Provided} {d : Definition}
    {a : Allocation} (h : AllocationAccepted l p d a) : ∃ c, leastChoice? d a = some c := by
  obtain ⟨r, hr, hpos⟩ := exists_pos_of_total h.isLength h.total
  have hsome : leastLive? a.ranges ≠ none := by
    rw [leastLive?, Ne, List.min?_eq_none_iff]
    exact List.ne_nil_of_mem (List.mem_map_of_mem
      (List.mem_filter.mpr ⟨hr, decide_eq_true (zero_lt_iff.mpr hpos)⟩))
  obtain ⟨v, hv⟩ := Option.ne_none_iff_exists'.mp hsome
  obtain ⟨r', hr', -, rfl⟩ := (leastLive?_eq_some_iff.mp hv).1
  obtain ⟨b, hb⟩ :=
    Definition.exists_bucket?_iff.mpr (List.mem_map.mp (h.declared r' hr'))
  refine ⟨(b, ""), ?_⟩
  rw [leastChoice?, hv, Option.bind_some, hb]
  rfl

/-! ## Free choices -/

section Choices

variable (r : Resolver) {l : Rule.Library} {p : Provided} {ids ids' : Identifiers}
  (context : Context) (draws draws' : Draws) (test : String) {d : Definition}

/-- What is selected for a test, if no rule fails. -/
abbrev given (ids : Identifiers) (d : Definition) : Option Selection :=
  (select r.library test d (ids.get? d.testType) context (draws test)).value.toOption.join

theorem value_chooseFreely (mode : DefaultMode) :
    (r.chooseFreely ids context mode draws test d).value
      = if d.testType = .random ∧ ids.randomEnabled = false then none
        else (r.given context draws test ids d).bind (choiceOf mode d) := by
  rw [chooseFreely, given]
  split
  · rfl
  · rw [value, fst_bind, value]
    cases (select r.library test d (ids.get? d.testType) context (draws test)
      Session.fresh).1 with
    | error err => rfl
    | ok found =>
        cases found with
        | none => rfl
        | some s => rfl

/-- What is given was selected. -/
theorem selects_of_given {s : Selection} (h : r.given context draws test ids d = some s) :
    Selects r.library d (ids.get? d.testType) context
      (d.position test (ids.get? d.testType) (draws test)) (.ok (some s)) := by
  have hselects := selects_select r.library test d (ids.get? d.testType) context
    (draws test) Session.fresh
  obtain ⟨found, hfound, rfl⟩ := Option.bind_eq_some_iff.mp h
  rw [← value] at hselects
  cases hvalue : (select r.library test d (ids.get? d.testType) context
      (draws test)).value with
  | error err =>
      rw [hvalue] at hfound
      cases hfound
  | ok found =>
      rw [hvalue] at hfound hselects
      obtain rfl := Option.some.inj hfound
      exact hselects

/-- The same types have an identity, and tests of random type apply to both or to
    neither.  The identities themselves are any. -/
structure SamePresence (ids ids' : Identifiers) : Prop where
  present : ∀ t, (ids.get? t).isSome = (ids'.get? t).isSome
  random : ids.randomEnabled = ids'.randomEnabled

/-- An identity may be replaced by any other. -/
theorem samePresence_insert (ids : Identifiers) (t : TestType) (identity identity' : String) :
    SamePresence (ids.insert t identity) (ids.insert t identity') := by
  refine ⟨?_, rfl⟩
  intro t'
  simp only [Identifiers.insert, Identifiers.get?, List.find?_cons]
  cases t == t' with
  | true => rfl
  | false => rfl

/-- Both fall into the same allocation. -/
theorem map_given (hd : Accepted l p d) (h : SamePresence ids ids') :
    (r.given context draws test ids d).map Selection.allocation
      = (r.given context draws' test ids' d).map Selection.allocation := by
  have hmap : ∀ found : Except Rule.Error (Option Selection),
      found.toOption.join.map Selection.allocation
        = (found.map (Option.map Selection.allocation)).toOption.join := by
    rintro (err | found)
    · rfl
    · rfl
  have hnone : (ids.get? d.testType).isNone = (ids'.get? d.testType).isNone := by
    rw [← Option.not_isSome, ← Option.not_isSome, h.present]
  rw [given, given, hmap, hmap, allocation_select hd, allocation_select hd, hnone]

theorem bind_choiceOf_minLive (found : Option Selection) :
    found.bind (choiceOf .minLive d)
      = (found.map Selection.allocation).bind (leastChoice? d) := by
  cases found with
  | none => rfl
  | some s => rfl

/-- **THE IDENTITY HAS NO SAY** in the free choice of this mode. -/
theorem chooseFreely_minLive_congr (hd : Accepted l p d) (h : SamePresence ids ids') :
    (r.chooseFreely ids context .minLive draws test d).value
      = (r.chooseFreely ids' context .minLive draws' test d).value := by
  rw [value_chooseFreely, value_chooseFreely, bind_choiceOf_minLive, bind_choiceOf_minLive,
    r.map_given context draws draws' test hd h]
  simp only [h.random]

/-- Both modes choose for the same requests, this one no greater bucket. -/
theorem chooseFreely_minLive_le (hd : Accepted l p d) (h : SamePresence ids ids') :
    Option.Rel (fun c c' : Choice => c.1.value ≤ c'.1.value)
      (r.chooseFreely ids context .minLive draws test d).value
      (r.chooseFreely ids' context .normal draws' test d).value := by
  rw [value_chooseFreely, value_chooseFreely, bind_choiceOf_minLive,
    r.map_given context draws draws' test hd h]
  simp only [h.random]
  split
  · exact .none
  · cases hgiven : r.given context draws' test ids' d with
    | none => exact .none
    | some s =>
        have hselects := r.selects_of_given context draws' test hgiven
        obtain ⟨-, -, hfirst, -⟩ := hselects.of_some
        obtain ⟨-, range, hrange, hpos, hvalue⟩ := hselects.offers hd
        obtain ⟨c, hc⟩ := exists_leastChoice (hd.allocation s.allocation hfirst.mem)
        show Option.Rel _ (leastChoice? d s.allocation) (some (s.bucket, s.allocation.id))
        rw [hc]
        exact .some ((leastChoice?_eq_some_iff.mp hc).1.2 ⟨range, hrange, hpos, hvalue⟩)

end Choices

/-! ## Whole resolutions -/

section Resolutions

variable (r : Resolver) {l : Rule.Library} {p : Provided} {a : Artifact}
  {ids ids' : Identifiers} (context : Context) {force : ForceGroups}
  (draws draws' : Draws) (requested : Requested)

theorem choiceFor_minLive_congr
    (haccepted : ∀ n d, a.tests.get? n = some d → Accepted l p d)
    (h : SamePresence ids ids') (hmode : force.mode = .minLive) :
    r.choiceFor a ids context force draws = r.choiceFor a ids' context force draws' := by
  funext chosen n
  rw [choiceFor, choiceFor]
  cases hd : a.tests.get? n with
  | none => rfl
  | some d =>
      have hfreely := r.chooseFreely_minLive_congr context draws draws' n
        (haccepted n d hd) h
      cases hforced : forcedBucket? force n d with
      | some b => simp only [r.choose_of_forced _ context force _ hforced]
      | none =>
          have hserves : force.mode ≠ .fallback := by rw [hmode]; decide
          simp only [r.choose_of_free _ context force _ hforced hserves, hmode]
          split
          · split
            · exact hfreely
            · rfl
          · rfl

/-- Gates open alike, so whole walks end with the same choices. -/
theorem finalChoices_minLive_congr
    (haccepted : ∀ n d, a.tests.get? n = some d → Accepted l p d)
    (h : SamePresence ids ids') (hmode : force.mode = .minLive) :
    r.finalChoices a ids context force draws requested
      = r.finalChoices a ids' context force draws' requested := by
  rw [finalChoices, choices, value, fst_walk, finalChoices, choices, value, fst_walk,
    r.choiceFor_minLive_congr context draws draws' haccepted h hmode]

variable {requested} {n : String} {d : Definition}

/-- A choice that was not forced is the least live bucket of the allocation that the
    request fell into. -/
theorem leastLive_of_finalChoices {c : Choice} (hmode : force.mode = .minLive)
    (hd : a.tests.get? n = some d) (hfree : forcedBucket? force n d = none)
    (h : (r.finalChoices a ids context force draws requested).get? n = some c) :
    ∃ index allocation,
      FirstTrue r.library (scopeOf d context) d.allocations index allocation ∧
      IsLeast (liveValues allocation) c.1.value ∧
      d.bucket? c.1.value = some c.1 ∧ c.2 = "" := by
  obtain ⟨-, hchoice⟩ := choiceFor_of_finalChoices ids context force draws h
  obtain ⟨e, he, -, hchoose⟩ :=
    (r.choiceFor_eq_some_iff a ids context force draws).mp hchoice
  obtain rfl : d = e := Option.some.inj (hd.symm.trans he)
  have hgate := (r.gate_of_choose ids context force draws hfree hchoose).2
  rw [r.choose_of_free ids context force draws hfree (by rw [hmode]; nofun), if_pos hgate,
    value_chooseFreely, hmode] at hchoose
  split at hchoose
  · exact nomatch hchoose
  · obtain ⟨s, hs, hleast⟩ := Option.bind_eq_some_iff.mp hchoose
    obtain ⟨-, -, hfirst, -⟩ := (r.selects_of_given context draws n hs).of_some
    exact ⟨s.index, s.allocation, hfirst, leastChoice?_eq_some_iff.mp hleast⟩

/-- A test without a parent is decided as in the normal mode, but for its bucket. -/
theorem choiceFor_minLive_le
    (haccepted : ∀ n d, a.tests.get? n = some d → Accepted l p d)
    (h : SamePresence ids ids') (hmode : force.mode = .minLive)
    (hroot : ∀ d, a.tests.get? n = some d → d.dependsOn = none) (chosen chosen' : Choices) :
    Option.Rel (fun c c' : Choice => c.1.value ≤ c'.1.value)
      (r.choiceFor a ids context force draws chosen n)
      (r.choiceFor a ids' context { force with mode := .normal } draws' chosen' n) := by
  rw [choiceFor, choiceFor]
  cases hd : a.tests.get? n with
  | none => exact .none
  | some d =>
      show Option.Rel _ (if r.admits n then _ else _) (if r.admits n then _ else _)
      split
      · have hforced : forcedBucket? { force with mode := .normal } n d
            = forcedBucket? force n d := rfl
        cases hbucket : forcedBucket? force n d with
        | some b =>
            rw [r.choose_of_forced ids context force draws hbucket,
              r.choose_of_forced ids' context _ draws' (hforced.trans hbucket)]
            exact .some (Int32.le_refl _)
        | none =>
            have hserves : force.mode ≠ .fallback := by rw [hmode]; decide
            have hnormal : DefaultMode.normal ≠ .fallback := by decide
            rw [r.choose_of_free ids context force draws hbucket hserves,
              r.choose_of_free ids' context _ draws' (hforced.trans hbucket) hnormal,
              gateOpen_of_root (hroot d hd), gateOpen_of_root (hroot d hd), hmode]
            exact r.chooseFreely_minLive_le context draws draws' n (haccepted n d hd) h
      · exact .none

theorem finalChoices_minLive_le
    (haccepted : ∀ n d, a.tests.get? n = some d → Accepted l p d)
    (h : SamePresence ids ids') (hmode : force.mode = .minLive)
    (hroot : ∀ d, a.tests.get? n = some d → d.dependsOn = none) :
    Option.Rel (fun c c' : Choice => c.1.value ≤ c'.1.value)
      ((r.finalChoices a ids context force draws requested).get? n)
      ((r.finalChoices a ids' context { force with mode := .normal } draws' requested).get? n) := by
  by_cases hn : n ∈ r.orderOf a requested
  · rw [r.get?_finalChoices a ids context force draws requested hn,
      r.get?_finalChoices a ids' context _ draws' requested hn]
    exact r.choiceFor_minLive_le context draws draws' haccepted h hmode hroot _ _
  · rw [r.get?_finalChoices_of_notMem a ids context force draws requested hn,
      r.get?_finalChoices_of_notMem a ids' context _ draws' requested hn]
    exact .none

/-- **WHO ASKS DOES NOT MATTER**: in this mode, requests of a verified artifact that
    differ in identities and in what is drawn get the same result, at one time:
    the functions of rules, the clock among them, are the same for both.  Whoever is
    reported in a bucket that was not forced is in the least live one of the
    first allocation whose rule is true.  A test without a parent is reported
    exactly when it is in the normal mode, and in no greater bucket. -/
theorem minLive_ignores_identity {source : String} {s₀ : Session}
    (hclean : (verifyAll l p source a s₀).1 = NameMap.empty)
    (h : SamePresence ids ids') (hmode : force.mode = .minLive) (requested : Requested)
    (s s' : Session) :
    (r.resolve a ids context requested force draws s).1
      = (r.resolve a ids' context requested force draws' s').1 ∧
    (∀ n d c, a.tests.get? n = some d →
      r.reported a ids context requested force draws s n = some c →
      (∀ value, force.forced.get? n = some value → ¬ Declares d value) →
      ∃ index allocation,
        FirstTrue r.library (scopeOf d context) d.allocations index allocation ∧
        IsLeast (liveValues allocation) c.1.value ∧
        d.bucket? c.1.value = some c.1 ∧ c.2 = "") ∧
    (∀ n, (∀ d, a.tests.get? n = some d → d.dependsOn = none) →
      Option.Rel (fun c c' : Choice => c.1.value ≤ c'.1.value)
        (r.reported a ids context requested force draws s n)
        (r.reported a ids' context requested { force with mode := .normal } draws' s' n)) := by
  have haccepted : ∀ n d, a.tests.get? n = some d → Accepted l p d :=
    fun _ _ hd => accepted_of_verifyAll l p hclean hd
  refine ⟨?_, ?_, ?_⟩
  · rw [fst_resolve, fst_resolve,
      r.finalChoices_minLive_congr context draws draws' requested haccepted h hmode]
  · intro n d c hd hc hidle
    obtain ⟨-, hchosen⟩ := finalChoices_of_reported ids context force draws hc
    exact r.leastLive_of_finalChoices context draws hmode hd
      (forcedBucket?_eq_none force hidle) hchosen
  · intro n hroot
    rw [reported_eq, reported_eq]
    split
    · exact r.finalChoices_minLive_le context draws draws' haccepted h hmode hroot
    · exact .none

/-- A draw, and a prize for those who are drawn for the first bucket. -/
def raffle : Artifact :=
  snapshot [("draw", evenSplit "random:d" none),
    ("prize", evenSplit "p" (some ⟨"draw", 0⟩))]

/-- Everyone is put into the least live bucket. -/
def least : ForceGroups := ⟨NameMap.empty, .minLive⟩

/-- Two visitors are drawn for different buckets, but in this mode both get the
    prize. -/
theorem everyone_gets_prize :
    (verifyAll plainResolver.library Provided.syntaxOnly "matrix" raffle
      Session.fresh).1 = NameMap.empty ∧
    (plainResolver.resolve raffle visitor NameMap.empty .all least (fun _ => 0.25)
        Session.fresh).1
      = (plainResolver.resolve raffle (Identifiers.none.insert .user "u7") NameMap.empty
          .all least (fun _ => 0.75) Session.fresh).1 ∧
    (∃ c index allocation,
      plainResolver.reported raffle visitor NameMap.empty .all least (fun _ => 0.25)
        Session.fresh "draw" = some c ∧
      FirstTrue plainResolver.library (scopeOf (evenSplit "random:d" none) NameMap.empty)
        (evenSplit "random:d" none).allocations index allocation ∧
      IsLeast (liveValues allocation) c.1.value) ∧
    (plainResolver.reported raffle visitor NameMap.empty .all least (fun _ => 0.25)
      Session.fresh "prize").map (·.1.name) = some "control" := by
  have hempty : (verifyAll plainResolver.library Provided.syntaxOnly "matrix" raffle
      Session.fresh).1 = NameMap.empty := NameMap.isEmpty_iff.mp (by decide +kernel)
  obtain ⟨hsame, hleast, -⟩ := plainResolver.minLive_ignores_identity NameMap.empty
    (fun _ => 0.25) (fun _ => 0.75) hempty
    (samePresence_insert Identifiers.none .user "u6" "u7") (show least.mode = .minLive from rfl)
    .all
    Session.fresh Session.fresh
  refine ⟨hempty, hsame, ?_, by decide +kernel⟩
  obtain ⟨c, hc⟩ := Option.isSome_iff_exists.mp
    (show (plainResolver.reported raffle visitor NameMap.empty .all least (fun _ => 0.25)
      Session.fresh "draw").isSome = true by decide +kernel)
  obtain ⟨index, allocation, hfirst, hvalue, -⟩ := hleast "draw" _ c rfl hc nofun
  exact ⟨c, index, allocation, hc, hfirst, hvalue⟩

end Resolutions

end Resolver

end Cohort
