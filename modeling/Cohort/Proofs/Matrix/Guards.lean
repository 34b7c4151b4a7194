import Cohort.Matrix
import Cohort.Proofs.Resolution.Forcing

/-! # Guards of forced groups

    Code under test forces groups on its thread, and holds a guard for every
    time it did.  A guard remembers what it saw under its names and puts that
    back when it is dropped, whatever has been forced or put back meanwhile.
    So what is left under a name once no guard over it is held is what the
    guard dropped last had seen.  A guard sees what the older ones forced, and
    only the oldest guard over a name has seen what stood there before all of
    them: the thread is restored if that guard is the last to go. -/

namespace Cohort

namespace ThreadForced

variable (forced : ThreadForced) (groups : List (String × Int32)) (n : String)

/-! ## One guard -/

/-- What the guard saw under a name before it was forced, if it is a guard over that
    name. -/
def Guard.saw (g : Guard) (name : String) : Option (Option Int32) :=
  g.previous.lookup name

/-- The guard will put something back under the name. -/
def Guard.IsOver (g : Guard) (name : String) : Prop :=
  ∃ v, g.saw name = some v

theorem get?_putBack (e : String × Option Int32) :
    (putBack forced e).get? n = if n = e.1 then e.2 else forced.get? n := by
  rw [putBack]
  cases e.2 with
  | none => exact NameMap.get?_erase forced e.1 n
  | some value => exact NameMap.get?_insert forced e.1 value n

/-- **A DROPPED GUARD** leaves under its names what it saw there first, and nothing else
    is changed. -/
theorem get?_drop (g : Guard) :
    (forced.drop g).get? n = (g.saw n).getD (forced.get? n) := by
  rw [drop, Guard.saw, List.foldl_reverse]
  induction g.previous with
  | nil => rfl
  | cons e rest ih =>
      -- the first entry is put back last, so it stands for later ones of its name
      rw [List.foldr_cons, get?_putBack, ih]
      by_cases hn : n = e.1
      · rw [if_pos hn, hn, List.lookup_cons_self, Option.getD_some]
      · rw [if_neg hn, List.lookup_cons, beq_false_of_ne hn]

/-- A new guard is over the forced names, and saw what stood there before the call, also
    if a name is forced twice. -/
theorem saw_forceAll :
    (forced.forceAll groups).1.saw n
      = if n ∈ groups.map Prod.fst then some (forced.get? n) else none := by
  induction groups generalizing forced with
  | nil => rfl
  | cons e rest ih =>
      obtain ⟨name, value⟩ := e
      have hsaw : (forced.forceAll ((name, value) :: rest)).1.saw n
          = if n = name then some (forced.get? name)
            else (forceAll (forced.insert name value) rest).1.saw n := by
        rw [forceAll, Guard.saw, List.lookup_cons]
        by_cases hn : n = name
        · rw [if_pos hn, hn, beq_self_eq_true]
        · rw [if_neg hn, beq_false_of_ne hn]
          rfl
      rw [hsaw, List.map_cons, ih]
      by_cases hn : n = name
      · rw [if_pos hn, if_pos (hn ▸ List.mem_cons_self), hn]
      · rw [if_neg hn, NameMap.get?_insert_ne _ _ hn]
        simp only [List.mem_cons, hn, false_or]

/-- Names that are not forced keep what stands there. -/
theorem get?_forceAll_of_notMem (h : n ∉ groups.map Prod.fst) :
    (forced.forceAll groups).2.get? n = forced.get? n := by
  induction groups generalizing forced with
  | nil => rfl
  | cons e rest ih =>
      obtain ⟨name, value⟩ := e
      show (forceAll (forced.insert name value) rest).2.get? n = _
      rw [ih _ (List.not_mem_of_not_mem_cons h)]
      exact NameMap.get?_insert_ne _ _ (List.ne_of_not_mem_cons h)

/-- What the guards over a name saw there, one after the other. -/
def seen (guards : List Guard) (name : String) : List (Option Int32) :=
  guards.filterMap (·.saw name)

theorem seen_append (guards guards' : List Guard) :
    seen (guards ++ guards') n = seen guards n ++ seen guards' n :=
  List.filterMap_append

theorem seen_cons (g : Guard) (guards : List Guard) :
    seen (g :: guards) n = (g.saw n).toList ++ seen guards n := by
  rw [seen, List.filterMap_cons]
  cases g.saw n with
  | none => rfl
  | some v => rfl

theorem seen_singleton (g : Guard) : seen [g] n = (g.saw n).toList := by
  rw [seen_cons]
  exact List.append_nil _

theorem seen_eq_nil_iff {guards : List Guard} :
    seen guards n = [] ↔ ∀ g ∈ guards, ¬ g.IsOver n := by
  simp [seen, Guard.IsOver, Option.eq_none_iff_forall_ne_some]

end ThreadForced

/-! ## Calls that fail -/

namespace Matrix

open Resolver (Declares)

/-- The groups are buckets of tests of the current artifact. -/
def Has (m : Matrix) (groups : List (String × Int32)) : Prop :=
  ∃ a, m.artifact = some a ∧
    ∀ e ∈ groups, ∃ d, a.tests.get? e.1 = some d ∧ Declares d e.2

theorem unknownGroup?_cons {a : Artifact} {name : String} {value : Int32}
    {rest : List (String × Int32)} :
    unknownGroup? a ((name, value) :: rest) = none ↔
      (∃ d, a.tests.get? name = some d ∧ Declares d value) ∧ unknownGroup? a rest = none := by
  rw [unknownGroup?]
  cases a.tests.get? name with
  | none =>
      constructor
      · intro h
        cases h
      · rintro ⟨⟨d, hd, -⟩, -⟩
        cases hd
  | some d =>
      simp only [Option.some.injEq, exists_eq_left']
      have hdeclares : Declares d value ↔ ∃ b, d.bucket? value = some b :=
        Definition.exists_bucket?_iff.symm
      rw [hdeclares]
      cases d.bucket? value with
      | none =>
          constructor
          · intro h
            cases h
          · rintro ⟨⟨b, hb⟩, -⟩
            cases hb
      | some b => exact (and_iff_right ⟨b, rfl⟩).symm

theorem unknownGroup?_eq_none_iff {a : Artifact} {groups : List (String × Int32)} :
    unknownGroup? a groups = none
      ↔ ∀ e ∈ groups, ∃ d, a.tests.get? e.1 = some d ∧ Declares d e.2 := by
  induction groups with
  | nil => simp [unknownGroup?]
  | cons e rest ih => rw [unknownGroup?_cons, ih, List.forall_mem_cons]

variable {m : Matrix} {forced : ThreadForced} {groups : List (String × Int32)}

/-- Groups that the artifact has are forced, one after the other. -/
theorem forceGroups_of_has (h : m.Has groups) :
    m.forceGroups forced groups
      = (.ok (forced.forceAll groups).1, (forced.forceAll groups).2) := by
  obtain ⟨a, ha, hall⟩ := h
  simp only [forceGroups, ha, unknownGroup?_eq_none_iff.mpr hall]

/-- If there is one that it does not have, the call fails, and what is forced on the
    thread stays as it was. -/
theorem exists_error_of_not_has (h : ¬ m.Has groups) :
    ∃ e, m.forceGroups forced groups = (.error e, forced) := by
  rw [forceGroups]
  cases ha : m.artifact with
  | none => exact ⟨_, rfl⟩
  | some a =>
      cases hunknown : unknownGroup? a groups with
      | none => exact absurd ⟨a, ha, unknownGroup?_eq_none_iff.mp hunknown⟩ h
      | some e => exact ⟨e, by simp only [hunknown]⟩

end Matrix

/-! ## Code under test -/

/-- What code under test does on its thread. -/
inductive GuardStep where
  /-- Forces groups, each time perhaps against another artifact. -/
  | force (m : Matrix) (groups : List (String × Int32))
  /-- Drops one of the guards that are held, counted from the oldest. -/
  | drop (index : Nat)

/-- What is forced on the thread, and the guards that are held there, the oldest
    first. -/
structure TestThread where
  forced : ThreadForced
  guards : List ThreadForced.Guard

namespace TestThread

open ThreadForced Resolver

/-- A thread on which no guard is held. -/
def start (initial : ThreadForced) : TestThread := ⟨initial, []⟩

/-- The thread after a step.  A call that fails makes no guard. -/
def next (t : TestThread) : GuardStep → TestThread
  | .force m groups => match m.forceGroups t.forced groups with
    | (.error _, forced) => ⟨forced, t.guards⟩
    | (.ok guard, forced) => ⟨forced, t.guards ++ [guard]⟩
  | .drop i => match t.guards[i]? with
    | none => t
    | some guard => ⟨t.forced.drop guard, t.guards.eraseIdx i⟩

/-- The thread after some steps. -/
def run (t : TestThread) (steps : List GuardStep) : TestThread :=
  steps.foldl next t

/-- The guard that a step drops. -/
def dropped (t : TestThread) : GuardStep → Option Guard
  | .force _ _ => none
  | .drop i => t.guards[i]?

variable {t : TestThread} {m : Matrix} {groups : List (String × Int32)} {n : String}

/-- **A CALL THAT FAILS** leaves everything as it was. -/
theorem next_of_not_has (h : ¬ m.Has groups) : t.next (.force m groups) = t := by
  obtain ⟨e, he⟩ : ∃ e, m.forceGroups t.forced groups = (.error e, t.forced) :=
    Matrix.exists_error_of_not_has h
  simp only [next, he]

/-! ## What a step does to a name -/

/-- What a step can do to a name: nothing, force it under a new guard, or put back
    what a guard over it saw. -/
inductive Touches (t : TestThread) (n : String) (step : GuardStep) : Prop where
  | nothing : (t.dropped step).bind (·.saw n) = none →
      (t.next step).forced.get? n = t.forced.get? n →
      seen (t.next step).guards n = seen t.guards n → Touches t n step
  | forces : (t.dropped step).bind (·.saw n) = none →
      seen (t.next step).guards n = seen t.guards n ++ [t.forced.get? n] →
      Touches t n step
  | putsBack (i : Nat) (v : Option Int32) : step = .drop i →
      (t.dropped step).bind (·.saw n) = some v →
      (t.next step).forced.get? n = v →
      seen t.guards n = seen (t.guards.take i) n ++ v :: seen (t.guards.drop (i + 1)) n →
      seen (t.next step).guards n
        = seen (t.guards.take i) n ++ seen (t.guards.drop (i + 1)) n →
      Touches t n step

theorem touches_force (t : TestThread) (m : Matrix) (groups : List (String × Int32))
    (n : String) : Touches t n (.force m groups) := by
  by_cases hhas : m.Has groups
  · have hnext : t.next (.force m groups)
        = ⟨(forceAll t.forced groups).2, t.guards ++ [(forceAll t.forced groups).1]⟩ := by
      simp only [next, Matrix.forceGroups_of_has hhas]
    have hseen : seen (t.next (.force m groups)).guards n
        = seen t.guards n ++ ((forceAll t.forced groups).1.saw n).toList := by
      rw [hnext, seen_append, seen_singleton]
    rw [saw_forceAll] at hseen
    by_cases hn : n ∈ groups.map Prod.fst
    · rw [if_pos hn] at hseen
      exact Touches.forces rfl hseen
    · rw [if_neg hn, Option.toList_none, List.append_nil] at hseen
      refine Touches.nothing rfl ?_ hseen
      rw [hnext]
      exact get?_forceAll_of_notMem t.forced groups n hn
  · have hnext := next_of_not_has (t := t) hhas
    exact Touches.nothing rfl (by rw [hnext]) (by rw [hnext])

theorem touches_drop (t : TestThread) (i : Nat) (n : String) : Touches t n (.drop i) := by
  cases hg : t.guards[i]? with
  | none =>
      have hnext : t.next (.drop i) = t := by simp only [next, hg]
      refine Touches.nothing ?_ (by rw [hnext]) (by rw [hnext])
      rw [dropped, hg, Option.bind_none]
  | some g =>
      have hnext : t.next (.drop i) = ⟨t.forced.drop g, t.guards.eraseIdx i⟩ := by
        simp only [next, hg]
      have hsaw : (t.dropped (.drop i)).bind (·.saw n) = g.saw n := by
        rw [dropped, hg, Option.bind_some]
      have hforced : (t.next (.drop i)).forced.get? n
          = (g.saw n).getD (t.forced.get? n) := by
        rw [hnext]
        exact get?_drop t.forced n g
      -- the dropped guard stands between the older and the younger ones
      have hsplit : t.guards = t.guards.take i ++ g :: t.guards.drop (i + 1) := by
        obtain ⟨hi, rfl⟩ := List.getElem?_eq_some_iff.mp hg
        rw [← List.drop_eq_getElem_cons hi, List.take_append_drop]
      have hbefore : seen t.guards n = seen (t.guards.take i) n
          ++ ((g.saw n).toList ++ seen (t.guards.drop (i + 1)) n) := by
        rw [← seen_cons, ← seen_append, ← hsplit]
      have hafter : seen (t.next (.drop i)).guards n
          = seen (t.guards.take i) n ++ seen (t.guards.drop (i + 1)) n := by
        rw [hnext, List.eraseIdx_eq_take_drop_succ, seen_append]
      cases hv : g.saw n with
      | none =>
          rw [hv] at hsaw hforced hbefore
          exact Touches.nothing hsaw hforced (hafter.trans hbefore.symm)
      | some v =>
          rw [hv] at hsaw hforced hbefore
          exact Touches.putsBack i v rfl hsaw hforced hbefore hafter

theorem touches (t : TestThread) (n : String) (step : GuardStep) : Touches t n step := by
  cases step with
  | force m groups => exact touches_force t m groups n
  | drop i => exact touches_drop t i n

/-! ## The guard that is dropped last -/

/-- What the guard over a name that is dropped last sees under it, if one is dropped. -/
def lastSeen (n : String) : TestThread → List GuardStep → Option (Option Int32)
  | _, [] => none
  | t, step :: rest =>
      (lastSeen n (t.next step) rest).or ((t.dropped step).bind (·.saw n))

/-- What is left under a name once no guard over it is held. -/
theorem get?_run_of_seen_eq_nil {steps : List GuardStep}
    (h : seen (t.run steps).guards n = []) :
    (t.run steps).forced.get? n = (lastSeen n t steps).getD (t.forced.get? n) ∧
      (lastSeen n t steps = none → seen t.guards n = []) := by
  induction steps generalizing t with
  | nil => exact ⟨rfl, fun _ => h⟩
  | cons step rest ih =>
      obtain ⟨hrest, hheld⟩ := ih (t := t.next step) h
      rw [lastSeen]
      show ((t.next step).run rest).forced.get? n = _ ∧ _
      cases hlast : lastSeen n (t.next step) rest with
      | some v =>
          rw [hlast] at hrest
          rw [Option.some_or]
          exact ⟨hrest, nofun⟩
      | none =>
          -- no guard over the name is dropped later, so none is held now
          rw [hlast, Option.getD_none] at hrest
          have hheld := hheld hlast
          rw [Option.none_or, hrest]
          cases touches t n step with
          | nothing hdropped hforced hseen =>
              rw [hdropped, Option.getD_none]
              exact ⟨hforced, fun _ => hseen ▸ hheld⟩
          | forces _ hseen =>
              rw [hseen] at hheld
              exact absurd hheld (List.append_ne_nil_of_right_ne_nil _ (List.cons_ne_nil _ _))
          | putsBack _ v _ hdropped hforced _ _ =>
              rw [hdropped]
              exact ⟨hforced, nofun⟩

/-! ## The oldest guard -/

/-- What stood under a name before the guards that are over it now. -/
def origin (t : TestThread) (n : String) : Option Int32 :=
  ((seen t.guards n).head?).getD (t.forced.get? n)

/-- If the step drops a guard over a name, then an older one over it stays, or there is
    no younger one over it. -/
def KeepsOldest (t : TestThread) (n : String) : GuardStep → Prop
  | .force _ _ => True
  | .drop i => ∀ g, t.guards[i]? = some g → g.IsOver n →
      (∃ older ∈ t.guards.take i, older.IsOver n) ∨
        ∀ younger ∈ t.guards.drop (i + 1), ¬ younger.IsOver n

/-- The youngest guard of all can always be dropped. -/
theorem keepsOldest_of_youngest {i : Nat} (h : t.guards.length ≤ i + 1) :
    t.KeepsOldest n (.drop i) := by
  intro g _ _
  rw [List.drop_eq_nil_of_le h]
  exact Or.inr fun younger hyounger => nomatch hyounger

/-- **ONE STEP** keeps the origin of a name. -/
theorem origin_next {step : GuardStep} (h : t.KeepsOldest n step) :
    (t.next step).origin n = t.origin n := by
  rw [origin, origin]
  cases touches t n step with
  | nothing _ hforced hseen => rw [hforced, hseen]
  | forces _ hseen =>
      rw [hseen]
      cases seen t.guards n with
      | nil => rfl
      | cons v rest => rfl
  | putsBack i v hstep hdropped hforced hbefore hafter =>
      subst hstep
      obtain ⟨g, hg, hv⟩ := Option.bind_eq_some_iff.mp hdropped
      rw [hbefore, hafter, hforced]
      cases hseen : seen (t.guards.take i) n with
      | cons w rest => rfl
      | nil =>
          -- the oldest guard goes, so it was the only one
          have hyounger : seen (t.guards.drop (i + 1)) n = [] := by
            refine (seen_eq_nil_iff n).mpr ((h g hg ⟨v, hv⟩).resolve_left ?_)
            rintro ⟨older, holder, hover⟩
            exact (seen_eq_nil_iff n).mp hseen older holder hover
          rw [hyounger]
          rfl

/-- All steps do so. -/
def AllKeepOldest (n : String) : TestThread → List GuardStep → Prop
  | _, [] => True
  | t, step :: rest => t.KeepsOldest n step ∧ AllKeepOldest n (t.next step) rest

/-- **A WHOLE RUN** keeps it, too. -/
theorem origin_run {steps : List GuardStep} (h : AllKeepOldest n t steps) :
    (t.run steps).origin n = t.origin n := by
  induction steps generalizing t with
  | nil => rfl
  | cons step rest ih =>
      show ((t.next step).run rest).origin n = _
      rw [ih h.2, origin_next h.1]

theorem origin_of_guards_eq_nil (h : t.guards = []) : t.origin n = t.forced.get? n := by
  rw [origin, h]
  rfl

/-- **THE OLDEST GUARD RESTORES**: once all guards are dropped, each name is left with
    what the guard over it that was dropped last had seen.  If no guard was
    dropped while it was the oldest of several over a name, the thread is as it
    was before all of them.  A call for a group that the artifact does not have
    fails and leaves what is forced, and the guards, as they were. -/
theorem oldest_guard_restores (initial : ThreadForced) (steps : List GuardStep)
    (hdropped : ((start initial).run steps).guards = []) :
    (∀ n, ((start initial).run steps).forced.get? n
      = (lastSeen n (start initial) steps).getD (initial.get? n)) ∧
    (∀ n, AllKeepOldest n (start initial) steps →
      ((start initial).run steps).forced.get? n = initial.get? n) ∧
    ((∀ n, AllKeepOldest n (start initial) steps) →
      ((start initial).run steps).forced = initial) ∧
    (∀ (t : TestThread) m groups, ¬ m.Has groups →
      (∃ e, m.forceGroups t.forced groups = (.error e, t.forced)) ∧
        t.next (.force m groups) = t) := by
  have hname : ∀ n, AllKeepOldest n (start initial) steps →
      ((start initial).run steps).forced.get? n = initial.get? n := by
    intro n hkeep
    have horigin := origin_run hkeep
    rw [origin_of_guards_eq_nil hdropped] at horigin
    exact horigin
  refine ⟨?_, hname, ?_, ?_⟩
  · intro n
    have hseen : seen ((start initial).run steps).guards n = [] := by
      rw [hdropped]
      rfl
    exact (get?_run_of_seen_eq_nil hseen).1
  · exact fun hkeep => NameMap.ext_get? fun n => hname n (hkeep n)
  · intro t m groups hhas
    exact ⟨Matrix.exists_error_of_not_has hhas, next_of_not_has hhas⟩

/-- The handle of the family. -/
def familyMatrix : Matrix := ⟨some family, plainResolver⟩

/-- Two guards, one within the other, and a call that fails between them.  The first
    call names the parent twice. -/
def nestedSteps : List GuardStep :=
  [.force familyMatrix [("parent", 0), ("child", 1), ("parent", 1)],
    .force familyMatrix [("child", 0), ("parent", 7)],
    .force familyMatrix [("parent", 0)], .drop 1, .drop 0]

/-- The thread on which the parent is forced already. -/
def parentForced : ThreadForced := NameMap.ofList [("parent", 1)]

/-- Nested guards restore the thread, and the call that fails has changed nothing. -/
theorem nested_guards_restore :
    ((start parentForced).run nestedSteps).guards = [] ∧
    ((start parentForced).run nestedSteps).forced = parentForced ∧
    (∃ e, familyMatrix.forceGroups parentForced [("child", 0), ("parent", 7)]
      = (.error e, parentForced)) := by
  have hdropped : ((start parentForced).run nestedSteps).guards = [] :=
    List.isEmpty_iff.mp (by decide +kernel)
  obtain ⟨-, -, hrestored, hfails⟩ := oldest_guard_restores parentForced nestedSteps hdropped
  refine ⟨hdropped, hrestored fun n => ?_, (hfails (start parentForced) _ _ ?_).1⟩
  · refine ⟨trivial, trivial, trivial, ?_, ?_, trivial⟩
    · exact keepsOldest_of_youngest (by decide +kernel)
    · exact keepsOldest_of_youngest (by decide +kernel)
  · rintro ⟨a, ⟨⟩, hall⟩
    obtain ⟨d, hd, hdeclared⟩ := hall ("parent", 7) (by simp)
    obtain rfl : parentTest = d := Option.some.inj hd
    obtain ⟨b, hb⟩ := Definition.exists_bucket?_iff.mpr hdeclared
    exact nomatch hb

/-- Two guards over the parent, of which the older one is dropped first. -/
def crossedSteps : List GuardStep :=
  [.force familyMatrix [("parent", 0)], .force familyMatrix [("parent", 1)], .drop 0, .drop 0]

/-- **CROSSED GUARDS DO NOT RESTORE**: no guard is held any more, and the parent, which
    was not forced before, stays forced to the bucket of the older guard. -/
theorem crossed_guards_leave_parent :
    ((start NameMap.empty).run crossedSteps).guards = [] ∧
    ((start NameMap.empty).run crossedSteps).forced.get? "parent" = some 0 ∧
    ((start NameMap.empty).run crossedSteps).forced ≠ NameMap.empty := by
  have hleft : ((start NameMap.empty).run crossedSteps).forced.get? "parent" = some 0 := by
    decide +kernel
  refine ⟨List.isEmpty_iff.mp (by decide +kernel), hleft, ?_⟩
  intro hrestored
  rw [hrestored] at hleft
  exact nomatch hleft

end TestThread

end Cohort
