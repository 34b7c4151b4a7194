import Cohort.Proofs.Consistency.Acceptance
import Cohort.Proofs.Rule.Undefined
import Cohort.Proofs.Selection
import Cohort.Proofs.Selection.Parts

/-! # What a selection comes to

    A request without the identity it needs is given nothing.  For any other
    one the rule of the test is asked, and then the rules of the allocations
    in their order, up to the first that is true or fails.  All that a
    selection can come to is said once, as a relation; what accepted
    definitions rule out is read off it. -/

namespace Cohort.Selection

open InSession Consistency

/-! ## The first allocation that matches -/

section Settled

variable (l : Rule.Library) (scope : Rule.Scope)

/-- What a rule answers, errors included. -/
abbrev answer (rule : Option String) : Except Rule.Error Bool :=
  (Rule.evaluate l rule scope).outcome

/-- A rule of nobody: each of the allocations is passed over. -/
def PassesOver (allocations : List Allocation) : Prop :=
  ∀ a ∈ allocations, answer l scope a.rule = .ok false

/-- What asking the allocations from an index on comes to. -/
inductive Settled (index : Nat) :
    List Allocation → Except Rule.Error (Option (Nat × Allocation)) → Prop where
  | passed {allocations : List Allocation} (h : PassesOver l scope allocations) :
      Settled index allocations (.ok none)
  | matched (earlier : List Allocation) {later : List Allocation} {a : Allocation}
      (hearlier : PassesOver l scope earlier) (ha : answer l scope a.rule = .ok true) :
      Settled index (earlier ++ a :: later) (.ok (some (index + earlier.length, a)))
  | failed (earlier : List Allocation) {later : List Allocation} {a : Allocation}
      {err : Rule.Error}
      (hearlier : PassesOver l scope earlier) (ha : answer l scope a.rule = .error err) :
      Settled index (earlier ++ a :: later) (.error err)

variable {l scope} {index : Nat} {a : Allocation} {rest : List Allocation}

theorem PassesOver.cons (ha : answer l scope a.rule = .ok false)
    (h : PassesOver l scope rest) : PassesOver l scope (a :: rest) :=
  List.forall_mem_cons.mpr ⟨ha, h⟩

/-- An allocation whose rule is false is passed over. -/
theorem Settled.cons (ha : answer l scope a.rule = .ok false)
    {r : Except Rule.Error (Option (Nat × Allocation))}
    (h : Settled l scope (index + 1) rest r) : Settled l scope index (a :: rest) r := by
  cases h with
  | passed h => exact .passed (h.cons ha)
  | @matched earlier later b hearlier hb =>
      have hindex : index + 1 + earlier.length = index + (a :: earlier).length := by
        rw [List.length_cons]
        omega
      rw [hindex]
      exact .matched (a :: earlier) (hearlier.cons ha) hb
  | @failed earlier later b err hearlier hb =>
      exact .failed (a :: earlier) (hearlier.cons ha) hb

/-- The allocation stands at the index, and it is the first one whose rule is
    true. -/
def FirstTrue (l : Rule.Library) (scope : Rule.Scope) (allocations : List Allocation)
    (index : Nat) (a : Allocation) : Prop :=
  ∃ earlier later, allocations = earlier ++ a :: later ∧ index = earlier.length ∧
    PassesOver l scope earlier ∧ answer l scope a.rule = .ok true

theorem FirstTrue.mem {allocations : List Allocation}
    (h : FirstTrue l scope allocations index a) : a ∈ allocations := by
  obtain ⟨earlier, later, rfl, -⟩ := h
  exact List.mem_append_right _ List.mem_cons_self

theorem FirstTrue.answer_eq {allocations : List Allocation}
    (h : FirstTrue l scope allocations index a) : answer l scope a.rule = .ok true := by
  obtain ⟨earlier, later, -, -, -, ha⟩ := h
  exact ha

/-- What is found is the first that is true. -/
theorem Settled.firstTrue {allocations : List Allocation}
    (h : Settled l scope 0 allocations (.ok (some (index, a)))) :
    FirstTrue l scope allocations index a := by
  cases h with
  | @matched earlier later a hearlier ha =>
      exact ⟨earlier, later, rfl, Nat.zero_add _, hearlier, ha⟩

/-- What fails is the rule of an allocation. -/
theorem Settled.exists_failed {allocations : List Allocation} {err : Rule.Error}
    (h : Settled l scope index allocations (.error err)) :
    ∃ a ∈ allocations, answer l scope a.rule = .error err := by
  cases h with
  | @failed earlier later a err hearlier ha =>
      exact ⟨a, List.mem_append_right _ List.mem_cons_self, ha⟩

/-- Nothing is found only where every allocation is passed over. -/
theorem Settled.passesOver {allocations : List Allocation}
    (h : Settled l scope index allocations (.ok none)) :
    PassesOver l scope allocations := by
  cases h with
  | passed h => exact h

variable (l scope) (test : String)

theorem value_matchAllocation_cons (index : Nat) (a : Allocation)
    (rest : List Allocation) :
    (matchAllocation l test scope index (a :: rest)).value
      = match answer l scope a.rule with
        | .error err => .error err
        | .ok false => (matchAllocation l test scope (index + 1) rest).value
        | .ok true => .ok (some (index, a)) := by
  rw [matchAllocation, value, fst_bind, fst_evaluate, answer]
  cases (Rule.evaluate l a.rule scope).outcome with
  | error err => rfl
  | ok b =>
      cases b with
      | false => exact steady_matchAllocation l test scope (index + 1) rest _
      | true => rfl

/-- **THE FIRST MATCH**: allocations are asked in their order, up to the first
    one whose rule is not false. -/
theorem settled_matchAllocation (index : Nat) (allocations : List Allocation) :
    Settled l scope index allocations
      (matchAllocation l test scope index allocations).value := by
  induction allocations generalizing index with
  | nil => exact .passed nofun
  | cons a rest ih =>
      rw [value_matchAllocation_cons]
      cases ha : answer l scope a.rule with
      | error err => exact .failed [] nofun ha
      | ok b =>
          cases b with
          | false => exact (ih (index + 1)).cons ha
          | true => exact .matched [] nofun ha

end Settled

/-! ## A whole selection -/

/-- The request has the identity that the test needs. -/
def Identified (d : Definition) (identity : Option String) : Prop :=
  d.testType.requiresIdentity = true → identity ≠ none

/-- The bucket of an allocation at a position, if there is one. -/
def bucketAt (d : Definition) (a : Allocation) (position : Float) : Option Bucket :=
  (chooseRange a.ranges position).bind d.bucket?

/-- What the allocation that was found has at a position. -/
def givenAt (d : Definition) (position : Float) (found : Option (Nat × Allocation)) :
    Option Selection :=
  found.bind fun found =>
    (bucketAt d found.2 position).map fun b => ⟨found.2, found.1, b⟩

/-- What a selection comes to. -/
inductive Selects (l : Rule.Library) (d : Definition) (identity : Option String)
    (context : Context) (position : Float) :
    Except Rule.Error (Option Selection) → Prop where
  | unidentified (h : ¬ Identified d identity) :
      Selects l d identity context position (.ok none)
  | testFailed {err : Rule.Error} (h : Identified d identity)
      (hrule : answer l (scopeOf d context) d.rule = .error err) :
      Selects l d identity context position (.error err)
  | notApplied (h : Identified d identity)
      (hrule : answer l (scopeOf d context) d.rule = .ok false) :
      Selects l d identity context position (.ok none)
  | allocationFailed {err : Rule.Error} (h : Identified d identity)
      (hrule : answer l (scopeOf d context) d.rule = .ok true)
      (hfound : Settled l (scopeOf d context) 0 d.allocations (.error err)) :
      Selects l d identity context position (.error err)
  | settled {found : Option (Nat × Allocation)} {given : Option Selection}
      (h : Identified d identity)
      (hrule : answer l (scopeOf d context) d.rule = .ok true)
      (hfound : Settled l (scopeOf d context) 0 d.allocations (.ok found))
      (hgiven : givenAt d position found = given) :
      Selects l d identity context position (.ok given)

variable (l : Rule.Library) (test : String) (d : Definition)
  (identity : Option String) (context : Context) (drawn : Float)

theorem identified_iff :
    Identified d identity ↔
      (d.testType.requiresIdentity && identity.isNone) = false := by
  rw [Identified, Bool.and_eq_false_imp, Option.isNone_eq_false_iff,
    Option.isSome_iff_ne_none]

theorem fst_reach (index : Nat) (a : Allocation) (position : Float) (s : Session) :
    (reach test d index a position s).1
      = (bucketAt d a position).map fun b => ⟨a, index, b⟩ := by
  rw [reach, ← bucketAt]
  cases bucketAt d a position with
  | none => rfl
  | some b => rfl

/-- What a selection comes to, in whichever session: the rules decide on the
    allocation, and the position on its bucket. -/
theorem fst_select (s : Session) :
    (select l test d identity context drawn s).1
      = if d.testType.requiresIdentity && identity.isNone then .ok none
        else match answer l (scopeOf d context) d.rule with
        | .error err => .error err
        | .ok false => .ok none
        | .ok true => (matchAllocation l test (scopeOf d context) 0 d.allocations).value.map
            (givenAt d (d.position test identity drawn)) := by
  rw [select]
  split
  · rfl
  · rw [fst_bind, fst_evaluate, answer]
    cases (Rule.evaluate l d.rule (scopeOf d context)).outcome with
    | error err => rfl
    | ok b =>
        cases b with
        | false => rfl
        | true =>
            show ((matchAllocation l test (scopeOf d context) 0 d.allocations >>= _) _).1 = _
            rw [fst_bind, steady_matchAllocation]
            cases (matchAllocation l test (scopeOf d context) 0 d.allocations).value with
            | error err => rfl
            | ok found =>
                cases found with
                | none => rfl
                | some found => exact congrArg Except.ok (fst_reach test d found.1 found.2 _ _)

/-- In whichever session, a selection comes to one of these. -/
theorem selects_select (s : Session) :
    Selects l d identity context (d.position test identity drawn)
      (select l test d identity context drawn s).1 := by
  rw [fst_select]
  cases hneeds : d.testType.requiresIdentity && identity.isNone with
  | true =>
      refine .unidentified ?_
      rw [identified_iff, hneeds]
      exact Bool.noConfusion
  | false =>
      have hid := (identified_iff d identity).mpr hneeds
      rw [if_neg Bool.false_ne_true]
      cases hrule : answer l (scopeOf d context) d.rule with
      | error err => exact .testFailed hid hrule
      | ok b =>
          cases b with
          | false => exact .notApplied hid hrule
          | true =>
              have hsettled :=
                settled_matchAllocation l (scopeOf d context) test 0 d.allocations
              revert hsettled
              cases (matchAllocation l test (scopeOf d context) 0 d.allocations).value with
              | error err => exact fun hfound => .allocationFailed hid hrule hfound
              | ok found => exact fun hfound => .settled hid hrule hfound rfl

end Cohort.Selection
