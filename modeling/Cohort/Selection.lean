import Cohort.Consistency
import Cohort.Hash.Position

/-! # Selecting a bucket

A request falls into the first allocation whose rule is true, and there into the bucket whose part of
the unit interval holds the position of its identity. -/

namespace Cohort

namespace Selection

/-! ## Parts of the unit interval

The parts lie side by side in the order of their declaration. Each one contains its start and not its
end. The walk is stated for any kind of number that can be added and compared. -/

section Parts

variable {α : Type} [Add α] [OfNat α 0] [LT α] [DecidableRel (α := α) (· < ·)]

/-- The first part of some length that ends behind the position, when the parts begin at `start`. -/
def partAt (position : α) (start : α) : List (Int32 × α) → Option Int32
  | [] => none
  | (bucket, length) :: rest =>
      if 0 < length ∧ position < start + length then some bucket
      else partAt position (start + length) rest

/-- The last part of some length. -/
def lastPart (parts : List (Int32 × α)) : Option Int32 :=
  (parts.reverse.find? fun part => decide (0 < part.2)).map (·.1)

/-- The part that a position falls into; behind all parts, the last one of some length. -/
def choosePart (parts : List (Int32 × α)) (position : α) : Option Int32 :=
  match partAt position 0 parts with
  | some bucket => some bucket
  | none => lastPart parts

end Parts

/-- The bucket value of a position among ranges. -/
def chooseRange (ranges : List Range) (position : Float) : Option Int32 :=
  choosePart (ranges.map fun r => (r.bucketValue, r.length)) position

end Selection

/-- What a request was given: the allocation it fell into, and a bucket. -/
structure Selection where
  allocation : Allocation
  index : Nat
  bucket : Bucket

namespace Selection

/-! ## Rules -/

/-- The first allocation, from an index on, whose rule is true. -/
def matchAllocation (l : Rule.Library) (test : String) (scope : Rule.Scope) :
    Nat → List Allocation → InSession (Except Rule.Error (Option (Nat × Allocation)))
  | _, [] => pure (.ok none)
  | index, a :: rest => do
      let answer ← InSession.evaluate l (.allocation test index) a.rule scope
      match answer with
      | .error e => pure (.error e)
      | .ok false => matchAllocation l test scope (index + 1) rest
      | .ok true => do
          InSession.report (.allocationMatched test a.id (a.rule.getD ""))
          pure (.ok (some (index, a)))

/-- The bucket of a matched allocation at a position. -/
def reach (test : String) (d : Definition) (index : Nat) (a : Allocation) (position : Float) :
    InSession (Option Selection) :=
  match (chooseRange a.ranges position).bind d.bucket? with
  | some bucket => pure (some ⟨a, index, bucket⟩)
  | none => do
      InSession.report (.noReachableBucket test a.id)
      pure none

/-- Selects a bucket of a test. Nothing is selected without the identity that the test needs, when
the rule of the test is false, or when no allocation matches. `drawn` is the position of requests
that have no fixed one. -/
def select (l : Rule.Library) (test : String) (d : Definition) (identity : Option String)
    (context : Context) (drawn : Float) : InSession (Except Rule.Error (Option Selection)) :=
  if d.testType.requiresIdentity && identity.isNone then pure (.ok none)
  else do
    let scope := Consistency.scopeOf d context
    let applies ← InSession.evaluate l (.test test) d.rule scope
    match applies with
    | .error e => pure (.error e)
    | .ok false => do
        InSession.report (.testRuleFalse test)
        pure (.ok none)
    | .ok true => do
        let matched ← matchAllocation l test scope 0 d.allocations
        match matched with
        | .error e => pure (.error e)
        | .ok none => do
            InSession.report (.noAllocationMatched test)
            pure (.ok none)
        | .ok (some (index, a)) => do
            let selection ← reach test d index a (d.position test identity drawn)
            pure (.ok selection)

end Selection

end Cohort
