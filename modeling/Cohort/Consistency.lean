import Cohort.Dependency
import Cohort.Session
import Cohort.Rule.Partial

/-! # Consistency of definitions

A definition can be served when its buckets are told apart by value and by name, every allocation
divides the whole unit interval among declared buckets, only the last allocation is for everyone,
its rules can be evaluated with what clients provide, and its payloads are of one kind. A test is
verified by itself first and for its dependencies afterwards. The first problem found is the one
reported. -/

namespace Cohort

/-- What clients promise to provide when rules are evaluated. -/
structure Provided where
  /-- Sample values. -/
  values : Context
  /-- Variables that are promised without a sample value. -/
  uninstantiated : NameSet
  /-- Otherwise rules are only parsed. -/
  evaluate : Bool

/-- Rules are only parsed. -/
def Provided.syntaxOnly : Provided := ⟨NameMap.empty, NameSet.empty, false⟩

/-- Why a test cannot be served. -/
inductive Inconsistency where
  | noBuckets
  | duplicateValue (value : Int32)
  | duplicateName (name : String)
  | testRule (e : Rule.Error)
  | noAllocations
  | noRanges (index : Nat)
  | unknownBucket (value : Int32)
  | badLength (length : Float)
  | badTotal (rule : String) (lengths : List Float) (total : Float)
  /-- An allocation for everyone stands before others. -/
  | unconditional (index : Nat)
  | allocationRule (index : Nat) (e : Rule.Error)
  | payloadMissing
  | payloadKind (bucket found expected : String)
  | dependency (b : BrokenDependency)
deriving Repr, DecidableEq

/-- Texts with a plus sign between them. -/
def sumText : List String → String
  | [] => ""
  | [a] => a
  | a :: b :: rest => a ++ " + " ++ sumText (b :: rest)

/-- The message about a test of a source. -/
def Inconsistency.message (test source : String) : Inconsistency → String
  | .noBuckets => "No buckets specified in test " ++ test
  | .duplicateValue v => "Duplicate bucket value " ++ toString v.toInt ++ " in test " ++ test
  | .duplicateName n => "Duplicate bucket name '" ++ n ++ "' in test " ++ test
  | .testRule e => "Invalid test rule: " ++ e.message
  | .noAllocations => "No allocations specified in test " ++ test
  | .noRanges i => "No ranges specified in allocation " ++ toString i ++ " of test " ++ test
  | .unknownBucket v =>
      "Allocation range in " ++ test ++ " from " ++ source ++
        " refers to unknown bucket value " ++ toString v.toInt
  | .badLength x =>
      "Allocation range in " ++ test ++ " has invalid length " ++ Decimal.messageLayout.text x
  | .badTotal rule lengths total =>
      test ++ " range with rule '" ++ rule ++ "' does not add up to 1 : " ++
        sumText (lengths.map Decimal.messageLayout.text) ++ " = " ++
        Decimal.messageLayout.text total
  | .unconditional i =>
      "Allocation " ++ toString i ++ " of test " ++ test ++
        " has an empty rule but is not the last allocation"
  | .allocationRule i e => "Invalid allocation rule in allocation " ++ toString i ++ ": " ++ e.message
  | .payloadMissing => "Either all buckets must have payloads or none may"
  | .payloadKind bucket found expected =>
      "Payload of bucket '" ++ bucket ++ "' is " ++ found ++ ", expected " ++ expected
  | .dependency b => b.message test

/-- A test that cannot be served, and where it was found. -/
structure IncompatibleTest where
  test : String
  source : String
  cause : Inconsistency
deriving Repr, DecidableEq

/-- What is wrong with the test. -/
def IncompatibleTest.detail (e : IncompatibleTest) : String :=
  e.cause.message e.test e.source

/-- The full message about a test of a source. -/
def incompatibleMessage (test source detail : String) : String :=
  "Invalid test '" ++ test ++ "' in " ++ source ++ ": " ++ detail

/-- The full message. -/
def IncompatibleTest.message (e : IncompatibleTest) : String :=
  incompatibleMessage e.test e.source e.detail

namespace Consistency

/-! ## Buckets and payloads -/

/-- The first bucket that repeats a value or a name of one before it. -/
def bucketProblem (values : List Int32) (names : List String) : List Bucket → Option Inconsistency
  | [] => none
  | b :: rest =>
      if values.contains b.value then some (.duplicateValue b.value)
      else if names.contains b.name then some (.duplicateName b.name)
      else bucketProblem (b.value :: values) (b.name :: names) rest

/-- The first bucket whose payload is of another kind than the given one. -/
def payloadKindProblem (expected : String) : List Bucket → Option Inconsistency
  | [] => none
  | b :: rest => match b.payload with
    | none => payloadKindProblem expected rest
    | some p =>
        if p.kind = expected then payloadKindProblem expected rest
        else some (.payloadKind b.name p.kind expected)

/-- Payloads are on all buckets or on none, and of the kind of the first. -/
def payloadProblem (buckets : List Bucket) : Option Inconsistency :=
  match buckets.filterMap (·.payload) with
  | [] => none
  | first :: _ =>
      if buckets.all (·.payload.isSome) then payloadKindProblem first.kind buckets
      else some .payloadMissing

/-! ## Ranges -/

/-- The lengths of an allocation may miss one by so much. -/
def tolerance : Float := 1e-6

/-- A length that is a part of the unit interval. -/
def isLength (x : Float) : Bool :=
  x.isFinite && (decide (0.0 ≤ x) && decide (x ≤ 1.0))

/-- The first range of an undeclared bucket or of an impossible length. -/
def rangeProblem (values : List Int32) : List Range → Option Inconsistency
  | [] => none
  | r :: rest =>
      if !values.contains r.bucketValue then some (.unknownBucket r.bucketValue)
      else if !isLength r.length then some (.badLength r.length)
      else rangeProblem values rest

/-- The lengths added in order. -/
def totalLength (ranges : List Range) : Float :=
  ranges.foldl (fun total r => total + r.length) 0.0

/-- The ranges of an allocation divide the whole unit interval. -/
def rangesProblem (values : List Int32) (index : Nat) (a : Allocation) : Option Inconsistency :=
  if a.ranges.isEmpty then some (.noRanges index)
  else match rangeProblem values a.ranges with
    | some p => some p
    | none =>
        let total := totalLength a.ranges
        if tolerance < (total - 1.0).abs then
          some (.badTotal (a.rule.getD "") (a.ranges.map (·.length)) total)
        else none

/-! ## Rules -/

/-- The first variable that has no value and is not promised either. -/
def missingVariable (p : Provided) (scope : Rule.Scope) (e : Rule.Expr) : Option String :=
  e.variableNames.toList.find? fun name =>
    !scope.contains name && !p.uninstantiated.contains name

/-- A parsed rule reads what is provided, and evaluates as far as values are known. -/
def checkExpr (l : Rule.Library) (p : Provided) (scope : Rule.Scope) (rule : String)
    (e : Rule.Expr) : Except Rule.Error Unit :=
  match missingVariable p scope e with
  | some name => .error ⟨rule, .evaluation (.undefinedVariable name)⟩
  | none =>
      match ((Rule.PartialRule.ofExpr scope.names e).holds l scope).outcome with
      | .error err => .error ⟨rule, .evaluation err⟩
      | .ok _ => .ok ()

/-- The scope of the rules of a test. -/
def scopeOf (d : Definition) (context : Context) : Rule.Scope :=
  ⟨d.constants, d.specialConstants, context⟩

/-- Checks the rule that stands at a place. -/
def checkRule (l : Rule.Library) (p : Provided) (d : Definition) (site : RuleSite)
    (rule : Option String) : InSession (Except Rule.Error Unit) :=
  match rule with
  | none => pure (.ok ())
  | some rule =>
      if Text.isBlankText rule then pure (.ok ())
      else do
        let parsed ← InSession.parsed site rule
        match parsed with
        | .error e => pure (.error e)
        | .ok e => pure (if p.evaluate then checkExpr l p (scopeOf d p.values) rule e else .ok ())

/-! ## A whole definition -/

/-- The allocations from an index on. -/
def checkAllocations (l : Rule.Library) (p : Provided) (test : String) (d : Definition) :
    Nat → List Allocation → InSession (Except Inconsistency Unit)
  | _, [] => pure (.ok ())
  | index, a :: rest =>
      match rangesProblem (d.buckets.map (·.value)) index a with
      | some problem => pure (.error problem)
      | none =>
          if !rest.isEmpty && Rule.isBlank a.rule then pure (.error (.unconditional index))
          else do
            let checked ← checkRule l p d (.allocation test index) a.rule
            match checked with
            | .error e => pure (.error (.allocationRule index e))
            | .ok _ => checkAllocations l p test d (index + 1) rest

/-- The first problem of a definition, dependencies apart. -/
def check (l : Rule.Library) (p : Provided) (test : String) (d : Definition) :
    InSession (Except Inconsistency Unit) :=
  if d.buckets.isEmpty then pure (.error .noBuckets)
  else match bucketProblem [] [] d.buckets with
    | some problem => pure (.error problem)
    | none => do
        let rule ← checkRule l p d (.test test) d.rule
        match rule with
        | .error e => pure (.error (.testRule e))
        | .ok _ =>
            if d.allocations.isEmpty then pure (.error .noAllocations)
            else do
              let allocations ← checkAllocations l p test d 0 d.allocations
              match allocations with
              | .error problem => pure (.error problem)
              | .ok _ => match payloadProblem d.buckets with
                | some problem => pure (.error problem)
                | none => pure (.ok ())

/-- Verifies one definition of a source. -/
def verify (l : Rule.Library) (p : Provided) (source test : String) (d : Definition) :
    InSession (Except IncompatibleTest Unit) := do
  let checked ← check l p test d
  pure (checked.mapError fun cause => ⟨test, source, cause⟩)

/-! ## A whole artifact -/

/-- The tests that cannot be served, by name. -/
abbrev Problems := NameMap IncompatibleTest

/-- Verifies definitions one by one, dependencies apart. -/
def verifyEach (l : Rule.Library) (p : Provided) (source : String) :
    List (String × Definition) → InSession Problems
  | [] => pure NameMap.empty
  | (name, d) :: rest => do
      let verified ← verify l p source name d
      let problems ← verifyEach l p source rest
      match verified with
      | .ok _ => pure problems
      | .error e => pure (problems.insert name e)

/-- Adds a problem of a dependency, unless the test has a problem of its own. -/
def addDependencyProblem (source : String) (problems : Problems)
    (broken : String × BrokenDependency) : Problems :=
  if problems.contains broken.1 then problems
  else problems.insert broken.1 ⟨broken.1, source, .dependency broken.2⟩

/-- The problems of the tests that are wanted, those of their dependencies included. -/
def withDependencyProblems (source : String) (tests : Tests) (wanted : String → Bool)
    (own : Problems) : Problems :=
  ((brokenDependencies tests own.nameSet).entries.filter fun e => wanted e.1).foldl
    (addDependencyProblem source) own

/-- Every test of an artifact that cannot be served. -/
def verifyAll (l : Rule.Library) (p : Provided) (source : String) (a : Artifact) :
    InSession Problems := do
  let own ← verifyEach l p source a.tests.entries
  pure (withDependencyProblems source a.tests (fun _ => true) own)

/-- What a client that needs some tests has to know about an artifact. -/
structure LoadResult where
  /-- Required tests that cannot be served. -/
  invalid : Problems
  /-- Required tests that are not there. -/
  missing : NameSet
  /-- Other tests in use that cannot be served. -/
  dynamic : Problems

/-- Some required test cannot be served. -/
def LoadResult.hasInvalid (r : LoadResult) : Bool :=
  !r.invalid.isEmpty

/-- Some required test is not there. -/
def LoadResult.hasMissing (r : LoadResult) : Bool :=
  !r.missing.isEmpty

/-- Everything in use can be served. -/
def LoadResult.isClean (r : LoadResult) : Bool :=
  r.invalid.isEmpty && r.missing.isEmpty && r.dynamic.isEmpty

/-- The event of a problem. -/
def problemEvent (required : NameSet) (e : String × IncompatibleTest) : Event :=
  if required.contains e.1 then .requiredInvalid e.1 e.2.message
  else .dynamicInvalid e.1 e.2.message

/-- Verifies the tests that a client requires, those it includes besides, and all tests that these
depend on. -/
def verifyArtifact (l : Rule.Library) (p : Provided) (source : String) (a : Artifact)
    (required dynamic : NameSet) : InSession LoadResult := do
  let missing := required.filter fun name => !a.tests.contains name
  missing.toList.forM fun name => InSession.report (.requiredMissing name source)
  let reached := withDependencies a.tests (required.union dynamic).toList
  let own ← verifyEach l p source (a.tests.entries.filter fun e => reached.contains e.1)
  let problems := withDependencyProblems source a.tests reached.contains own
  problems.entries.forM fun e => InSession.report (problemEvent required e)
  pure ⟨problems.filter fun name _ => required.contains name, missing,
    problems.filter fun name _ => !required.contains name⟩

/-- The artifact without the tests that cannot be served. -/
def consolidate (a : Artifact) (r : LoadResult) : Artifact :=
  { a with tests := a.tests.filter fun name _ =>
      !r.invalid.contains name && !r.dynamic.contains name }

end Consistency

end Cohort
