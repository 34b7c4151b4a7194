import Cohort.Filter
import Cohort.Forced
import Cohort.Selection

/-! # Resolving groups

A request asks for tests, and gets for each of them the group it is in. Tests are walked parents
first, so that a test which depends on a bucket of another is only looked at when that one has put
the request there; parents are walked for this even when nobody asked for them. A test that cannot
be resolved is left out, and never makes the others fail. -/

namespace Cohort

/-! ## Requests -/

/-- Who asks: an identity for each type of test, and whether tests of random type apply. -/
structure Identifiers where
  ids : List (TestType × String)
  randomEnabled : Bool

namespace Identifiers

/-- Nobody in particular. -/
def none : Identifiers := ⟨[], false⟩

/-- Sets the identity for a type. -/
def insert (i : Identifiers) (t : TestType) (identity : String) : Identifiers :=
  { i with ids := (t, identity) :: i.ids.filter (·.1 != t) }

/-- The identity for a type. -/
def get? (i : Identifiers) (t : TestType) : Option String :=
  (i.ids.find? (·.1 == t)).map (·.2)

/-- No test can apply. -/
def isEmpty (i : Identifiers) : Bool :=
  i.ids.isEmpty && !i.randomEnabled

end Identifiers

/-- Which tests are asked for. -/
inductive Requested where
  /-- Every test; filters are not consulted. -/
  | all
  /-- These tests, and what filters include besides. -/
  | names (names : NameSet)

/-- Positions for requests that have no fixed one, by test. -/
abbrev Draws := String → Float

/-! ## Results -/

/-- The group of one test. -/
structure TestGroup where
  bucket : Bucket
  /-- Empty when the group was forced, or is the least of its allocation. -/
  allocationId : String
  /-- A filter for namespaces included the test. -/
  dynamic : Bool

/-- The groups of one request, and the artifact they come from. -/
structure ResolvedGroups where
  version : String
  groups : NameMap TestGroup
  /-- The tests that filters included. -/
  dynamic : NameSet
  artifact : Option Artifact

namespace ResolvedGroups

/-- No groups, of no version. -/
def empty : ResolvedGroups := ⟨"", NameMap.empty, NameSet.empty, none⟩

/-- The definition that a group comes from. -/
def definition? (r : ResolvedGroups) (test : String) : Option Definition :=
  if r.groups.contains test then r.artifact.bind (·.tests.get? test) else none

/-- Only the tests that are kept. -/
def filtered (r : ResolvedGroups) (keep : String → Bool) : ResolvedGroups :=
  { r with
    groups := r.groups.filter fun name _ => keep name
    dynamic := r.dynamic.filter keep }

/-- Texts with a comma between them. -/
def commaJoined : List String → String
  | [] => ""
  | [a] => a
  | a :: b :: rest => a ++ "," ++ commaJoined (b :: rest)

/-- The name of a test with its bucket value. -/
def groupText (name : String) (g : TestGroup) : String :=
  name ++ toString g.bucket.value.toInt

/-- The test takes part in what is logged: it is not silent, and its bucket value is not negative. -/
def isLogged (r : ResolvedGroups) (name : String) (g : TestGroup) : Bool :=
  decide (0 ≤ g.bucket.value.toInt) && !(r.definition? name).any (·.silent)

/-- The elements of the line of exposures: every logged group, and then once more behind its
allocation where there is one. -/
def loggingElements (r : ResolvedGroups) : List String :=
  let logged := r.groups.entries.filter fun e => r.isLogged e.1 e.2
  logged.map (fun e => groupText e.1 e.2) ++
    (logged.filter fun e => !e.2.allocationId.isEmpty).map
      fun e => e.2.allocationId ++ ":" ++ groupText e.1 e.2

/-- The line of exposures. -/
def loggingText (r : ResolvedGroups) : String :=
  commaJoined r.loggingElements

/-- Every test with the name of its bucket. -/
def longText (r : ResolvedGroups) : String :=
  commaJoined (r.groups.entries.map fun e => e.1 ++ "-" ++ e.2.bucket.name)

/-- A group as a document. -/
def groupJson (g : TestGroup) : Json :=
  .object ([("bucket", .string g.bucket.name), ("value", Json.whole g.bucket.value.toInt)] ++
    Json.optionalMember "payload" Payload.toJson g.bucket.payload ++
    [("allocation", .string g.allocationId)])

/-- The result as a document. -/
def toJson (r : ResolvedGroups) : Json :=
  .object [("version", .string r.version), ("groups", Json.ofMapWith groupJson r.groups),
    ("dynamic", Json.ofNameSet r.dynamic)]

end ResolvedGroups

/-! ## The resolver -/

/-- What resolution needs besides the request. -/
structure Resolver where
  library : Rule.Library
  filters : DynamicFilters
  /-- Only these tests are ever resolved. -/
  testFilter : Option NameSet

/-- A bucket and the allocation it comes from. -/
abbrev Choice := Bucket × String

/-- The choices made so far, by test. -/
abbrev Choices := NameMap Choice

namespace Resolver

/-- The bucket that a test is forced to, if it has such a bucket. -/
def forcedBucket? (force : ForceGroups) (test : String) (d : Definition) : Option Bucket :=
  (force.forced.get? test).bind d.bucket?

/-- The test depends on no other, or the other one has chosen the bucket it depends on. -/
def gateOpen (chosen : Choices) (d : Definition) : Bool :=
  match d.dependsOn with
  | none => true
  | some dep => (chosen.get? dep.testName).any fun c => c.1.value == dep.bucketValue

/-- The least bucket value of some length. -/
def leastLive? (ranges : List Range) : Option Int32 :=
  ((ranges.filter fun r => decide (0.0 < r.length)).map (·.bucketValue)).min?

/-- The choice that a selection leads to. -/
def choiceOf (mode : DefaultMode) (d : Definition) (s : Selection) : Option Choice :=
  if mode = .minLive then
    ((leastLive? s.allocation.ranges).bind d.bucket?).map fun b => (b, "")
  else some (s.bucket, s.allocation.id)

/-- The choice for a test that is not forced, whose gate is open. -/
def chooseFreely (r : Resolver) (ids : Identifiers) (context : Context) (mode : DefaultMode)
    (draws : Draws) (test : String) (d : Definition) : InSession (Option Choice) :=
  if d.testType = .random ∧ ids.randomEnabled = false then pure none
  else do
    let selected ← Selection.select r.library test d (ids.get? d.testType) context (draws test)
    match selected with
    | .error e => do
        InSession.report (.testSkipped test e.message)
        pure none
    | .ok none => pure none
    | .ok (some s) => pure (choiceOf mode d s)

/-- The choice for a test, once its parent was walked. -/
def choose (r : Resolver) (ids : Identifiers) (context : Context) (force : ForceGroups)
    (draws : Draws) (chosen : Choices) (test : String) (d : Definition) :
    InSession (Option Choice) :=
  match forcedBucket? force test d with
  | some bucket => pure (some (bucket, ""))
  | none =>
      if force.mode = .fallback then pure none
      else if !gateOpen chosen d then pure none
      else r.chooseFreely ids context force.mode draws test d

/-- The test may be resolved at all. -/
def admits (r : Resolver) (test : String) : Bool :=
  match r.testFilter with
  | none => true
  | some names => names.contains test

/-- The choices of the tests in order, added to those made before. Choices for `selected` tests are
reported. -/
def walk (r : Resolver) (a : Artifact) (ids : Identifiers) (context : Context)
    (force : ForceGroups) (draws : Draws) (selected : NameSet) :
    Choices → List String → InSession Choices
  | chosen, [] => pure chosen
  | chosen, test :: rest => match a.tests.get? test with
    | none => r.walk a ids context force draws selected chosen rest
    | some d =>
        if !r.admits test then r.walk a ids context force draws selected chosen rest
        else do
          let choice ← r.choose ids context force draws chosen test d
          match choice with
          | none => r.walk a ids context force draws selected chosen rest
          | some c => do
              if selected.contains test then
                InSession.report (.groupResolved test c.1.name c.2)
              r.walk a ids context force draws selected (chosen.insert test c) rest

/-- The tests that filters include for a request. -/
def includedTests (r : Resolver) (a : Artifact) : Requested → DynamicTests
  | .all => DynamicTests.none
  | .names names => r.filters.determine a.tests names

/-- The tests of an artifact that a request is about. -/
def selectedTests (r : Resolver) (a : Artifact) (requested : Requested) : NameSet :=
  match requested with
  | .all => a.tests.nameSet
  | .names names =>
      let included := (r.includedTests a requested).names
      a.tests.nameSet.filter fun name => names.contains name || included.contains name

/-- The choices made for a request, those for tests above the selected ones included. -/
def choices (r : Resolver) (a : Artifact) (ids : Identifiers) (context : Context)
    (requested : Requested) (force : ForceGroups) (draws : Draws) : InSession Choices :=
  let selected := r.selectedTests a requested
  r.walk a ids context force draws selected NameMap.empty
    (evaluationOrder a.tests selected.toList)

/-- The result of the choices for a request. -/
def resultOf (r : Resolver) (a : Artifact) (requested : Requested) (chosen : Choices) :
    ResolvedGroups :=
  let selected := r.selectedTests a requested
  let included := r.includedTests a requested
  let groups := chosen.filter fun name _ => selected.contains name
  { version := a.version
    groups := groups.mapNamed fun name c => ⟨c.1, c.2, included.namespaceMatched.contains name⟩
    dynamic := included.names.filter groups.contains
    artifact := some a }

/-- The request asks for no test. -/
def asksNothing : Requested → Bool
  | .all => false
  | .names names => names.isEmpty

/-- The groups of a request. -/
def resolve (r : Resolver) (a : Artifact) (ids : Identifiers) (context : Context)
    (requested : Requested) (force : ForceGroups) (draws : Draws) : InSession ResolvedGroups :=
  if asksNothing requested then pure ResolvedGroups.empty
  else do
    let chosen ← r.choices a ids context requested force draws
    pure (r.resultOf a requested chosen)

end Resolver

end Cohort
