import Cohort.Filter
import Cohort.Consistency

/-! # Specifications

A client says what it expects of an artifact: the tests it requires, with the buckets it knows of
each, the variables it will provide to rules, and the filters for tests it wants without naming
them. -/

namespace Cohort

/-- What a client knows of one test. -/
structure TestSpecification where
  /-- The value of each bucket by name. -/
  buckets : NameMap Int32
  /-- The bucket value to use when the test is not resolved. -/
  fallbackValue : Int32
  description : Option String

/-- What a client expects. -/
structure Specification where
  tests : NameMap TestSpecification
  /-- The variables that rules may read, each with a label of its type; without them rules are only
  parsed. -/
  providedContext : Option (NameMap String)
  dynamicFilters : List FilterSpec

namespace TestSpecification

open Json

/-- Reads what is known of a test. -/
def ofJson? (v : Json) : Option TestSpecification := do
  let m ← record? ["buckets", "fallbackValue", "description"] v
  let buckets ← defaulted (map? int32?) NameMap.empty m "buckets"
  let fallbackValue ← defaulted int32? (-1) m "fallbackValue"
  let description ← optional string? m "description"
  return ⟨buckets, fallbackValue, description⟩

/-- What is known of a test, as a document. -/
def toJson (s : TestSpecification) : Json :=
  ofMembers ([("buckets", ofMapWith (fun v => Json.whole v.toInt) s.buckets),
    ("fallbackValue", Json.whole s.fallbackValue.toInt)] ++
    optionalMember "description" Json.string s.description)

end TestSpecification

namespace Specification

open Json

/-- Reads a specification. -/
def ofJson? (v : Json) : Option Specification := do
  let m ← record? ["tests", "providedContext", "dynamicFilters"] v
  let tests ← defaulted (map? TestSpecification.ofJson?) NameMap.empty m "tests"
  let providedContext ← optional (map? string?) m "providedContext"
  let dynamicFilters ← defaulted (list? FilterSpec.ofJson?) [] m "dynamicFilters"
  return ⟨tests, providedContext, dynamicFilters⟩

/-- A specification as a document. -/
def toJson (s : Specification) : Json :=
  ofMembers ([("tests", ofMapWith TestSpecification.toJson s.tests)] ++
    optionalMember "providedContext" (ofMapWith Json.string) s.providedContext ++
    if s.dynamicFilters.isEmpty then []
    else [("dynamicFilters", .array (s.dynamicFilters.map FilterSpec.toJson))])

/-- The names of the tests that are required. -/
def required (s : Specification) : NameSet :=
  s.tests.nameSet

/-- What the client provides to rules: names without sample values. -/
def provided (s : Specification) : Provided :=
  match s.providedContext with
  | none => Provided.syntaxOnly
  | some names => ⟨NameMap.empty, names.nameSet, true⟩

/-! ## Verification -/

/-- A bucket that the artifact gives another value. -/
structure BucketMismatch where
  bucket : String
  found : Int32
  expected : Int32
deriving Repr, DecidableEq

/-- The first of the known buckets that the definition gives another value. -/
def firstMismatch (d : Definition) : List (String × Int32) → Option BucketMismatch
  | [] => none
  | (name, expected) :: rest => match d.bucketNamed? name with
    | none => firstMismatch d rest
    | some bucket =>
        if bucket.value = expected then firstMismatch d rest
        else some ⟨name, bucket.value, expected⟩

/-- Why a required test cannot be used: it is inconsistent, or not as the client knows it. -/
inductive Complaint where
  | inconsistent (e : IncompatibleTest)
  | mismatch (test source : String) (m : BucketMismatch)

/-- The message of a mismatch. -/
def BucketMismatch.message (m : BucketMismatch) : String :=
  "Bucket '" ++ m.bucket ++ "' has value " ++ toString m.found.toInt ++
    " in the test matrix, expected " ++ toString m.expected.toInt

/-- What is wrong with the test. -/
def Complaint.detail : Complaint → String
  | .inconsistent e => e.detail
  | .mismatch _ _ m => m.message

/-- The full message of a complaint. -/
def Complaint.message : Complaint → String
  | .inconsistent e => e.message
  | .mismatch test source m => incompatibleMessage test source m.message

/-- How an artifact compares with a specification. -/
structure Report where
  invalid : NameMap Complaint
  missing : NameSet
  dynamic : NameMap Complaint

/-- Some required test cannot be used. -/
def Report.hasInvalid (r : Report) : Bool := !r.invalid.isEmpty

/-- Some required test is not there. -/
def Report.hasMissing (r : Report) : Bool := !r.missing.isEmpty

/-- Everything in use can be used. -/
def Report.isClean (r : Report) : Bool :=
  r.invalid.isEmpty && r.missing.isEmpty && r.dynamic.isEmpty

/-- The report of a load result, before buckets are compared. -/
def Report.ofLoadResult (r : Consistency.LoadResult) : Report :=
  ⟨r.invalid.map .inconsistent, r.missing, r.dynamic.map .inconsistent⟩

/-- Adds the mismatch of a test that is there and not invalid already. -/
def addMismatch (source : String) (a : Artifact) (r : Report) (t : String × TestSpecification) :
    Report :=
  if r.invalid.contains t.1 then r
  else match (a.tests.get? t.1).bind fun d => firstMismatch d t.2.buckets.entries with
    | none => r
    | some m => { r with invalid := r.invalid.insert t.1 (.mismatch t.1 source m) }

/-- Compares an artifact with the specification; only its filters can make this fail. -/
def verify (s : Specification) (l : Rule.Library) (r : PatternLibrary)
    (patterns : Option TagPatterns) (source : String) (a : Artifact) :
    InSession (Except ConfigurationError Report) :=
  match DynamicFilters.compile r patterns s.dynamicFilters with
  | .error e => pure (.error e)
  | .ok filters => do
      let included := (filters.determine a.tests s.required).names
      let result ← Consistency.verifyArtifact l s.provided source a s.required included
      pure (.ok (s.tests.entries.foldl (addMismatch source a) (Report.ofLoadResult result)))

end Specification

end Cohort
