import Cohort.Definition
import Cohort.Json.Decode

/-! # Definitions as documents

The wire format of definitions and artifacts. Optional fields may be absent or null and are left out
when they have no value; fields with a default may be absent, and are always written. -/

namespace Cohort

open Json

/-! ## Test types and payloads -/

/-- The name of a test type must not be blank. -/
def TestType.ofJson? (v : Json) : Option TestType :=
  (string? v).bind fun name => if Text.isBlankText name then none else some (TestType.ofName name)

/-- A payload is an object with a single member, whose name is the kind. -/
def Payload.ofJson? : Json → Option Payload
  | .object [(kind, v)] =>
      if kind = "doubleValue" then (float? v).map .double
      else if kind = "doubleArray" then (list? float? v).map .doubles
      else if kind = "longValue" then (int64? v).map .long
      else if kind = "longArray" then (list? int64? v).map .longs
      else if kind = "stringValue" then (string? v).map .text
      else if kind = "stringArray" then (list? string? v).map .texts
      else if kind = "map" then (map? some v).map .map
      else if kind = "json" then some (.document v)
      else none
  | _ => none

/-- The value under the kind of a payload. -/
def Payload.content : Payload → Json
  | .double x => Json.float x
  | .doubles xs => .array (xs.map Json.float)
  | .long n => Json.whole n.toInt
  | .longs ns => .array (ns.map fun n => Json.whole n.toInt)
  | .text s => .string s
  | .texts ss => ofNames ss
  | .map m => ofMap m
  | .document v => v

/-- A payload as a document. -/
def Payload.toJson (p : Payload) : Json :=
  .object [(p.kind, p.content)]

/-! ## Buckets, allocations, dependencies -/

/-- Reads a bucket. -/
def Bucket.ofJson? (v : Json) : Option Bucket := do
  let m ← record? ["name", "value", "description", "payload"] v
  let name ← required string? m "name"
  let value ← required int32? m "value"
  let description ← optional string? m "description"
  let payload ← optional Payload.ofJson? m "payload"
  return ⟨name, value, description, payload⟩

/-- A bucket as a document. -/
def Bucket.toJson (b : Bucket) : Json :=
  ofMembers ([("name", .string b.name), ("value", Json.whole b.value.toInt)] ++
    optionalMember "description" Json.string b.description ++
    optionalMember "payload" Payload.toJson b.payload)

/-- Reads a range. -/
def Range.ofJson? (v : Json) : Option Range := do
  let m ← record? ["bucketValue", "length"] v
  let bucketValue ← required int32? m "bucketValue"
  let length ← required float? m "length"
  return ⟨bucketValue, length⟩

/-- A range as a document. -/
def Range.toJson (r : Range) : Json :=
  ofMembers [("bucketValue", Json.whole r.bucketValue.toInt), ("length", Json.float r.length)]

/-- Reads an allocation. -/
def Allocation.ofJson? (v : Json) : Option Allocation := do
  let m ← record? ["rule", "ranges", "id", "name"] v
  let rule ← optional string? m "rule"
  let ranges ← required (list? Range.ofJson?) m "ranges"
  let id ← defaulted string? "" m "id"
  let name ← optional string? m "name"
  return ⟨rule, ranges, id, name⟩

/-- An allocation as a document. -/
def Allocation.toJson (a : Allocation) : Json :=
  ofMembers (optionalMember "rule" Json.string a.rule ++
    [("ranges", .array (a.ranges.map Range.toJson)), ("id", .string a.id)] ++
    optionalMember "name" Json.string a.name)

/-- Reads a dependency. -/
def Dependency.ofJson? (v : Json) : Option Dependency := do
  let m ← record? ["testName", "bucketValue"] v
  let testName ← required string? m "testName"
  let bucketValue ← required int32? m "bucketValue"
  return ⟨testName, bucketValue⟩

/-- A dependency as a document. -/
def Dependency.toJson (d : Dependency) : Json :=
  ofMembers [("testName", .string d.testName), ("bucketValue", Json.whole d.bucketValue.toInt)]

/-- Reads the experiments of a test. -/
def ExperimentConfig.ofJson? (v : Json) : Option ExperimentConfig := do
  let m ← record? ["priority", "namespaces"] v
  let priority ← optional string? m "priority"
  let namespaces ← defaulted (list? string?) [] m "namespaces"
  return ⟨priority, namespaces⟩

/-- The experiments of a test as a document. -/
def ExperimentConfig.toJson (c : ExperimentConfig) : Json :=
  ofMembers (optionalMember "priority" Json.string c.priority ++
    [("namespaces", ofNames c.namespaces)])

/-! ## Definitions and artifacts -/

/-- The fields of a definition, in order. -/
def Definition.fields : List String := [
  "version", "testType", "salt", "rule", "dependsOn", "buckets", "allocations", "constants",
  "specialConstants", "description", "silent", "metaTags", "dynamic",
  "evaluateForIncognitoUsers", "payloadExperimentConfig"]

/-- Reads a definition. -/
def Definition.ofJson? (v : Json) : Option Definition := do
  let m ← record? Definition.fields v
  let version ← defaulted string? "" m "version"
  let testType ← required TestType.ofJson? m "testType"
  let salt ← required string? m "salt"
  let rule ← optional string? m "rule"
  let dependsOn ← optional Dependency.ofJson? m "dependsOn"
  let buckets ← required (list? Bucket.ofJson?) m "buckets"
  let allocations ← required (list? Allocation.ofJson?) m "allocations"
  let constants ← defaulted (map? (some ∘ Value.ofJson)) NameMap.empty m "constants"
  let specialConstants ←
    defaulted (map? (some ∘ Value.ofJson)) NameMap.empty m "specialConstants"
  let description ← optional string? m "description"
  let silent ← defaulted bool? false m "silent"
  let metaTags ← defaulted nameSet? NameSet.empty m "metaTags"
  let dynamic ← defaulted bool? false m "dynamic"
  let incognito ← defaulted bool? false m "evaluateForIncognitoUsers"
  let config ← optional ExperimentConfig.ofJson? m "payloadExperimentConfig"
  return ⟨version, testType, salt, rule, dependsOn, buckets, allocations, constants,
    specialConstants, description, silent, metaTags, dynamic, incognito, config⟩

/-- A definition as a document. -/
def Definition.toJson (d : Definition) : Json :=
  ofMembers ([
    ("version", .string d.version),
    ("testType", .string d.testType.name),
    ("salt", .string d.salt),
    ("buckets", .array (d.buckets.map Bucket.toJson)),
    ("allocations", .array (d.allocations.map Allocation.toJson)),
    ("constants", ofMapWith Value.toJson d.constants),
    ("specialConstants", ofMapWith Value.toJson d.specialConstants),
    ("silent", .bool d.silent),
    ("metaTags", ofNameSet d.metaTags),
    ("dynamic", .bool d.dynamic),
    ("evaluateForIncognitoUsers", .bool d.evaluateForIncognitoUsers)] ++
    optionalMember "rule" Json.string d.rule ++
    optionalMember "dependsOn" Dependency.toJson d.dependsOn ++
    optionalMember "description" Json.string d.description ++
    optionalMember "payloadExperimentConfig" ExperimentConfig.toJson d.payloadExperimentConfig)

/-- Reads an audit. -/
def Audit.ofJson? (v : Json) : Option Audit := do
  let m ← record? ["version", "updated", "updatedBy"] v
  let version ← required string? m "version"
  let updated ← defaulted int64? 0 m "updated"
  let updatedBy ← defaulted string? "" m "updatedBy"
  return ⟨version, updated, updatedBy⟩

/-- An audit as a document. -/
def Audit.toJson (a : Audit) : Json :=
  ofMembers [("version", .string a.version), ("updated", Json.whole a.updated.toInt),
    ("updatedBy", .string a.updatedBy)]

/-- Reads an artifact. -/
def Artifact.ofJson? (v : Json) : Option Artifact := do
  let m ← record? ["audit", "tests"] v
  let audit ← required Audit.ofJson? m "audit"
  let tests ← defaulted (map? Definition.ofJson?) NameMap.empty m "tests"
  return ⟨audit, tests⟩

/-- An artifact as a document. -/
def Artifact.toJson (a : Artifact) : Json :=
  ofMembers [("audit", a.audit.toJson), ("tests", ofMapWith Definition.toJson a.tests)]

end Cohort
