import Cohort.Json

/-! # The shape of an artifact

Before an artifact is read its document is checked against a shape: which fields there must be and
of what types. The shape is looser than the types in one place, since it takes any number without a
fraction for an integer, and stricter in others, since it says which lengths are possible. -/

namespace Cohort

/-- A set of documents. -/
inductive Shape where
  | anything
  | string (leastLength : Nat)
  | boolean
  | integer
  | number
  /-- A number from zero to one. -/
  | proportion
  | array (item : Shape)
  /-- An object whose members, where they are there, have the given shapes. -/
  | object (required : List String) (members : List (String × Shape))
  /-- An object with exactly one member, which is one of the given ones. -/
  | variant (members : List (String × Shape))
  /-- An object all of whose members have one shape. -/
  | dictionary (member : Shape)
  | nullable (s : Shape)

namespace JsonNumber

/-- The number has no fraction. -/
def isIntegral : JsonNumber → Bool
  | .whole _ => true
  | .float x => x.isFinite && x == x.floor

/-- The number lies between zero and one. -/
def isProportion : JsonNumber → Bool
  | .whole n => 0 ≤ n && n ≤ 1
  | .float x => decide (0.0 ≤ x) && decide (x ≤ 1.0)

end JsonNumber

namespace Shape

mutual

/-- The document has the shape. -/
def accepts : Shape → Json → Bool
  | .anything, _ => true
  | .string least, .string s => least ≤ s.toList.length
  | .boolean, .bool _ => true
  | .integer, .number n => n.isIntegral
  | .number, .number _ => true
  | .proportion, .number n => n.isProportion
  | .array item, .array items => items.all item.accepts
  | .object required members, .object ms =>
      required.all (fun name => (ms.lookup name).isSome) && acceptsMembers members ms
  | .variant members, .object [(name, v)] => acceptsVariant members name v
  | .dictionary member, .object ms => ms.all fun m => member.accepts m.2
  | .nullable _, .null => true
  | .nullable s, v => s.accepts v
  | _, _ => false

/-- Every member that is there has its shape. -/
def acceptsMembers : List (String × Shape) → List (String × Json) → Bool
  | [], _ => true
  | (name, s) :: rest, ms =>
      (match ms.lookup name with
        | none => true
        | some v => s.accepts v) && acceptsMembers rest ms

/-- The one member is known and has its shape. -/
def acceptsVariant : List (String × Shape) → String → Json → Bool
  | [], _, _ => false
  | (name, s) :: rest, k, v =>
      if name = k then s.accepts v else acceptsVariant rest k v

end

/-! ## The parts of an artifact -/

/-- Some string. -/
def text : Shape := .string 0

/-- A string or null. -/
def optionalText : Shape := .nullable text

/-- A payload. -/
def payload : Shape := .variant [
  ("doubleValue", .number),
  ("doubleArray", .array .number),
  ("longValue", .integer),
  ("longArray", .array .integer),
  ("stringValue", text),
  ("stringArray", .array text),
  ("map", .dictionary .anything),
  ("json", .anything)]

/-- A bucket. -/
def bucket : Shape := .object ["name", "value"] [
  ("name", .string 1),
  ("value", .integer),
  ("description", optionalText),
  ("payload", .nullable payload)]

/-- A range. -/
def range : Shape := .object ["bucketValue", "length"] [
  ("bucketValue", .integer),
  ("length", .proportion)]

/-- An allocation. -/
def allocation : Shape := .object ["ranges"] [
  ("id", text),
  ("name", optionalText),
  ("rule", optionalText),
  ("ranges", .array range)]

/-- A dependency. -/
def dependency : Shape := .object ["testName", "bucketValue"] [
  ("testName", .string 1),
  ("bucketValue", .integer)]

/-- The experiments of a test. -/
def experimentConfig : Shape := .object [] [
  ("priority", optionalText),
  ("namespaces", .array text)]

/-- A definition. -/
def definition : Shape := .object ["testType", "salt", "buckets", "allocations"] [
  ("version", text),
  ("testType", .string 1),
  ("salt", text),
  ("rule", optionalText),
  ("dependsOn", .nullable dependency),
  ("description", optionalText),
  ("silent", .boolean),
  ("dynamic", .boolean),
  ("evaluateForIncognitoUsers", .boolean),
  ("constants", .dictionary .anything),
  ("specialConstants", .dictionary .anything),
  ("metaTags", .array text),
  ("buckets", .array bucket),
  ("allocations", .array allocation),
  ("payloadExperimentConfig", .nullable experimentConfig)]

/-- An audit. -/
def audit : Shape := .object ["version"] [
  ("version", text),
  ("updated", .integer),
  ("updatedBy", text)]

/-- An artifact. -/
def artifact : Shape := .object ["audit", "tests"] [
  ("audit", audit),
  ("tests", .dictionary definition)]

end Shape

end Cohort
