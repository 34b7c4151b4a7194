import Cohort.Value
import Cohort.Text.Case

/-! # Test definitions

A test splits identities among buckets. Its definition says which identities it hashes, for whom it
applies (its rule), and how each of its allocations divides the unit interval among the buckets. An
artifact is a versioned snapshot of all definitions. -/

namespace Cohort

/-! ## Test types -/

/-- What kind of identity a test hashes. Names that are not well known are kept, in upper case. -/
inductive TestType where
  | user
  | account
  | email
  | random
  | page
  | company
  | custom (name : String)
deriving Repr, DecidableEq

namespace TestType

/-- The type of a name, whatever the case of its ASCII letters. -/
def ofName (name : String) : TestType :=
  let name := Text.asciiUpper name
  if name = "USER" ∨ name = "ANONYMOUS_USER" then .user
  else if name = "ACCOUNT" ∨ name = "AUTHENTICATED_USER" then .account
  else if name = "EMAIL" ∨ name = "EMAIL_ADDRESS" then .email
  else if name = "RANDOM" then .random
  else if name = "PAGE" then .page
  else if name = "COMPANY" then .company
  else .custom name

/-- The name of a type. -/
def name : TestType → String
  | .user => "USER"
  | .account => "ACCOUNT"
  | .email => "EMAIL"
  | .random => "RANDOM"
  | .page => "PAGE"
  | .company => "COMPANY"
  | .custom name => name

/-- The name is none of the well-known ones. -/
def isCustom : TestType → Bool
  | .custom _ => true
  | _ => false

/-- Only tests of random type do without an identity. -/
def requiresIdentity (t : TestType) : Bool :=
  t != .random

end TestType

/-! ## Parts of a definition -/

/-- What a bucket carries along: a value of exactly one kind. -/
inductive Payload where
  | double (x : Float)
  | doubles (xs : List Float)
  | long (n : Int64)
  | longs (ns : List Int64)
  | text (s : String)
  | texts (ss : List String)
  | map (m : NameMap Json)
  | document (v : Json)

/-- The kind of a payload, as documents name it. -/
def Payload.kind : Payload → String
  | .double _ => "doubleValue"
  | .doubles _ => "doubleArray"
  | .long _ => "longValue"
  | .longs _ => "longArray"
  | .text _ => "stringValue"
  | .texts _ => "stringArray"
  | .map _ => "map"
  | .document _ => "json"

/-- One of the groups that a test sorts identities into. -/
structure Bucket where
  name : String
  value : Int32
  description : Option String
  payload : Option Payload

/-- A part of the unit interval and the bucket it belongs to. -/
structure Range where
  bucketValue : Int32
  length : Float

/-- A division of the unit interval, for those for whom its rule is true. -/
structure Allocation where
  rule : Option String
  ranges : List Range
  id : String
  name : Option String

/-- The bucket of another test that a test depends on. -/
structure Dependency where
  testName : String
  bucketValue : Int32
deriving Repr, DecidableEq

/-- The experiments that the payloads of a test belong to. -/
structure ExperimentConfig where
  priority : Option String
  namespaces : List String

/-- A test. -/
structure Definition where
  version : String
  testType : TestType
  salt : String
  /-- Whom the test applies to, before any allocation is looked at. -/
  rule : Option String
  dependsOn : Option Dependency
  buckets : List Bucket
  allocations : List Allocation
  constants : NameMap Value
  specialConstants : NameMap Value
  description : Option String
  /-- Left out of what is logged. -/
  silent : Bool
  metaTags : NameSet
  dynamic : Bool
  evaluateForIncognitoUsers : Bool
  payloadExperimentConfig : Option ExperimentConfig

/-- The tests by name. -/
abbrev Tests := NameMap Definition

/-- Who published a snapshot, and when. -/
structure Audit where
  version : String
  /-- Milliseconds since the beginning of 1970. -/
  updated : Int64
  updatedBy : String

/-- A published snapshot of all tests. -/
structure Artifact where
  audit : Audit
  tests : Tests

/-- The version of a snapshot. -/
def Artifact.version (a : Artifact) : String :=
  a.audit.version

namespace Definition

/-- The first bucket with a value. -/
def bucket? (d : Definition) (value : Int32) : Option Bucket :=
  d.buckets.find? (·.value == value)

/-- The first bucket with a name. -/
def bucketNamed? (d : Definition) (name : String) : Option Bucket :=
  d.buckets.find? (·.name == name)

/-- The name of the test that the test depends on. -/
def parentName? (d : Definition) : Option String :=
  d.dependsOn.map (·.testName)

/-- The namespaces of the experiments of the test. -/
def namespaces (d : Definition) : List String :=
  match d.payloadExperimentConfig with
  | none => []
  | some config => config.namespaces

end Definition

end Cohort
