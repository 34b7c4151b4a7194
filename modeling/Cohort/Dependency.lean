import Cohort.Definition

/-! # Dependencies between tests

A test may apply only to those whom another test, its parent, has put into a given bucket. As every
test has one parent at most, dependencies make up trees, and chains that run into a cycle. Walks go
from parents to children, level by level; what a walk from the roots never reaches hangs on a
cycle. -/

namespace Cohort

/-! ## One dependency -/

/-- Why a test cannot be served because of what it depends on. -/
inductive BrokenDependency where
  | unknownParent (parent : String)
  | otherType (parent : String) (wanted found : TestType)
  /-- The same salt would make both tests sort identities alike. -/
  | sameSalt (parent salt : String)
  | negativeBucket (parent : String) (value : Int32)
  | undefinedBucket (parent : String) (value : Int32)
  | invalidAncestor
  | circular
deriving Repr, DecidableEq

/-- The message about a test. -/
def BrokenDependency.message (test : String) : BrokenDependency → String
  | .unknownParent parent => "Test " ++ test ++ " depends on unknown test " ++ parent
  | .otherType parent wanted found =>
      "Test " ++ test ++ " depends on " ++ parent ++ " with different test type: expected " ++
        wanted.name ++ " but " ++ found.name
  | .sameSalt parent salt =>
      "Test " ++ test ++ " depends on " ++ parent ++ " with the same salt: " ++ salt
  | .negativeBucket parent value =>
      "Test " ++ test ++ " depends on negative bucket value " ++ toString value.toInt ++ " of " ++
        parent
  | .undefinedBucket parent value =>
      "Test " ++ test ++ " depends on an undefined bucket " ++ toString value.toInt ++ " of " ++
        parent
  | .invalidAncestor => "Test " ++ test ++ " directly or indirectly depends on an invalid test"
  | .circular => "Test " ++ test ++ " depends on a test with circular dependency"

/-- What is wrong between a test and its parent. -/
def brokenWithParent (d : Definition) (dep : Dependency) (parent : Definition) :
    Option BrokenDependency :=
  if parent.testType ≠ d.testType then
    some (.otherType dep.testName d.testType parent.testType)
  else if parent.salt = d.salt then some (.sameSalt dep.testName parent.salt)
  else if dep.bucketValue.toInt < 0 then some (.negativeBucket dep.testName dep.bucketValue)
  else match parent.bucket? dep.bucketValue with
    | none => some (.undefinedBucket dep.testName dep.bucketValue)
    | some _ => none

/-- What is wrong with the dependency of a test itself. -/
def ownBrokenDependency (tests : Tests) (d : Definition) : Option BrokenDependency :=
  match d.dependsOn with
  | none => none
  | some dep => match tests.get? dep.testName with
    | none => some (.unknownParent dep.testName)
    | some parent => brokenWithParent d dep parent

/-! ## Walks -/

/-- The parent of a test, when both are among the tests. -/
def parentAmong (tests : Tests) (name : String) : Option String :=
  (tests.get? name).bind fun d => d.parentName?.filter tests.contains

/-- The tests with a given parent, in the order of their names. -/
def childrenOf (tests : Tests) (parent : String) : List String :=
  (tests.entries.filter fun e => e.2.parentName? == some parent).map (·.1)

/-- The tests whose chain of parents ends with them. -/
def rootsOf (tests : Tests) : List String :=
  (tests.entries.filter fun e => (e.2.parentName?.filter tests.contains).isNone).map (·.1)

/-- The names of the first level, then their children, and so on. A level can only be reached along a
chain of distinct tests, so there are not more levels than tests. -/
def levels (children : String → List String) : Nat → List String → List String
  | 0, _ => []
  | room + 1, level =>
      if level.isEmpty then [] else level ++ levels children room (level.flatMap children)

/-! ## All dependencies -/

/-- What is found wrong with a test once the tests before it in the walk are judged. -/
def judge (tests : Tests) (invalid : NameSet) (reasons : NameMap BrokenDependency)
    (name : String) : NameMap BrokenDependency :=
  match tests.get? name with
  | none => reasons
  | some d => match ownBrokenDependency tests d with
    | some reason => reasons.insert name reason
    | none =>
        if d.parentName?.any fun parent => reasons.contains parent || invalid.contains parent then
          reasons.insert name .invalidAncestor
        else reasons

/-- Why each test that cannot be served cannot, as far as its dependencies go: its own dependency is
broken, that of a test above it is, a test above it is `invalid`, or it hangs on a cycle. -/
def brokenDependencies (tests : Tests) (invalid : NameSet) : NameMap BrokenDependency :=
  let walk := levels (childrenOf tests) tests.size (rootsOf tests)
  let reasons := walk.foldl (judge tests invalid) NameMap.empty
  (tests.names.filter fun name => !walk.contains name).foldl
    (fun reasons name => reasons.insert name .circular) reasons

/-! ## Closure and order -/

/-- Adds a test and the tests above it, up to one that is there already. -/
def addChain (tests : Tests) : Nat → NameSet → Option String → NameSet
  | 0, found, _ => found
  | _ + 1, found, none => found
  | room + 1, found, some name =>
      if found.contains name then found
      else addChain tests room (found.insert name) (parentAmong tests name)

/-- The tests of the names and all tests above them. Names of no test are dropped. -/
def withDependencies (tests : Tests) (names : List String) : NameSet :=
  names.foldl (fun found name =>
    if tests.contains name then addChain tests tests.size found (some name) else found)
    NameSet.empty

/-- The tests of the names and all tests above them, parents before children. Tests that hang on a
cycle are left out. -/
def evaluationOrder (tests : Tests) (names : List String) : List String :=
  let wanted := withDependencies tests names
  let among := tests.filter fun name _ => wanted.contains name
  levels (childrenOf among) among.size (rootsOf among)

end Cohort
