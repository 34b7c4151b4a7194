/-! # Events

What selection, verification and loading report as they go: which rule decided, which tests were
left out and why. An event is a fact; its text and its fields are derived from it. -/

namespace Cohort

/-- How much an event matters. -/
inductive Severity where
  | debug
  | info
  | warn
  | error
deriving Repr, DecidableEq

/-- The name of a severity. -/
def Severity.name : Severity → String
  | .debug => "DEBUG"
  | .info => "INFO"
  | .warn => "WARN"
  | .error => "ERROR"

/-- Something worth reporting. -/
inductive Event where
  | testRuleFalse (test : String)
  | noAllocationMatched (test : String)
  | allocationMatched (test allocation rule : String)
  | noReachableBucket (test allocation : String)
  | testSkipped (test error : String)
  | groupResolved (test bucket allocation : String)
  | requiredMissing (test source : String)
  | requiredInvalid (test error : String)
  | dynamicInvalid (test error : String)
  | testDropped (test error : String)
  | versionLoaded (version updatedBy : String)
  | firstLoadFailed (path error : String)
  /-- `failures`: how often in a row by now. -/
  | refreshFailed (path error : String) (failures : Nat)
deriving Repr, DecidableEq

namespace Event

/-- How much the event matters. -/
def severity : Event → Severity
  | .testRuleFalse _ => .debug
  | .noAllocationMatched _ => .debug
  | .allocationMatched _ _ _ => .debug
  | .noReachableBucket _ _ => .warn
  | .testSkipped _ _ => .warn
  | .groupResolved _ _ _ => .debug
  | .requiredMissing _ _ => .error
  | .requiredInvalid _ _ => .error
  | .dynamicInvalid _ _ => .warn
  | .testDropped _ _ => .warn
  | .versionLoaded _ _ => .info
  | .firstLoadFailed _ _ => .warn
  | .refreshFailed _ _ _ => .error

/-- The text of the event. -/
def message : Event → String
  | .testRuleFalse _ => "test rule is false"
  | .noAllocationMatched _ => "no allocation matched"
  | .allocationMatched _ _ _ => "allocation rule matched"
  | .noReachableBucket _ _ => "allocation has no reachable bucket"
  | .testSkipped _ _ => "skipping test, rule evaluation failed"
  | .groupResolved _ _ _ => "resolved test group"
  | .requiredMissing _ _ => "required test is missing from the test matrix"
  | .requiredInvalid _ _ => "required test is invalid"
  | .dynamicInvalid _ _ => "dynamically included test is invalid"
  | .testDropped _ _ => "dropping invalid test from test matrix"
  | .versionLoaded version updatedBy =>
      "loaded test matrix version " ++ version ++ " updated by " ++ updatedBy
  | .firstLoadFailed _ _ => "initial test matrix load failed"
  | .refreshFailed _ _ _ => "failed to refresh test matrix"

/-- The fields of the event. -/
def fields : Event → List (String × String)
  | .testRuleFalse test => [("test", test)]
  | .noAllocationMatched test => [("test", test)]
  | .allocationMatched test allocation rule =>
      [("test", test), ("allocation", allocation), ("rule", rule)]
  | .noReachableBucket test allocation => [("test", test), ("allocation", allocation)]
  | .testSkipped test error => [("test", test), ("error", error)]
  | .groupResolved test bucket allocation =>
      [("test", test), ("bucket", bucket), ("allocation", allocation)]
  | .requiredMissing test source => [("test", test), ("source", source)]
  | .requiredInvalid test error => [("test", test), ("error", error)]
  | .dynamicInvalid test error => [("test", test), ("error", error)]
  | .testDropped test error => [("test", test), ("error", error)]
  | .versionLoaded _ _ => []
  | .firstLoadFailed path error => [("path", path), ("error", error)]
  | .refreshFailed path error failures =>
      [("path", path), ("error", error), ("failures", toString failures)]

end Event

end Cohort
