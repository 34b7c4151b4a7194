/-! # Three-valued truth

What a rule says when some of its variables are not known: true whatever they are, false whatever
they are, or neither. -/

namespace Cohort.Rule

/-- A truth value that may be unknown. -/
inductive Truth where
  | true
  | false
  | unknown
deriving Repr, DecidableEq

namespace Truth

/-- A truth value that is known. -/
def ofBool (b : Bool) : Truth :=
  if b then .true else .false

/-- False if either side is false, true if both are true. -/
def and : Truth → Truth → Truth
  | .false, _ => .false
  | _, .false => .false
  | .true, .true => .true
  | _, _ => .unknown

/-- True if either side is true, false if both are false. -/
def or : Truth → Truth → Truth
  | .true, _ => .true
  | _, .true => .true
  | .false, .false => .false
  | _, _ => .unknown

/-- The opposite of what is known. -/
def not : Truth → Truth
  | .true => .false
  | .false => .true
  | .unknown => .unknown

/-- The name of a truth value. -/
def name : Truth → String
  | .true => "TRUE"
  | .false => "FALSE"
  | .unknown => "UNKNOWN"

end Truth

end Cohort.Rule
