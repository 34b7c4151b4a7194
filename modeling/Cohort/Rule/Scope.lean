import Cohort.Value

/-! # Scopes

A rule sees the constants of its test, then the special constants, then the variables of the
request; a name of an earlier layer hides the same name of a later one. -/

namespace Cohort.Rule

/-- The variables that a rule sees. -/
structure Scope where
  constants : NameMap Value
  specialConstants : NameMap Value
  context : Context

namespace Scope

/-- A scope of request variables alone. -/
def ofContext (context : Context) : Scope :=
  ⟨NameMap.empty, NameMap.empty, context⟩

/-- The value of a variable. -/
def lookup (s : Scope) (name : String) : Option Value :=
  match s.constants.get? name with
  | some v => some v
  | none => match s.specialConstants.get? name with
    | some v => some v
    | none => s.context.get? name

/-- The variable has a value. -/
def contains (s : Scope) (name : String) : Bool :=
  (s.lookup name).isSome

/-- All variables that have a value. -/
def names (s : Scope) : NameSet :=
  (s.context.nameSet.union s.constants.nameSet).union s.specialConstants.nameSet

end Scope

end Cohort.Rule
