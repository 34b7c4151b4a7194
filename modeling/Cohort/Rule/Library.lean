import Cohort.Rule.Run
import Cohort.Rule.Error
import Cohort.Text.Quoted

/-! # Function libraries

Rules call functions by their full names. There is no fixed set of them: a host takes the standard
library or the empty one and adds its own. -/

namespace Cohort.Rule

/-- What a function does with its arguments. -/
abbrev Function := List Value → Except FunctionFault Value

/-- The functions that rules may call. -/
structure Library where
  functions : NameMap Function

namespace Library

/-- No function at all. -/
def empty : Library := ⟨NameMap.empty⟩

/-- Adds a function, or replaces the one of that name. -/
def register (l : Library) (name : String) (f : Function) : Library :=
  ⟨l.functions.insert name f⟩

/-- Adds functions. -/
def registerAll (l : Library) (fs : List (String × Function)) : Library :=
  fs.foldl (fun l f => l.register f.1 f.2) l

/-- The function of a name. -/
def get? (l : Library) (name : String) : Option Function :=
  l.functions.get? name

/-- There is a function of that name. -/
def contains (l : Library) (name : String) : Bool :=
  l.functions.contains name

/-- The library as a diagnosis shows it: its names, in order. -/
def diagnostic (l : Library) : String :=
  "FunctionRegistry \x7b functions: [" ++
    Value.commaSeparated (l.functions.names.map Text.diagnosticQuoted) ++ "] \x7d"

end Library

end Cohort.Rule
