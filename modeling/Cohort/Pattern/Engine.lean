import Cohort.Pattern.Construct
import Cohort.Pattern.Library

/-! # The engine

A library of patterns of the project's own, to run with. It reads the usual constructs of regular
expressions; properties by age, by text boundaries and by script extensions are unknown to it. -/

namespace Cohort.Pattern.Engine

/-- The construct at the front of a text. -/
def next (f : Flags) : List Char → Option (Construct × List Char)
  | [] => none
  | c :: cs => readConstruct? f c cs

/-- No name stands for two groups, and the tree is not too deep. -/
def admits (p : Tree Atom Count) : Bool :=
  decide (groupNames p).Nodup && decide (depth p ≤ depthLimit)

/-- What the engine reads. -/
def grammar : Pattern.Syntax Flags Atom Count where
  initial := {}
  next := next
  step := Atom.step
  repeated := Count.repeated
  admits := admits

/-- The engine as a library. -/
def library : PatternLibrary where
  compile text := match grammar.parse? text with
    | none => .error "regex parse error"
    | some p =>
        if size p ≤ sizeLimit then .ok (grammar.isFoundIn p)
        else .error "Compiled regex exceeds size limit"

end Cohort.Pattern.Engine
