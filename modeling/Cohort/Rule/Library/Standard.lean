import Cohort.Rule.Library.Strings
import Cohort.Pattern.Library
import Cohort.Version

/-! # The standard library

The functions named `matrix:…` ask questions that test rules often ask: membership, name patterns,
ranges of numbers, times and versions. Together with the string functions they are the standard
library. Neither the patterns nor the time come from here: what compiles patterns and what time it is
belong to the library that is put together. -/

namespace Cohort.Rule.Standard

open Strings

/-- A list has an item loosely equal to the value, or a map an entry of that name. -/
def contains (collection v : Value) : Except FunctionFault Value :=
  match collection with
  | .null => .ok (.bool false)
  | .list items => .ok (.bool (items.any (looselyEqual · v)))
  | .map entries => .ok (.bool ((entries.lookup (text v)).isSome))
  | c => .error (.expectedCollection "matrix:contains" c.kind)

/-- The whole text matches the pattern. -/
def isMatch (r : PatternLibrary) (s pattern : Value) : Except FunctionFault Value :=
  match r.compileWhole (text pattern) with
  | .error detail => .error (.invalidPattern "matrix:matches" (text pattern) detail)
  | .ok found => .ok (.bool (found (text s)))

/-- A number as an argument. -/
def numberArgument (function : String) (v : Value) : Except FunctionFault Float :=
  match number? v with
  | some n => .ok n.toFloat
  | none => .error (.expectedNumber function v.kind)

/-- The number lies in the range, which contains its start and not its end. -/
def inRange (v start stop : Value) : Except FunctionFault Value := do
  let v ← numberArgument "matrix:inRange" v
  let start ← numberArgument "matrix:inRange" start
  let stop ← numberArgument "matrix:inRange" stop
  .ok (.bool (decide (start ≤ v) && decide (v < stop)))

/-- The version lies in the range, which contains its start and not its end. -/
def versionInRange (v start stop : Value) : Value :=
  let version := Version.ofText (text v)
  .bool ((Version.order (Version.ofText (text start)) version != .gt) &&
    Version.order version (Version.ofText (text stop)) == .lt)

/-- The time in milliseconds. -/
def currentTime (now : Int64) : String × Function :=
  ("matrix:now", fun
    | [] => .ok (.int now)
    | args => .error (.arity "matrix:now" 0 args.length))

/-- The functions of the second part. -/
def functions (r : PatternLibrary) (now : Int64) : List (String × Function) := [
  two "matrix:contains" contains,
  two "matrix:matches" (isMatch r),
  currentTime now,
  three "matrix:inRange" inRange,
  three "matrix:versionInRange" fun v start stop => .ok (versionInRange v start stop)]

/-- The standard library with a library of patterns, at a time. -/
def library (r : PatternLibrary) (now : Int64) : Library :=
  Library.empty.registerAll (Strings.functions ++ functions r now)

end Cohort.Rule.Standard
