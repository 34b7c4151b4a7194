import Cohort.Command

/-! # Invocations

A command line names a command and its options. Every option has a value, except `--random`; options
that may be given several times keep their order, and of any other the first counts. -/

namespace Cohort

/-- What the command line asks for. -/
inductive Invocation where
  | build (root out : String) (version : Option String) (author : String)
  | validate (artifact : String) (specification : Option String)
  | resolve (artifact : String) (request : Command.Request)

/-- An invocation, and the time that counts as now, in milliseconds. -/
structure TimedInvocation where
  invocation : Invocation
  now : Int64

namespace Invocation

/-- How commands are called. -/
def usage : String :=
  Json.separated "\n" [
    "build --definitions DIR --out FILE [--version V] [--author A] [--now MILLIS] < PATHS",
    "validate --artifact FILE [--specification FILE] [--now MILLIS]",
    "resolve --artifact FILE [--id TYPE=VALUE]... [--context KEY=JSON]... [--test NAME]...",
    "  [--force GROUPS] [--random] [--now MILLIS]"]

/-- The options of arguments with their values. -/
def options? : List String → Option (List (String × String))
  | [] => some []
  | "--random" :: rest => (options? rest).map (("--random", "") :: ·)
  | name :: value :: rest =>
      if Text.startsWith ['-', '-'] name.toList then (options? rest).map ((name, value) :: ·)
      else none
  | [_] => none

/-- All values of an option. -/
def values (options : List (String × String)) (name : String) : List String :=
  (options.filter (·.1 == name)).map (·.2)

/-- The invocation of a command with options. -/
def ofCommand? (command : String) (options : List (String × String)) : Option Invocation :=
  let value? (name : String) : Option String := options.lookup name
  if command = "build" then do
    let root ← value? "--definitions"
    let out ← value? "--out"
    some (.build root out (value? "--version") ((value? "--author").getD "cohort"))
  else if command = "validate" then do
    let artifact ← value? "--artifact"
    some (.validate artifact (value? "--specification"))
  else if command = "resolve" then do
    let artifact ← value? "--artifact"
    some (.resolve artifact
      { ids := values options "--id"
        random := (value? "--random").isSome
        context := values options "--context"
        tests := values options "--test"
        force := value? "--force" })
  else none

end Invocation

/-- The invocation of a list of arguments. -/
def TimedInvocation.ofArguments? : List String → Option TimedInvocation
  | [] => none
  | command :: rest => do
      let options ← Invocation.options? rest
      let invocation ← Invocation.ofCommand? command options
      let now ← Decimal.int64? ((options.lookup "--now").getD "0").toList
      some ⟨invocation, now⟩

end Cohort
