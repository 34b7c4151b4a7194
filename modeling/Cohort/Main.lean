import Cohort.Invocation
import Cohort.Pattern.Engine
import Cohort.Rule.Library.Standard
import Cohort.Yaml.Reader

/-! # The command line

Reads the files that an invocation names, hands their contents on, and prints what comes back. The
paths of the definition files to build from are read from standard input, one a line. Patterns and
YAML are read by the project's own readers. -/

namespace Cohort

/-- The content of a file, or why it cannot be read. -/
def contentOf (path : String) : IO (Except String String) := do
  try
    let content ← IO.FS.readFile path
    pure (.ok content)
  catch e => pure (.error (toString e))

/-- The lines of standard input. -/
def inputLines : IO (List String) := do
  let input ← IO.getStdin
  let bytes ← input.readBinToEnd
  let text := (String.fromUTF8? bytes).getD ""
  pure (((Text.pieces (· == '\n') text.toList).filter (!·.isEmpty)).map String.ofList)

/-- The files below a directory, of those listed on standard input. -/
def sourceFiles (root : String) : IO (List SourceFile) := do
  let paths ← inputLines
  paths.filterMapM fun path => do
    match Text.stripStart? (root ++ "/").toList path.toList with
    | none => pure none
    | some below => do
        let content ← contentOf path
        pure (some (SourceFile.ofPath (String.ofList below) content))

/-- Reports an error. -/
def failWith (message : String) : IO UInt32 := do
  let err ← IO.getStderr
  err.putStrLn message
  pure 1

/-- The positions of a run for requests without a fixed one. -/
def randomDraws : IO Draws := do
  let seed ← IO.rand 0 (Nat.pow 2 62)
  pure fun test => Hash.position test (toString seed) ""

/-- Carries out an invocation. -/
def carryOut (t : TimedInvocation) : IO UInt32 := do
  let patterns := Pattern.Engine.library
  let library := Rule.Standard.library patterns t.now
  match t.invocation with
  | .build root out version author => do
      let files ← sourceFiles root
      let version := version.orElse fun _ => Command.defaultVersion? t.now.toInt
      match Command.build Wording.plain Yaml.read library root (.ok files) out (version.getD "")
          author t.now with
      | .error e => failWith e.message
      | .ok a => do
          IO.FS.writeFile out (Command.written a)
          pure 0
  | .validate artifact specification => do
      let content ← contentOf artifact
      let compared ← specification.mapM fun path => do
        let content ← contentOf path
        pure (path, content)
      let verdict :=
        (Command.validate Wording.plain library patterns artifact content compared).value
      if let some report := verdict.report then IO.println report
      match verdict.error with
      | none => pure 0
      | some e => failWith e.message
  | .resolve artifact request => do
      let content ← contentOf artifact
      let draws ← randomDraws
      match (Command.resolve Wording.plain library artifact content request draws).value with
      | .error e => failWith e.message
      | .ok groups => do
          IO.println groups.pretty
          pure 0

/-- Carries out what the arguments ask for. -/
def runCommandLine (arguments : List String) : IO UInt32 := do
  match TimedInvocation.ofArguments? arguments with
  | none => failWith Invocation.usage
  | some t => carryOut t

end Cohort

/-- The program. -/
def main (arguments : List String) : IO UInt32 :=
  Cohort.runCommandLine arguments
