import Cohort.Calendar
import Cohort.Catalogue
import Cohort.Matrix

/-! # Commands

What is done with definitions and artifacts by hand: building an artifact from a directory of
definitions, validating an artifact, and resolving one request against it. Files come in as their
contents; nothing here reads or writes one. -/

namespace Cohort

/-! ## Errors -/

/-- Why a command fails. -/
inductive CommandError where
  | catalogue (e : CatalogueError)
  /-- Definitions that are not consistent, all of them. -/
  | inconsistent (problems : List IncompatibleTest)
  | loading (e : LoadError)
  | badSpecification (path : String) (e : LoadError)
  | configuration (e : ConfigurationError)
  /-- An artifact that lacks tests, or has some that cannot be served. -/
  | unusable (source : String) (invalid missing : Nat)
  /-- An argument that is no pair of a name and a value. -/
  | noPair (what argument : String)
  | repeatedIdentifier (t : TestType)

/-- The message of an error. -/
def CommandError.message : CommandError → String
  | .catalogue e => e.message
  | .inconsistent problems =>
      Json.separated "\n" ("Invalid test definitions:" ::
        problems.map fun e => e.source ++ ": " ++ e.detail)
  | .loading e => "Artifact error: " ++ e.message
  | .badSpecification path e =>
      "Invalid specification " ++ path ++ ": " ++ (MatrixError.loading e).message
  | .configuration e => "Filter configuration error: " ++ e.message
  | .unusable source invalid missing =>
      source ++ ": " ++ toString invalid ++ " invalid and " ++ toString missing ++ " missing tests"
  | .noPair what argument => "Invalid " ++ what ++ " '" ++ argument ++ "': expected KEY=VALUE"
  | .repeatedIdentifier t => "Identifier for " ++ t.name ++ " given more than once"

namespace Command

/-! ## Building -/

/-- The version of an artifact that is given none: the time it is built at, in milliseconds. -/
def defaultVersion? (millis : Int) : Option String :=
  (Moment.ofMillis? millis).map Moment.compactText

/-- The artifact of a catalogue. -/
def assemble (c : Catalogue) (version author : String) (updated : Int64) : Artifact :=
  ⟨⟨version, updated, author⟩, c.tests⟩

/-- Builds the artifact of a directory, which is to be written to `out`. The artifact has passed the
same checks that it will have to pass when it is loaded. -/
def build (w : Wording) (yaml : YamlReader) (l : Rule.Library) (root : String)
    (files : Except String (List SourceFile)) (out version author : String) (updated : Int64) :
    Except CommandError Artifact :=
  match Catalogue.ofDirectory w yaml root files with
  | .error e => .error (.catalogue e)
  | .ok c => match c.problems l with
    | [] =>
        (Artifact.ofDocument w out (assemble c version author updated).toJson).mapError .loading
    | problems => .error (.inconsistent problems)

/-- The text that the file of an artifact is written with. -/
def written (a : Artifact) : String :=
  a.toJson.pretty

/-! ## Validating -/

/-- The time at which an artifact was published; a time without a date stays a number. -/
def updatedText (a : Artifact) : String :=
  match Moment.ofMillis? a.audit.updated.toInt with
  | some m => m.text
  | none => toString a.audit.updated.toInt

/-- The lines about an artifact and what was found wrong with it. -/
def reportLines (a : Artifact) (r : Specification.Report) : List String :=
  ["test matrix version " ++ a.version ++ " updated by " ++ a.audit.updatedBy ++ " at " ++
      updatedText a,
    toString (a.tests.size - (r.invalid.size + r.dynamic.size)) ++ " of " ++
      toString a.tests.size ++ " tests valid"] ++
    r.invalid.entries.map (fun e => "invalid: " ++ e.1 ++ ": " ++ e.2.detail) ++
    r.missing.toList.map (fun name => "missing: " ++ name) ++
    r.dynamic.entries.map fun e => "warning: dynamic test " ++ e.1 ++ ": " ++ e.2.detail

/-- The report, without blanks at its end. -/
def reportText (a : Artifact) (r : Specification.Report) : String :=
  String.ofList (Text.trimEnd (Json.separated "\n" (reportLines a r)).toList)

/-- Compares an artifact with a specification; without one every test has to be consistent. -/
def compare (l : Rule.Library) (r : PatternLibrary) (source : String) (a : Artifact) :
    Option Specification → InSession (Except ConfigurationError Specification.Report)
  | none => do
      let problems ← Consistency.verifyAll l Provided.syntaxOnly source a
      pure (.ok ⟨problems.map .inconsistent, NameSet.empty, NameMap.empty⟩)
  | some s => s.verify l r none source a

/-- The specification of a file, which may not be there. -/
def specificationOf (w : Wording) (path : String) (content : Except String String) :
    Except CommandError Specification :=
  match content with
  | .error detail => .error (.badSpecification path (.unreadable detail))
  | .ok text => match (Json.parse? text).bind Specification.ofJson? with
    | none => .error (.badSpecification path (.notJson (w.specification text)))
    | some s => .ok s

/-- What validating has to say: a report on what could be examined, and an error. -/
structure Verdict where
  report : Option String
  error : Option CommandError

/-- The error of a report. -/
def reportError (source : String) (r : Specification.Report) : Option CommandError :=
  if r.hasInvalid || r.hasMissing then
    some (.unusable source r.invalid.size r.missing.size)
  else none

/-- The artifact and the specification to compare it with, if there is to be one. -/
def subjects (w : Wording) (source : String) (artifact : Except String String)
    (specification : Option (String × Except String String)) :
    Except CommandError (Artifact × Option Specification) := do
  let a ← (Artifact.ofFile w source artifact).mapError .loading
  match specification with
  | none => .ok (a, none)
  | some (path, content) => do
      let s ← specificationOf w path content
      .ok (a, some s)

/-- Validates the artifact of a file, against the specification of another one where it is given. -/
def validate (w : Wording) (l : Rule.Library) (r : PatternLibrary) (source : String)
    (artifact : Except String String) (specification : Option (String × Except String String)) :
    InSession Verdict :=
  match subjects w source artifact specification with
  | .error e => pure ⟨none, some e⟩
  | .ok (a, s) => do
      let compared ← compare l r source a s
      match compared with
      | .error e => pure ⟨none, some (.configuration e)⟩
      | .ok report => pure ⟨some (reportText a report), reportError source report⟩

/-! ## Resolving -/

/-- The name and the value of an argument. The first sign of equality parts them, and the name must
not be blank. -/
def pairOf (what argument : String) : Except CommandError (String × String) :=
  match Text.splitFirst? ['='] argument.toList with
  | none => .error (.noPair what argument)
  | some (name, value) =>
      if name.all Text.isBlank then .error (.noPair what argument)
      else .ok (String.ofList (Text.trimChars name), String.ofList value)

/-- Adds the identity of an argument, unless there is one for its type. -/
def addIdentifier (ids : Identifiers) (argument : String) : Except CommandError Identifiers := do
  let (name, value) ← pairOf "identifier" argument
  let t := TestType.ofName name
  if (ids.get? t).isSome then .error (.repeatedIdentifier t) else .ok (ids.insert t value)

/-- The identities of arguments. -/
def identifiers (arguments : List String) (random : Bool) : Except CommandError Identifiers :=
  arguments.foldlM addIdentifier ⟨[], random⟩

/-- The value of an argument; a text that is no document stands for itself. -/
def valueOf (text : String) : Value :=
  match Json.parse? text with
  | some v => Value.ofJson v
  | none => .string text

/-- Adds the variable of an argument. -/
def addVariable (context : Context) (argument : String) : Except CommandError Context := do
  let (name, value) ← pairOf "context value" argument
  .ok (context.insert name (valueOf value))

/-- The variables of arguments; of two with one name the later counts. -/
def context (arguments : List String) : Except CommandError Context :=
  arguments.foldlM addVariable NameMap.empty

/-- What is to be resolved. -/
structure Request where
  ids : List String
  random : Bool
  context : List String
  tests : List String
  force : Option String

/-- The tests that are asked for: all of them when none is named. -/
def requested (tests : List String) : Requested :=
  if tests.isEmpty then .all else .names (NameSet.ofList tests)

/-- The groups of a request against the artifact of a file, as a document. -/
def resolve (w : Wording) (l : Rule.Library) (source : String) (artifact : Except String String)
    (r : Request) (draws : Draws) : InSession (Except CommandError Json) :=
  match identifiers r.ids r.random with
  | .error e => pure (.error e)
  | .ok ids => match context r.context with
    | .error e => pure (.error e)
    | .ok context => match Artifact.ofFile w source artifact with
      | .error e => pure (.error (.loading e))
      | .ok a => do
          let resolver : Resolver := ⟨l, DynamicFilters.none, none⟩
          let groups ← resolver.resolve a ids context (requested r.tests)
            (r.force.elim ForceGroups.none ForceGroups.parse) draws
          pure (.ok groups.toJson)

end Command

end Cohort
