import Cohort.Artifact.Loading
import Cohort.Resolution
import Cohort.Specification

/-! # The matrix

The handle that client code holds: an artifact, or none yet, with a resolver. On top of the groups
that a request forces come those that the thread forces, which code under test sets and takes back
through guards. A guard remembers what was forced before it, and puts that back when it is
dropped. -/

namespace Cohort

/-! ## Groups forced by the thread -/

/-- Bucket values forced on the thread, by test. -/
abbrev ThreadForced := NameMap Int32

namespace ThreadForced

/-- The forced groups of a request with those of the thread on top. -/
def onTopOf (forced : ThreadForced) (base : ForceGroups) : ForceGroups :=
  forced.entries.foldl (fun g e => g.force e.1 e.2) base

/-- What stood under each name, in the order in which the names were forced. -/
structure Guard where
  previous : List (String × Option Int32)

/-- Forces groups one after the other, and remembers what stood there before each. -/
def forceAll : ThreadForced → List (String × Int32) → Guard × ThreadForced
  | forced, [] => (⟨[]⟩, forced)
  | forced, (name, value) :: rest =>
      let (guard, after) := forceAll (forced.insert name value) rest
      (⟨(name, forced.get? name) :: guard.previous⟩, after)

/-- Puts back what stood under a name. -/
def putBack (forced : ThreadForced) (e : String × Option Int32) : ThreadForced :=
  match e.2 with
  | some value => forced.insert e.1 value
  | none => forced.erase e.1

/-- Drops a guard: what it remembers is put back, the last first. -/
def drop (forced : ThreadForced) (g : Guard) : ThreadForced :=
  g.previous.reverse.foldl putBack forced

end ThreadForced

/-! ## The handle -/

/-- Why the handle cannot answer. -/
inductive MatrixError where
  | noArtifact
  | unknownTest (test : String)
  | unknownBucket (test : String) (value : Int32)
  | loading (e : LoadError)
  | configuration (e : ConfigurationError)
deriving Repr, DecidableEq

/-- The message of an error. -/
def MatrixError.message : MatrixError → String
  | .noArtifact => "No test matrix is loaded"
  | .unknownTest test => "Unknown test: " ++ test
  | .unknownBucket test value =>
      "Test '" ++ test ++ "' has no bucket with value " ++ toString value.toInt
  | .loading e => "Validation error: " ++ e.message
  | .configuration e => "Configuration error: " ++ e.message

/-- The current artifact and what resolves against it. -/
structure Matrix where
  artifact : Option Artifact
  resolver : Resolver

namespace Matrix

/-- A handle without filters. -/
def ofArtifact (l : Rule.Library) (artifact : Option Artifact) : Matrix :=
  ⟨artifact, ⟨l, DynamicFilters.none, none⟩⟩

/-- The handle with the filters of a specification. -/
def withSpecification (m : Matrix) (l : Rule.Library) (r : PatternLibrary) (s : Specification)
    (patterns : Option TagPatterns) : Except MatrixError Matrix :=
  match DynamicFilters.compile r patterns s.dynamicFilters with
  | .error e => .error (.configuration e)
  | .ok filters => .ok { m with resolver := ⟨l, filters, none⟩ }

/-- The groups of a request, with the groups of the thread forced as well. -/
def resolve (m : Matrix) (forced : ThreadForced) (ids : Identifiers) (context : Context)
    (requested : Requested) (force : ForceGroups) (draws : Draws) :
    InSession (Except MatrixError ResolvedGroups) :=
  if Resolver.asksNothing requested then pure (.ok ResolvedGroups.empty)
  else match m.artifact with
    | none => pure (.error .noArtifact)
    | some a => do
        let groups ← m.resolver.resolve a ids context requested (forced.onTopOf force) draws
        pure (.ok groups)

/-- Compares the current artifact with a specification. -/
def verify (m : Matrix) (r : PatternLibrary) (s : Specification) (patterns : Option TagPatterns) :
    InSession (Except MatrixError Specification.Report) :=
  match m.artifact with
  | none => pure (.error .noArtifact)
  | some a => do
      let report ← s.verify m.resolver.library r patterns "matrix" a
      pure (report.mapError .configuration)

/-- The first group to be forced that the artifact does not have. -/
def unknownGroup? (a : Artifact) : List (String × Int32) → Option MatrixError
  | [] => none
  | (name, value) :: rest => match a.tests.get? name with
    | none => some (.unknownTest name)
    | some d => match d.bucket? value with
      | none => some (.unknownBucket name value)
      | some _ => unknownGroup? a rest

/-- Forces groups on the thread until the guard is dropped, if all of them are groups of the current
artifact: what comes of the call, and what is forced on the thread after it. -/
def forceGroups (m : Matrix) (forced : ThreadForced) (groups : List (String × Int32)) :
    Except MatrixError ThreadForced.Guard × ThreadForced :=
  match m.artifact with
  | none => (.error .noArtifact, forced)
  | some a => match unknownGroup? a groups with
    | some e => (.error e, forced)
    | none =>
        let (guard, after) := forced.forceAll groups
        (.ok guard, after)

end Matrix

end Cohort
