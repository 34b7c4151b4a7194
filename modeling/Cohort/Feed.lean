import Cohort.Artifact.Loading
import Cohort.Consistency

/-! # Feeds

A feed keeps the artifact of a file fresh. Each refresh reads the file, prepares the artifact for
use and serves it in place of the one before, unless the version is the same. When that fails, what
was served before is served on, and the next look comes sooner or later according to a policy. -/

namespace Cohort

/-! ## When to look again -/

/-- How long to wait between two looks at the file, in milliseconds. -/
structure RefreshPolicy where
  interval : Nat := 5000
  initialBackoff : Nat := 1000
  maxBackoff : Nat := 60000

/-- The greatest number of thirty-two bits. -/
def factorLimit : Nat := Nat.pow 2 32 - 1

/-- The wait after so many failures in a row: it doubles with each of them, up to a limit. -/
def RefreshPolicy.backoff (p : RefreshPolicy) (failures : Nat) : Nat :=
  match failures with
  | 0 => p.interval
  | n + 1 => min (p.initialBackoff * (if n < 32 then Nat.pow 2 n else factorLimit)) p.maxBackoff

/-! ## Preparation -/

/-- What is done with an artifact before it is served. -/
abbrev Preparation := Artifact → String → InSession (Except LoadError Artifact)

namespace Feed

/-- The artifact without the tests that cannot be served, whatever clients provide. -/
def dropInvalidTests (l : Rule.Library) (path : String) (a : Artifact) : InSession Artifact := do
  let problems ← Consistency.verifyAll l Provided.syntaxOnly path a
  problems.entries.forM fun e => InSession.report (.testDropped e.1 e.2.message)
  pure (Consistency.consolidate a ⟨problems, NameSet.empty, NameMap.empty⟩)

/-- The usual preparation: tests that cannot be served are dropped. -/
def dropInvalid (l : Rule.Library) : Preparation := fun a path => do
  let kept ← dropInvalidTests l path a
  pure (.ok kept)

end Feed

/-! ## The feed -/

/-- A file at a moment: its content and the time of its last change. -/
structure FileState where
  content : String
  modified : Nat

/-- What a look at a file finds: its state, or the message that says why it cannot be read. -/
abbrev FileLook := Except String FileState

/-- A file that is watched. -/
structure Feed where
  path : String
  prepare : Preparation
  /-- What is served. -/
  served : Option Artifact
  /-- The time of the last change that was read successfully. -/
  lastModified : Option Nat
  lastError : Option String

/-- What a successful refresh has found. -/
inductive RefreshOutcome where
  | loaded (version : String)
  /-- The version served already. -/
  | unchanged
deriving Repr, DecidableEq

namespace Feed

/-- A feed that has not looked at its file. -/
def new (path : String) (prepare : Preparation) : Feed := ⟨path, prepare, none, none, none⟩

/-- The file may have changed since it was read. -/
def isStale (f : Feed) (file : FileLook) : Bool :=
  match file with
  | .error _ => true
  | .ok s => f.lastModified != some s.modified

/-- Reads the file and prepares its artifact. -/
def load (w : Wording) (f : Feed) (file : FileLook) : InSession (Except LoadError Artifact) :=
  match Artifact.ofFile w f.path (file.map (·.content)) with
  | .error e => pure (.error e)
  | .ok a => f.prepare a f.path

/-- Serves a freshly loaded artifact, unless its version is served already. -/
def publish (f : Feed) (file : FileLook) (a : Artifact) : InSession (RefreshOutcome × Feed) :=
  let f := { f with lastModified := file.toOption.map (·.modified), lastError := none }
  if f.served.map (·.version) = some a.version then pure (.unchanged, f)
  else do
    InSession.report (.versionLoaded a.version a.audit.updatedBy)
    pure (.loaded a.version, { f with served := some a })

/-- Looks at the file now. -/
def refresh (w : Wording) (f : Feed) (file : FileLook) :
    InSession (Except LoadError RefreshOutcome × Feed) := do
  let loaded ← f.load w file
  match loaded with
  | .error e => pure (.error e, { f with lastError := some e.message })
  | .ok a => do
      let (outcome, f) ← f.publish file a
      pure (.ok outcome, f)

/-- Starts a feed; its first look at the file has to succeed. -/
def startWith (w : Wording) (path : String) (prepare : Preparation) (file : FileLook) :
    InSession (Except LoadError Feed) := do
  let (outcome, f) ← (new path prepare).refresh w file
  pure (outcome.map fun _ => f)

/-- Starts a feed that drops tests that cannot be served. -/
def start (w : Wording) (l : Rule.Library) (path : String) (file : FileLook) :
    InSession (Except LoadError Feed) :=
  startWith w path (dropInvalid l) file

/-- Starts a feed even if there is nothing to serve yet. -/
def spawn (w : Wording) (l : Rule.Library) (path : String) (file : FileLook) : InSession Feed := do
  let (outcome, f) ← (new path (dropInvalid l)).refresh w file
  match outcome with
  | .error e => InSession.report (.firstLoadFailed path e.message)
  | .ok _ => pure ()
  pure f

end Feed

/-! ## Polling -/

/-- A feed that is looked after in the background, and how many looks in a row have failed. -/
structure Watch where
  feed : Feed
  failures : Nat

namespace Watch

/-- How long to wait for the next turn. -/
def wait (p : RefreshPolicy) (t : Watch) : Nat :=
  p.backoff t.failures

/-- One turn, after the wait. A file that has not changed is left alone, unless the last look
failed. -/
def turn (w : Wording) (t : Watch) (file : FileLook) : InSession Watch :=
  if t.failures = 0 && !t.feed.isStale file then pure t
  else do
    let (outcome, feed) ← t.feed.refresh w file
    match outcome with
    | .ok _ => pure ⟨feed, 0⟩
    | .error e => do
        let failures := min (t.failures + 1) factorLimit
        InSession.report (.refreshFailed feed.path e.message failures)
        pure ⟨feed, failures⟩

end Watch

end Cohort
