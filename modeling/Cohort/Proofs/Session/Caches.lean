import Cohort.Pattern.Engine
import Cohort.Proofs.Consistency.Restriction
import Cohort.Proofs.Resolution.Choices
import Cohort.Rule.Library.Standard

/-! # Caches are invisible

    A cache keeps the first text it was asked for, be it a rule or not, and
    may be asked for any other text afterwards.  Its answers are the same in
    whatever state its history has left it.  So all work on one artifact,
    which goes through the same caches, can be done in any order and any
    number of times: every piece of it comes to what it comes to when all
    caches are empty. -/

namespace Cohort

/-! ## One cache -/

namespace Rule.Cache

/-- A cache that was asked for these texts, one after the other. -/
def askedFor (texts : List String) : Cache :=
  texts.foldl (fun c text => (c.parsed text).2) empty

/-- A cache that is filled stays as it is, whatever it is asked for. -/
theorem snd_parsed_of_kept {c : Cache} {first : String} {p : Except Error Expr}
    (h : c.kept = some (first, p)) (text : String) : (c.parsed text).2 = c := by
  rw [parsed]
  split
  · next hnone =>
      rw [hnone] at h
      cases h
  · split
    · rfl
    · rfl

/-- **THE FIRST TEXT STAYS**: a cache keeps the first text it was asked for, with
    what parsing it came to, and no later one. -/
theorem kept_askedFor (first : String) (texts : List String) :
    (askedFor (first :: texts)).kept = some (first, parse first) := by
  have hfirst : ((empty.parsed first).2).kept = some (first, parse first) := rfl
  rw [askedFor, List.foldl_cons]
  generalize (empty.parsed first).2 = c at hfirst ⊢
  induction texts with
  | nil => exact hfirst
  | cons text rest ih =>
      rw [List.foldl_cons, snd_parsed_of_kept hfirst]
      exact ih

end Rule.Cache

/-! ## All caches of an artifact -/

/-- A piece of work on an artifact: to verify one of its tests, all of them or those
    that a client uses, to select a bucket of a test, or to resolve a request. -/
inductive Query where
  | verify (l : Rule.Library) (p : Provided) (source test : String)
  | verifyAll (l : Rule.Library) (p : Provided) (source : String)
  | verifyArtifact (l : Rule.Library) (p : Provided) (source : String)
      (required dynamic : NameSet)
  | select (l : Rule.Library) (test : String) (identity : Option String)
      (context : Context) (drawn : Float)
  | resolve (r : Resolver) (ids : Identifiers) (context : Context)
      (requested : Requested) (force : ForceGroups) (draws : Draws)

/-- What a query comes to. -/
inductive Reply where
  /-- The artifact has no test of that name. -/
  | noTest
  | verified (result : Except IncompatibleTest Unit)
  | problems (found : Consistency.Problems)
  | loaded (result : Consistency.LoadResult)
  | selected (result : Except Rule.Error (Option Selection))
  | resolved (groups : ResolvedGroups)

open InSession

/-- Carries out a query. -/
def Query.reply (a : Artifact) : Query → InSession Reply
  | .verify l p source test => match a.tests.get? test with
    | none => pure .noTest
    | some d => do
        let result ← Consistency.verify l p source test d
        pure (.verified result)
  | .verifyAll l p source => do
      let found ← Consistency.verifyAll l p source a
      pure (.problems found)
  | .verifyArtifact l p source required dynamic => do
      let result ← Consistency.verifyArtifact l p source a required dynamic
      pure (.loaded result)
  | .select l test identity context drawn => match a.tests.get? test with
    | none => pure .noTest
    | some d => do
        let result ← Selection.select l test d identity context drawn
        pure (.selected result)
  | .resolve r ids context requested force draws => do
      let groups ← r.resolve a ids context requested force draws
      pure (.resolved groups)

/-- Carries out queries one after the other. -/
def replies (a : Artifact) : List Query → InSession (List Reply)
  | [] => pure []
  | q :: rest => do
      let reply ← q.reply a
      let more ← replies a rest
      pure (reply :: more)

theorem Resolver.steady_resolve (r : Resolver) (a : Artifact) (ids : Identifiers)
    (context : Context) (requested : Requested) (force : ForceGroups) (draws : Draws) :
    Steady (r.resolve a ids context requested force draws) := by
  rw [resolve]
  split
  · exact steady_pure _
  · have hchoices : Steady (r.choices a ids context requested force draws) :=
      r.fst_choices a ids context force draws requested
    exact hchoices.bind fun _ => steady_pure _

theorem Query.steady_reply (a : Artifact) (q : Query) : Steady (q.reply a) := by
  cases q with
  | verify l p source test =>
      rw [reply]
      split
      · exact steady_pure _
      · exact (Consistency.steady_verify l p source test _).bind fun _ => steady_pure _
  | verifyAll l p source =>
      exact (Consistency.steady_verifyAll l p source a).bind fun _ => steady_pure _
  | verifyArtifact l p source required dynamic =>
      exact (Consistency.steady_verifyArtifact l p source a required dynamic).bind
        fun _ => steady_pure _
  | select l test identity context drawn =>
      rw [reply]
      split
      · exact steady_pure _
      · exact (Selection.steady_select l test _ identity context drawn).bind
          fun _ => steady_pure _
  | resolve r ids context requested force draws =>
      exact (r.steady_resolve a ids context requested force draws).bind
        fun _ => steady_pure _

/-- Each query of a sequence comes to the same as in a fresh session. -/
theorem fst_replies (a : Artifact) (queries : List Query) (s : Session) :
    (replies a queries s).1 = queries.map fun q => (q.reply a).value := by
  induction queries generalizing s with
  | nil => rfl
  | cons q rest ih =>
      rw [replies, fst_bind, fst_bind, q.steady_reply a s, ih]
      rfl

/-- **CACHES ARE INVISIBLE**: a cache keeps the first text it was asked for, and
    whatever texts these were, rules or not, a rule evaluated through it makes
    the same calls and comes to the same value or error as without a cache.
    And whatever was done on an artifact before, each query comes to what it
    comes to on a copy with empty caches. -/
theorem caches_are_invisible :
    (∀ (first : String) (texts : List String),
      (Rule.Cache.askedFor (first :: texts)).kept = some (first, Rule.parse first)) ∧
    (∀ (texts : List String) (l : Rule.Library) (rule : Option String) (scope : Rule.Scope),
      ((Rule.Cache.askedFor texts).evaluate l rule scope).1 = Rule.evaluate l rule scope) ∧
    (∀ (a : Artifact) (queries : List Query) (s : Session),
      (replies a queries s).1 = queries.map fun q => (q.reply a Session.fresh).1) := by
  refine ⟨Rule.Cache.kept_askedFor, ?_, ?_⟩
  · intro texts l rule scope
    exact Rule.Cache.fst_evaluate _ l rule scope
  · intro a queries s
    exact fst_replies a queries s

/-- A cache that is filled with what is no rule still answers a rule. -/
example :
    ((Rule.Cache.askedFor ["&&"]).evaluate (Rule.Standard.library Pattern.Engine.library 0)
      (some "${ 1 < 2 }")
      ⟨NameMap.empty, NameMap.empty, NameMap.empty⟩).1.outcome = .ok true := by
  decide +kernel

end Cohort
