import Cohort.Event
import Cohort.Rule.Cache

/-! # Sessions

All work on one artifact shares the parsed rules of the artifact and reports into one log. A session
is that shared state: one cache for each place where a rule stands, and the events so far. What is
computed in a session never depends on either of them. -/

namespace Cohort

/-- Where a rule stands in an artifact. -/
inductive RuleSite where
  | test (name : String)
  | allocation (test : String) (index : Nat)
deriving Repr, DecidableEq

/-- One cache for each place that was visited. -/
structure Caches where
  cells : List (RuleSite × Rule.Cache)

namespace Caches

/-- No cache was used. -/
def empty : Caches := ⟨[]⟩

/-- The cache of a place. -/
def get (c : Caches) (site : RuleSite) : Rule.Cache :=
  match c.cells.find? (·.1 == site) with
  | some cell => cell.2
  | none => Rule.Cache.empty

/-- Sets the cache of a place. -/
def set (c : Caches) (site : RuleSite) (cache : Rule.Cache) : Caches :=
  ⟨(site, cache) :: c.cells.filter (·.1 != site)⟩

end Caches

/-- The parsed rules and the events of the work on one artifact. -/
structure Session where
  caches : Caches
  /-- The oldest event first. -/
  log : List Event

/-- A session in which nothing was done. -/
def Session.fresh : Session := ⟨Caches.empty, []⟩

/-- Work in a session. -/
abbrev InSession (α : Type) := StateM Session α

namespace InSession

/-- Reports an event. -/
def report (e : Event) : InSession Unit :=
  modify fun s => { s with log := s.log ++ [e] }

/-- The parse of the rule that stands at a place. -/
def parsed (site : RuleSite) (rule : String) : InSession (Except Rule.Error Rule.Expr) := fun s =>
  let (parsed, cache) := (s.caches.get site).parsed rule
  (parsed, { s with caches := s.caches.set site cache })

/-- The answer to the rule that stands at a place. -/
def evaluate (l : Rule.Library) (site : RuleSite) (rule : Option String) (scope : Rule.Scope) :
    InSession (Except Rule.Error Bool) := fun s =>
  let (answer, cache) := (s.caches.get site).evaluate l rule scope
  (answer.outcome, { s with caches := s.caches.set site cache })

/-- What the work comes to in a fresh session. -/
def value {α : Type} (x : InSession α) : α :=
  (x Session.fresh).1

end InSession

end Cohort
