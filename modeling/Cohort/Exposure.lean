import Cohort.Resolution

/-! # Exposures

A request that resolves many tests may use few of them, and only those it used should be logged. An
observer narrows a result to the tests that were marked as used. A marking observer keeps marks of
its own; a composite hands marks on to its observers, and counts as marked what any of them has
marked. Observers share marks when they share marking observers, so the marks are kept apart from
the observers, by the number of the marking observer. -/

namespace Cohort

/-- The names marked on one result, as an observer of it keeps them. -/
structure Marks where
  original : ResolvedGroups
  marked : NameSet

namespace Marks

/-- Nothing is marked yet. -/
def start (r : ResolvedGroups) : Marks := ⟨r, NameSet.empty⟩

/-- Marks a test; only tests of the result can be marked. -/
def mark (m : Marks) (test : String) : Marks :=
  if m.original.groups.contains test then { m with marked := m.marked.insert test } else m

/-- The test was marked. -/
def isMarked (m : Marks) (test : String) : Bool :=
  m.marked.contains test

/-- The result narrowed to the marked tests. -/
def result (m : Marks) : ResolvedGroups :=
  m.original.filtered m.isMarked

end Marks

/-- The marks of all marking observers, by number. -/
abbrev Board := List Marks

/-- Something that can be marked and asked. -/
inductive Observer where
  /-- The marking observer of a number. -/
  | marking (number : Nat)
  /-- Observers of one result. -/
  | composite (original : ResolvedGroups) (observers : List Observer)

namespace Observer

mutual

/-- The marking observers that an observer reaches. -/
def reached : Observer → List Nat
  | .marking n => [n]
  | .composite _ observers => reachedBy observers

/-- The marking observers that any of the observers reaches. -/
def reachedBy : List Observer → List Nat
  | [] => []
  | o :: rest => reached o ++ reachedBy rest

end

mutual

/-- Marks a test on an observer. -/
def mark (test : String) : Observer → Board → Board
  | .marking n, board => board.modify n (·.mark test)
  | .composite _ observers, board => markEach test observers board

/-- Marks a test on every observer, one after the other. -/
def markEach (test : String) : List Observer → Board → Board
  | [], board => board
  | o :: rest, board => markEach test rest (mark test o board)

end

mutual

/-- The test is marked on an observer. -/
def isMarked (board : Board) (test : String) : Observer → Bool
  | .marking n => (board[n]?).any (·.isMarked test)
  | .composite _ observers => isMarkedOnAny board test observers

/-- The test is marked on one of the observers. -/
def isMarkedOnAny (board : Board) (test : String) : List Observer → Bool
  | [] => false
  | o :: rest => isMarked board test o || isMarkedOnAny board test rest

end

/-- Marks tests one after the other. -/
def markAll (o : Observer) (tests : List String) (board : Board) : Board :=
  tests.foldl (fun board test => o.mark test board) board

/-- The result that an observer narrows. -/
def original (board : Board) : Observer → ResolvedGroups
  | .marking n => (board[n]?).elim ResolvedGroups.empty (·.original)
  | .composite original _ => original

/-- The result narrowed to what is marked now. -/
def result (board : Board) (o : Observer) : ResolvedGroups :=
  (o.original board).filtered fun test => o.isMarked board test

end Observer

end Cohort
