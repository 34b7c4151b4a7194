import Cohort.Pattern.CharSet
import Cohort.Pattern.Syntax

/-! # Atoms and counts

What the trees of the engine are made of: an atom is a character of some set or a condition on a
place, and a repetition has a least count and maybe a greatest one. -/

namespace Cohort.Pattern.Engine

/-- Conditions on a place between two characters. -/
inductive Assertion where
  | textStart
  | textEnd
  /-- `crlf`: a line may also end in a carriage return. -/
  | lineStart (crlf : Bool)
  | lineEnd (crlf : Bool)
  /-- On one side of the place is a character of `word`, on the other none. -/
  | boundary (word : CharSet)
  | noBoundary (word : CharSet)
  | wordStart (word : CharSet)
  | wordEnd (word : CharSet)
  /-- No character of `word` before the place. -/
  | wordStartHalf (word : CharSet)
  /-- No character of `word` behind the place. -/
  | wordEndHalf (word : CharSet)

/-- What a match of one place or one character is asked for. -/
inductive Atom where
  | char (set : CharSet)
  | assertion (a : Assertion)

/-- At least `least` times, and at most `most` times if there is a bound. -/
structure Count where
  least : Nat
  most : Option Nat

/-! ## Atoms -/

/-- The character before a place is in the set. -/
def follows (p : Place) (set : CharSet) : Bool :=
  p.before.head?.any set.contains

/-- The character behind a place is in the set. -/
def precedes (p : Place) (set : CharSet) : Bool :=
  p.behind.head?.any set.contains

/-- The condition holds at the place. -/
def Assertion.holds (a : Assertion) (p : Place) : Bool :=
  match a with
  | .textStart => p.before.isEmpty
  | .textEnd => p.behind.isEmpty
  | .lineStart false => p.before.isEmpty || p.before.head? == some '\n'
  | .lineEnd false => p.behind.isEmpty || p.behind.head? == some '\n'
  | .lineStart true => p.before.isEmpty || p.before.head? == some '\n' ||
      (p.before.head? == some '\r' && p.behind.head? != some '\n')
  | .lineEnd true => p.behind.isEmpty || p.behind.head? == some '\r' ||
      (p.behind.head? == some '\n' && p.before.head? != some '\r')
  | .boundary word => follows p word != precedes p word
  | .noBoundary word => follows p word == precedes p word
  | .wordStart word => !follows p word && precedes p word
  | .wordEnd word => follows p word && !precedes p word
  | .wordStartHalf word => !follows p word
  | .wordEndHalf word => !precedes p word

/-- Where a match of an atom ends. -/
def Atom.step : Atom → Step
  | .char set, p => match p.behind with
    | [] => []
    | c :: cs => if set.contains c then [⟨c :: p.before, cs⟩] else []
  | .assertion a, p => if a.holds p then [p] else []

/-! ## Counts -/

/-- Exactly `n` steps. -/
def stepsExactly (step : Step) : Nat → List Place → List Place
  | 0, ps => ps
  | n + 1, ps => if ps.isEmpty then [] else stepsExactly step n (spread step ps)

/-- At most `n` steps; ends early when a step leads nowhere new. -/
def stepsAtMost (step : Step) : Nat → List Place → List Place
  | 0, ps => ps
  | n + 1, ps =>
      let more := (ps ++ spread step ps).eraseDups
      if more.length = ps.length then ps else stepsAtMost step n more

/-- Where matches in a row end. -/
def Count.repeated (n : Count) (step : Step) (p : Place) : List Place :=
  let start := stepsExactly step n.least [p]
  match n.most with
  | some most => stepsAtMost step (min (most - n.least) (p.behind.length + 1)) start
  | none => stepsAtMost step (p.behind.length + 1) start

/-! ## Size

A pattern may be short and stand for a very large machine, because repetitions multiply. The size
is an estimate of the bytes such a machine takes. -/

/-- Bytes for one byte of a character. -/
def stateSize : Nat := 32

/-- Bytes for each further range of a set. -/
def rangeSize : Nat := 64

/-- The size of a set: one state for each byte of a character, and the further ranges. -/
def setSize (set : CharSet) : Nat :=
  let bytes :=
    if set.lastOfRange < 0x80 then 1
    else if set.lastOfRange < 0x800 then 2
    else if set.lastOfRange < 0x10000 then 3
    else 4
  stateSize * bytes + rangeSize * (set.parts - 1)

/-- The size of a pattern. -/
def size : Tree Atom Count → Nat
  | .empty => stateSize
  | .atom (.char set) => setSize set
  | .atom (.assertion _) => stateSize
  | .sequence p q => size p + size q
  | .choice p q => size p + size q + stateSize
  | .group _ p => size p
  | .repetition n p => match n.most with
    | some most => n.least * size p + (most - n.least) * (size p + stateSize)
    | none => (n.least + 1) * size p + stateSize

/-- Greater patterns are refused. -/
def sizeLimit : Nat := 10 * Nat.pow 2 20

/-! ## Depth -/

/-- How deep a pattern nests, as part of a sequence, of a choice or of neither. Parts of one sequence
lie side by side, and so do the alternatives of one choice. -/
def depthIn (sequence choice : Bool) : Tree Atom Count → Nat
  | .empty => 0
  | .atom _ => 0
  | .sequence p q => (if sequence then 0 else 1) + max (depthIn true false p) (depthIn true false q)
  | .choice p q => (if choice then 0 else 1) + max (depthIn false true p) (depthIn false true q)
  | .group _ p => 1 + depthIn false false p
  | .repetition _ p => 1 + depthIn false false p

/-- How deep a pattern nests. -/
def depth (p : Tree Atom Count) : Nat :=
  depthIn false false p

/-- Deeper patterns are refused. -/
def depthLimit : Nat := 250

/-- The names of the groups of a pattern. -/
def groupNames : Tree Atom Count → List String
  | .empty => []
  | .atom _ => []
  | .sequence p q => groupNames p ++ groupNames q
  | .choice p q => groupNames p ++ groupNames q
  | .group name p => name.toList ++ groupNames p
  | .repetition _ p => groupNames p

end Cohort.Pattern.Engine
