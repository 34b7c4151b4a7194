import Cohort.NameMap
import Cohort.Text.Class
import Cohort.Text.Ranges
import Cohort.Decimal.Reader

/-! # Forced groups

Whoever checks a page by hand wants to see it in given groups. Forced groups are written
`my_tst1,other_tst-1,default_to_min_live`: names with a bucket value behind, and words that say what
becomes of all other tests. What is neither is passed over, and later elements win. -/

namespace Cohort

/-- What becomes of tests that are not forced. -/
inductive DefaultMode where
  | normal
  /-- They get no group, so that everyone uses a fallback. -/
  | fallback
  /-- They get the least bucket value of some length in their allocation. -/
  | minLive
deriving Repr, DecidableEq

/-- The name of a mode. -/
def DefaultMode.name : DefaultMode → String
  | .normal => "normal"
  | .fallback => "fallback"
  | .minLive => "min_live"

/-- The word that sets a mode; the normal mode has none. -/
def DefaultMode.word? : DefaultMode → Option String
  | .normal => none
  | .fallback => some "default_to_fallback"
  | .minLive => some "default_to_min_live"

/-- The mode that a word sets, whatever the case of its letters. -/
def DefaultMode.ofWord? (word : String) : Option DefaultMode :=
  [DefaultMode.fallback, .minLive].find? fun mode =>
    mode.word?.any (Text.equalsIgnoringAsciiCase word)

/-- Forced bucket values by test, and the mode of all other tests. -/
structure ForceGroups where
  forced : NameMap Int32
  mode : DefaultMode
deriving DecidableEq

namespace ForceGroups

/-- Nothing is forced. -/
def none : ForceGroups := ⟨NameMap.empty, .normal⟩

/-- Forces a test. -/
def force (g : ForceGroups) (test : String) (value : Int32) : ForceGroups :=
  { g with forced := g.forced.insert test value }

/-- Nothing is out of the ordinary. -/
def isEmpty (g : ForceGroups) : Bool :=
  g.forced.isEmpty && g.mode == .normal

/-- May be part of the name of a forced test. -/
def isNameChar (c : Char) : Bool :=
  Text.isAlphanumeric c || c == '_'

/-- The name and the value of an element: the value is the longest run of digits at the end, with a
minus sign if one stands before it. -/
def splitElement? (element : List Char) : Option (String × Int32) :=
  let reversed := element.reverse
  let digits := (reversed.takeWhile Decimal.isDigit).reverse
  let (name, value) := match reversed.dropWhile Decimal.isDigit with
    | '-' :: rest => (rest.reverse, '-' :: digits)
    | rest => (rest.reverse, digits)
  if digits.isEmpty || name.isEmpty || !name.all isNameChar then Option.none
  else (Decimal.int32? value).map fun v => (String.ofList name, v)

/-- Adds what an element says. -/
def addElement (g : ForceGroups) (element : List Char) : ForceGroups :=
  match DefaultMode.ofWord? (String.ofList element) with
  | some mode => { g with mode := mode }
  | Option.none => match splitElement? element with
    | some (name, value) => g.force name value
    | Option.none => g

/-- Reads forced groups. -/
def parse (s : String) : ForceGroups :=
  ((Text.pieces (· == ',') s.toList).map Text.trimChars).foldl addElement none

end ForceGroups

end Cohort
