/-! # Patterns

A pattern describes texts. It is a tree over the atoms and the repetitions of a syntax. Matching is
by places: an atom leads from a place in a text to places, and a text matches when some match begins
somewhere in it. Which of several matches would be preferred is never asked. -/

namespace Cohort.Pattern

/-! ## Places -/

/-- A place in a text: the characters before it in reverse order, and those behind it. -/
structure Place where
  before : List Char
  behind : List Char
deriving DecidableEq

/-- What leads from a place to places. -/
abbrev Step := Place → List Place

/-- The places of a text from a place on. -/
def placesFrom (before : List Char) : List Char → List Place
  | [] => [⟨before, []⟩]
  | c :: cs => ⟨before, c :: cs⟩ :: placesFrom (c :: before) cs

/-- All places of a text, from the first to the last. -/
def places (cs : List Char) : List Place :=
  placesFrom [] cs

/-- One step from every place, each place once. -/
def spread (step : Step) (ps : List Place) : List Place :=
  (ps.flatMap step).eraseDups

/-! ## Trees -/

/-- A pattern over the atoms and the repetitions of a syntax. -/
inductive Tree (Atom Operator : Type) where
  | empty
  | atom (a : Atom)
  | sequence (p q : Tree Atom Operator)
  | choice (p q : Tree Atom Operator)
  /-- What stood in parentheses; a captured group may have a name. -/
  | group (name : Option String) (p : Tree Atom Operator)
  | repetition (o : Operator) (p : Tree Atom Operator)

/-! ## Constructs -/

/-- A construct at the front of a text. -/
inductive Construct (Flags Atom Operator : Type) where
  | atom (a : Atom)
  /-- A group begins; the flags hold inside. -/
  | opening (inner : Flags) (name : Option String)
  | closing
  | bar
  /-- What stands before is repeated. -/
  | repetition (o : Operator)
  /-- The flags change, to the end of the group. -/
  | flags (f : Flags)
  /-- Blanks and comments. -/
  | nothing

/-! ## Syntaxes -/

/-- A syntax of patterns: which constructs there are, and what they mean. Which construct stands at
the front of a text depends on the flags in force and on the text alone; how constructs make up a
tree is the same for all syntaxes. -/
structure Syntax (Flags Atom Operator : Type) where
  /-- The flags at the beginning of a text. -/
  initial : Flags
  /-- The construct at the front of a text, and what stands behind it. -/
  next : Flags → List Char → Option (Construct Flags Atom Operator × List Char)
  /-- The places where a match of an atom may end. -/
  step : Atom → Step
  /-- The same for a repetition, given where a match of what is repeated may end. -/
  repeated : Operator → Step → Step
  /-- What is asked of a tree as a whole, such as a limit to its depth. -/
  admits : Tree Atom Operator → Bool

variable {Flags Atom Operator : Type}

namespace Syntax

/-- The places where a match that begins at the place may end. -/
def ends (S : Syntax Flags Atom Operator) : Tree Atom Operator → Step
  | .empty, start => [start]
  | .atom a, start => S.step a start
  | .sequence p q, start => spread (S.ends q) (S.ends p start)
  | .choice p q, start => (S.ends p start ++ S.ends q start).eraseDups
  | .group _ p, start => S.ends p start
  | .repetition o p, start => S.repeated o (S.ends p) start

/-- Some part of the text matches. -/
def isFoundIn (S : Syntax Flags Atom Operator) (p : Tree Atom Operator) (text : String) : Bool :=
  (places text.toList).any fun start => !(S.ends p start).isEmpty

end Syntax

/-! ## Assembly -/

/-- Part of a sequence: a tree, or a change of flags, which cannot be repeated. -/
inductive Part (Atom Operator : Type) where
  | tree (p : Tree Atom Operator)
  | flags

/-- The tree of a sequence whose parts are in reverse order. -/
def sequenceOf (parts : List (Part Atom Operator)) : Tree Atom Operator :=
  parts.foldl (fun behind part => match part, behind with
    | .tree p, .empty => p
    | .tree p, behind => .sequence p behind
    | .flags, behind => behind) .empty

/-- The group being read: its flags and its name, and the finished alternatives and the parts of the
one being read, both in reverse order. -/
structure Frame (Flags Atom Operator : Type) where
  flags : Flags
  name : Option String
  alternatives : List (Tree Atom Operator)
  parts : List (Part Atom Operator)

namespace Frame

/-- A group that has just been opened. -/
def opened (flags : Flags) (name : Option String) : Frame Flags Atom Operator :=
  ⟨flags, name, [], []⟩

/-- Adds a part to the sequence being read. -/
def push (g : Frame Flags Atom Operator) (part : Part Atom Operator) :
    Frame Flags Atom Operator :=
  { g with parts := part :: g.parts }

/-- The tree between the parentheses of a group. -/
def tree (g : Frame Flags Atom Operator) : Tree Atom Operator :=
  g.alternatives.foldl (fun behind p => .choice p behind) (sequenceOf g.parts)

end Frame

/-- The innermost group and the open groups around it. -/
structure Assembly (Flags Atom Operator : Type) where
  group : Frame Flags Atom Operator
  around : List (Frame Flags Atom Operator)

/-- One construct. A closing parenthesis closes the innermost group, and a bar separates everything
between the parentheses around it. -/
def Assembly.step? (a : Assembly Flags Atom Operator) :
    Construct Flags Atom Operator → Option (Assembly Flags Atom Operator)
  | .atom p => some { a with group := a.group.push (.tree (.atom p)) }
  | .flags f => some { a with group := { a.group.push .flags with flags := f } }
  | .opening inner name => some ⟨.opened inner name, a.group :: a.around⟩
  | .closing => match a.around with
    | [] => none
    | outer :: around => some ⟨outer.push (.tree (.group a.group.name a.group.tree)), around⟩
  | .bar => some { a with group :=
      { a.group with
        alternatives := sequenceOf a.group.parts :: a.group.alternatives, parts := [] } }
  | .repetition o => match a.group.parts with
    | .tree p :: parts =>
        some { a with group := { a.group with parts := .tree (.repetition o p) :: parts } }
    | _ => none
  | .nothing => some a

namespace Syntax

/-- The assembly before the first construct. -/
def start (S : Syntax Flags Atom Operator) : Assembly Flags Atom Operator :=
  ⟨.opened S.initial none, []⟩

/-- All constructs of a text. Each one takes a character at least. -/
def run? (S : Syntax Flags Atom Operator) (a : Assembly Flags Atom Operator) (cs : List Char) :
    Option (Assembly Flags Atom Operator) :=
  if cs.isEmpty then some a
  else match S.next a.group.flags cs with
    | none => none
    | some (construct, rest) =>
        match a.step? construct with
        | none => none
        | some next => if rest.length < cs.length then S.run? next rest else none
termination_by cs.length

/-- The tree of a text whose groups are all closed. -/
def parse? (S : Syntax Flags Atom Operator) (text : String) : Option (Tree Atom Operator) :=
  (S.run? S.start text.toList).bind fun a =>
    if a.around.isEmpty && S.admits a.group.tree then some a.group.tree else none

end Syntax

end Cohort.Pattern
