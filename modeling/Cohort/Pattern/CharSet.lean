import Cohort.Pattern.PropertyTable
import Cohort.Text.Class

/-! # Sets of characters in patterns

A set is kept as it was written, as unions, intersections and complements of ranges and properties,
and is only ever asked whether it contains a character. So a complement needs no list of the
characters left over, and folding a set by case asks it about the case variants of a character. -/

namespace Cohort.Pattern

/-- A set of characters. -/
inductive CharSet where
  | any
  | range (first last : Nat)
  | table (r : Text.Ranges)
  | union (a b : CharSet)
  | inter (a b : CharSet)
  | minus (a b : CharSet)
  | symmetric (a b : CharSet)
  | negate (a : CharSet)
  /-- With every character, also those equal to it up to case. -/
  | folded (a : CharSet)

/-- The partner of a character, when the run pairs it with one. -/
def partner? (r : Text.Shift) (c : Char) : Option Char :=
  let back := ((c.toNat : Int) - r.offset).toNat
  match r.image? c with
  | some d => some d
  | none => if r.first ≤ back ∧ back ≤ r.last ∧ (back - r.first) % r.step = 0 then
      some (Char.ofNat back) else none

/-- The characters equal to a character up to case, itself included. -/
def caseVariants (c : Char) : List Char :=
  match caseGroups.find? (·.contains c) with
  | some group => group
  | none => match casePairs.runs.findSome? (partner? · c) with
    | some d => [c, d]
    | none => [c]

namespace CharSet

/-- The character belongs to the set. -/
def contains : CharSet → Char → Bool
  | .any, _ => true
  | .range first last, c => first ≤ c.toNat && c.toNat ≤ last
  | .table r, c => r.contains c
  | .union a b, c => a.contains c || b.contains c
  | .inter a b, c => a.contains c && b.contains c
  | .minus a b, c => a.contains c && !b.contains c
  | .symmetric a b, c => a.contains c != b.contains c
  | .negate a, c => !a.contains c
  | .folded a, c => (caseVariants c).any a.contains

/-- The greatest character of a set of one range. -/
def lastOfRange : CharSet → Nat
  | .range _ last => last
  | _ => 0x7f

/-- The number of ranges the set is made of. -/
def parts : CharSet → Nat
  | .any => 1
  | .range _ _ => 1
  | .table r => r.bounds.length
  | .union a b => a.parts + b.parts
  | .inter a b => a.parts + b.parts
  | .minus a b => a.parts + b.parts
  | .symmetric a b => a.parts + b.parts
  | .negate a => a.parts + 1
  | .folded a => 2 * a.parts

/-- The set with one character. -/
def single (c : Char) : CharSet := .range c.toNat c.toNat

/-- The set without characters. -/
def nothing : CharSet := .negate .any

/-- The union of a list of sets. -/
def unionAll : List CharSet → CharSet
  | [] => nothing
  | [a] => a
  | a :: b :: rest => .union a (unionAll (b :: rest))

/-- The complement, if asked for. -/
def negatedIf (negated : Bool) (a : CharSet) : CharSet :=
  if negated then .negate a else a

/-- The characters of ASCII. -/
def ascii : CharSet := .range 0 0x7f

/-- With the case variants of its characters of ASCII that are of ASCII themselves. -/
def foldedInAscii (a : CharSet) : CharSet := .union a (.inter (.folded (.inter a ascii)) ascii)

/-! ## Named sets -/

/-- The name of a property in the form the tables use. -/
def canonicalName (name : List Char) : String :=
  let kept := (name.map Char.toLower).filter fun c => c != ' ' && c != '_' && c != '-'
  String.ofList (match kept with
    | 'i' :: 's' :: rest => rest
    | cs => cs)

/-- The set of the first entry that has the name. -/
def lookup? (entries : List NamedRanges) (name : String) : Option CharSet :=
  (entries.find? (·.names.contains name)).map fun e => .table e.ranges

/-- The union of general categories given by their short names. -/
def categories (names : List String) : CharSet :=
  unionAll (names.filterMap (lookup? generalCategories))

/-- The set of a general category, which may be a union of others. -/
def category? (name : String) : Option CharSet :=
  if name = "any" then some .any
  else if name = "ascii" then some ascii
  else if name = "assigned" then some (.negate (categories ["cn"]))
  else if name = "l" ∨ name = "letter" then some (categories ["lu", "ll", "lt", "lm", "lo"])
  else if name = "lc" ∨ name = "casedletter" then some (categories ["lu", "ll", "lt"])
  else if name = "m" ∨ name = "mark" ∨ name = "combiningmark" then
    some (categories ["mn", "mc", "me"])
  else if name = "n" ∨ name = "number" then some (categories ["nd", "nl", "no"])
  else if name = "p" ∨ name = "punctuation" ∨ name = "punct" then
    some (categories ["pc", "pd", "ps", "pe", "pi", "pf", "po"])
  else if name = "s" ∨ name = "symbol" then some (categories ["sm", "sc", "sk", "so"])
  else if name = "z" ∨ name = "separator" then some (categories ["zs", "zl", "zp"])
  else if name = "c" ∨ name = "other" then some (categories ["cc", "cf", "cn", "co"])
  else lookup? generalCategories name

/-- The set of a binary property. -/
def binary? (name : String) : Option CharSet :=
  if name = "alphabetic" ∨ name = "alpha" then some (.table Text.Property.alphabetic)
  else if name = "cased" then some (.table Text.Property.cased)
  else if name = "caseignorable" ∨ name = "ci" then some (.table Text.Property.caseIgnorable)
  else lookup? binaryProperties name

/-- The set of a name alone: a binary property, a general category or a script. -/
def named? (name : List Char) : Option CharSet :=
  let canonical := canonicalName name
  (binary? canonical).orElse fun _ =>
    (category? canonical).orElse fun _ => lookup? scripts canonical

/-- The set of a property and a value for it. -/
def valued? (name value : List Char) : Option CharSet :=
  let property := canonicalName name
  if property = "gc" ∨ property = "generalcategory" then category? (canonicalName value)
  else if property = "sc" ∨ property = "script" then lookup? scripts (canonicalName value)
  else none

/-- Decimal digits of all scripts. -/
def digit : CharSet := categories ["nd"]

/-- Blanks. -/
def space : CharSet :=
  unionAll [.range 0x09 0x0d, .range 0x20 0x20, .range 0x85 0x85, .range 0xa0 0xa0,
    .range 0x1680 0x1680, .range 0x2000 0x200a, .range 0x2028 0x2029, .range 0x202f 0x202f,
    .range 0x205f 0x205f, .range 0x3000 0x3000]

/-- What words are made of: letters, marks, digits, connectors and joiners. -/
def word : CharSet :=
  unionAll [.table Text.Property.alphabetic, categories ["mn", "mc", "me", "nd", "pc"],
    .range 0x200c 0x200d]

/-- Decimal digits of ASCII. -/
def asciiDigit : CharSet := .range 0x30 0x39

/-- Blanks of ASCII. -/
def asciiSpace : CharSet := .union (.range 0x09 0x0d) (.range 0x20 0x20)

/-- What words are made of in ASCII. -/
def asciiWord : CharSet :=
  unionAll [.range 0x30 0x39, .range 0x41 0x5a, .range 0x5f 0x5f, .range 0x61 0x7a]

/-- The sets that have a name between `[:` and `:]`. -/
def bracketNamed? (name : String) : Option CharSet :=
  if name = "alnum" then some (unionAll [.range 0x30 0x39, .range 0x41 0x5a, .range 0x61 0x7a])
  else if name = "alpha" then some (.union (.range 0x41 0x5a) (.range 0x61 0x7a))
  else if name = "ascii" then some ascii
  else if name = "blank" then some (.union (.range 0x09 0x09) (.range 0x20 0x20))
  else if name = "cntrl" then some (.union (.range 0 0x1f) (.range 0x7f 0x7f))
  else if name = "digit" then some asciiDigit
  else if name = "graph" then some (.range 0x21 0x7e)
  else if name = "lower" then some (.range 0x61 0x7a)
  else if name = "print" then some (.range 0x20 0x7e)
  else if name = "punct" then
    some (unionAll [.range 0x21 0x2f, .range 0x3a 0x40, .range 0x5b 0x60, .range 0x7b 0x7e])
  else if name = "space" then some asciiSpace
  else if name = "upper" then some (.range 0x41 0x5a)
  else if name = "word" then some asciiWord
  else if name = "xdigit" then
    some (unionAll [.range 0x30 0x39, .range 0x41 0x46, .range 0x61 0x66])
  else none

end CharSet

end Cohort.Pattern
