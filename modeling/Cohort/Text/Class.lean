import Cohort.Text.PropertyTable

/-! # Character classes and trimming

What counts as a blank, a letter or a digit follows Unicode throughout: rule texts, names of
forced groups and trimmed input are all read with these classes. -/

namespace Cohort.Text

/-- White space (Unicode `White_Space`). -/
def isBlank (c : Char) : Bool :=
  let n := c.toNat
  (0x09 ≤ n && n ≤ 0x0d) || n == 0x20 || n == 0x85 || n == 0xa0 || n == 0x1680 ||
    (0x2000 ≤ n && n ≤ 0x200a) || n == 0x2028 || n == 0x2029 || n == 0x202f || n == 0x205f ||
    n == 0x3000

/-- Letters; the table is asked only beyond ASCII. -/
def isAlphabetic (c : Char) : Bool :=
  if c.toNat < 128 then c.isAlpha else Property.alphabetic.contains c

/-- Numbers of any script. -/
def isNumeric (c : Char) : Bool :=
  if c.toNat < 128 then c.isDigit else Property.numeric.contains c

/-- Letters and numbers. -/
def isAlphanumeric (c : Char) : Bool :=
  isAlphabetic c || isNumeric c

/-- Characters that a quoted form shows by their code point. -/
def isUnprintable (c : Char) : Bool :=
  Property.unprintable.contains c

/-! ## Trimming -/

/-- Without the blanks in front. -/
def trimStart (cs : List Char) : List Char :=
  cs.dropWhile isBlank

/-- Without the blanks at the end. -/
def trimEnd (cs : List Char) : List Char :=
  (cs.reverse.dropWhile isBlank).reverse

/-- Without the blanks around. -/
def trimChars (cs : List Char) : List Char :=
  trimEnd (trimStart cs)

/-- A string without the blanks around. -/
def trim (s : String) : String :=
  String.ofList (trimChars s.toList)

/-- Nothing but blanks. -/
def isBlankText (s : String) : Bool :=
  s.toList.all isBlank

/-! ## Parts of a list of characters -/

/-- What follows `p`, when the text starts with `p`. -/
def stripStart? : List Char → List Char → Option (List Char)
  | [], cs => some cs
  | _ :: _, [] => none
  | p :: ps, c :: cs => if p = c then stripStart? ps cs else none

/-- What precedes `p`, when the text ends with `p`. -/
def stripEnd? (p cs : List Char) : Option (List Char) :=
  (stripStart? p.reverse cs.reverse).map List.reverse

/-- Starts with the given characters. -/
def startsWith (p cs : List Char) : Bool :=
  (stripStart? p cs).isSome

/-- Ends with the given characters. -/
def endsWith (p cs : List Char) : Bool :=
  (stripEnd? p cs).isSome

/-- The text around the first occurrence of `x`: what precedes it and what follows it. -/
def splitFirst? (x : List Char) : List Char → Option (List Char × List Char)
  | [] => match x with
    | [] => some ([], [])
    | _ :: _ => none
  | c :: cs => match stripStart? x (c :: cs) with
    | some rest => some ([], rest)
    | none => (splitFirst? x cs).map fun (before, after) => (c :: before, after)

/-- Equal up to the case of ASCII letters. -/
def equalsIgnoringAsciiCase (a b : String) : Bool :=
  a.toList.map Char.toLower == b.toList.map Char.toLower

end Cohort.Text
