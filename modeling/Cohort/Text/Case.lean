import Cohort.Text.CaseTable
import Cohort.Text.Class

/-! # Upper and lower case

The full case maps: a character may become several. In lower case a capital sigma at the end of
a word takes the final form, which makes this the one map that looks around. -/

namespace Cohort.Text

/-- A character in upper case. -/
def upperChar (c : Char) : List Char :=
  if c.toNat < 128 then [c.toUpper]
  else ((CaseMap.upperExpansions.find? (·.1 == c)).map (·.2)).getD [CaseMap.upperShifts.apply c]

/-- A character in lower case, wherever it stands. -/
def lowerChar (c : Char) : List Char :=
  if c.toNat < 128 then [c.toLower]
  else ((CaseMap.lowerExpansions.find? (·.1 == c)).map (·.2)).getD [CaseMap.lowerShifts.apply c]

/-- The first character that is not passed over has a case. -/
def meetsCased (cs : List Char) : Bool :=
  match cs.dropWhile Property.caseIgnorable.contains with
  | [] => false
  | c :: _ => Property.cased.contains c

/-- The small sigma that stands for a capital one: the final form after a cased letter when none
follows. -/
def smallSigma (before after : List Char) : Char :=
  if meetsCased before && !meetsCased after then 'ς' else 'σ'

/-- Lower case of a text, given the characters before it in reverse order. -/
def lowerAfter (before : List Char) : List Char → List Char
  | [] => []
  | c :: cs =>
      (if c = 'Σ' then [smallSigma before cs] else lowerChar c) ++ lowerAfter (c :: before) cs

/-- A string in lower case. -/
def lower (s : String) : String :=
  String.ofList (lowerAfter [] s.toList)

/-- A string in upper case. -/
def upper (s : String) : String :=
  String.ofList (s.toList.flatMap upperChar)

/-- A string with its ASCII letters in upper case. -/
def asciiUpper (s : String) : String :=
  String.ofList (s.toList.map Char.toUpper)

end Cohort.Text
