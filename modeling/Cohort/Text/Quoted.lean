import Cohort.Text.Class

/-! # Quoted forms of a string

Two ways to show a string between double quotes: the one of JSON documents, which escapes only
what a document must, and the diagnostic one, in which nothing invisible is left raw. -/

namespace Cohort.Text

/-- A hexadecimal digit in lower case. -/
def hexDigit (n : Nat) : Char :=
  if n < 10 then Char.ofNat ('0'.toNat + n) else Char.ofNat ('a'.toNat + (n - 10))

/-- A number in hexadecimal, without leading zeros. -/
def hexText (n : Nat) : String :=
  String.ofList (Nat.toDigits 16 n)

/-- One character inside the quotes of a JSON document. -/
def documentEscape (c : Char) : List Char :=
  if c = '"' then ['\\', '"']
  else if c = '\\' then ['\\', '\\']
  else if c = '\n' then ['\\', 'n']
  else if c = '\r' then ['\\', 'r']
  else if c = '\t' then ['\\', 't']
  else if c.toNat = 8 then ['\\', 'b']
  else if c.toNat = 12 then ['\\', 'f']
  else if c.toNat < 32 then
    ['\\', 'u', '0', '0', hexDigit (c.toNat / 16), hexDigit (c.toNat % 16)]
  else [c]

/-- A string as a JSON document writes it. -/
def documentQuoted (s : String) : String :=
  String.ofList ('"' :: s.toList.flatMap documentEscape ++ ['"'])

/-- One character inside the quotes of a diagnostic; an apostrophe stays as it is. -/
def diagnosticEscape (c : Char) : List Char :=
  if c = '"' then ['\\', '"']
  else if c = '\\' then ['\\', '\\']
  else if c = '\n' then ['\\', 'n']
  else if c = '\r' then ['\\', 'r']
  else if c = '\t' then ['\\', 't']
  else if c.toNat = 0 then ['\\', '0']
  else if isUnprintable c then ['\\', 'u', '\x7b'] ++ (hexText c.toNat).toList ++ ['\x7d']
  else [c]

/-- A string as a diagnostic shows it. -/
def diagnosticQuoted (s : String) : String :=
  String.ofList ('"' :: s.toList.flatMap diagnosticEscape ++ ['"'])

end Cohort.Text
