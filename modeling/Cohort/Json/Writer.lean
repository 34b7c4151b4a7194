import Cohort.Json
import Cohort.Text.Quoted
import Cohort.Decimal.Layout

/-! # Writing documents

A document is written on one line without blanks, or spread over lines with two blanks for each
level. A number that is not finite has no form in a document and is written as `null`. -/

namespace Cohort

/-- The text of a number. -/
def JsonNumber.text : JsonNumber → String
  | .whole n => toString n
  | .float x => if x.isFinite then Decimal.documentLayout.text x else "null"

namespace Json

/-- Texts with a separator between them. -/
def separated (sep : String) : List String → String
  | [] => ""
  | [a] => a
  | a :: b :: rest => a ++ sep ++ separated sep (b :: rest)

mutual

/-- The document on one line. -/
def compact : Json → String
  | .null => "null"
  | .bool b => if b then "true" else "false"
  | .number n => n.text
  | .string s => Text.documentQuoted s
  | .array items => "[" ++ separated "," (compactItems items) ++ "]"
  | .object members => "\x7b" ++ separated "," (compactMembers members) ++ "\x7d"

/-- The items of an array, each on one line. -/
def compactItems : List Json → List String
  | [] => []
  | v :: rest => compact v :: compactItems rest

/-- The members of an object, each on one line. -/
def compactMembers : List (String × Json) → List String
  | [] => []
  | (k, v) :: rest => (Text.documentQuoted k ++ ":" ++ compact v) :: compactMembers rest

end

/-- A new line at a level. -/
def newLine (level : Nat) : String :=
  "\n" ++ String.ofList (List.replicate (2 * level) ' ')

/-- Parts between two brackets, one a line and one level deeper; nothing between them when there
are no parts. -/
def bracketed (level : Nat) (opening closing : String) (parts : List String) : String :=
  if parts.isEmpty then opening ++ closing
  else opening ++ newLine (level + 1) ++ separated ("," ++ newLine (level + 1)) parts ++
    newLine level ++ closing

mutual

/-- The document over several lines, at a level. -/
def prettyAt (level : Nat) : Json → String
  | .array items => bracketed level "[" "]" (prettyItems (level + 1) items)
  | .object members => bracketed level "\x7b" "\x7d" (prettyMembers (level + 1) members)
  | .null => "null"
  | .bool b => if b then "true" else "false"
  | .number n => n.text
  | .string s => Text.documentQuoted s

/-- The items of an array over several lines. -/
def prettyItems (level : Nat) : List Json → List String
  | [] => []
  | v :: rest => prettyAt level v :: prettyItems level rest

/-- The members of an object over several lines. -/
def prettyMembers (level : Nat) : List (String × Json) → List String
  | [] => []
  | (k, v) :: rest =>
      (Text.documentQuoted k ++ ": " ++ prettyAt level v) :: prettyMembers level rest

end

/-- The document over several lines. -/
def pretty (v : Json) : String :=
  prettyAt 0 v

end Json

end Cohort
