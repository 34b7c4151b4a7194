import Cohort.Text.Quoted
import Cohort.Decimal.Layout

/-! # Tokens

The words of a rule. An operator has one token whether it is written as a sign or as a word. -/

namespace Cohort.Rule

/-- Operators as they are written. -/
inductive Operator where
  | equal
  | notEqual
  | lessEqual
  | greaterEqual
  | both
  | either
  | less
  | greater
  | not
  | plus
  | minus
  | times
  | divide
  | modulo
  | empty
deriving Repr, DecidableEq

/-- The sign of an operator; `empty` has none and is shown by its word. -/
def Operator.sign : Operator → String
  | .equal => "=="
  | .notEqual => "!="
  | .lessEqual => "<="
  | .greaterEqual => ">="
  | .both => "&&"
  | .either => "||"
  | .less => "<"
  | .greater => ">"
  | .not => "!"
  | .plus => "+"
  | .minus => "-"
  | .times => "*"
  | .divide => "/"
  | .modulo => "%"
  | .empty => "empty"

/-- A token. -/
inductive Token where
  | int (n : Int64)
  | float (x : Float)
  | text (s : String)
  | name (s : String)
  | openParen
  | closeParen
  | openBracket
  | closeBracket
  | dot
  | comma
  | question
  | colon
  | op (o : Operator)
deriving Repr, DecidableEq

/-- A token as an error message shows it. -/
def Token.diagnostic : Token → String
  | .int n => "Int(" ++ toString n.toInt ++ ")"
  | .float x => "Float(" ++ Decimal.tokenLayout.text x ++ ")"
  | .text s => "Str(" ++ Text.diagnosticQuoted s ++ ")"
  | .name s => "Ident(" ++ Text.diagnosticQuoted s ++ ")"
  | .openParen => "LParen"
  | .closeParen => "RParen"
  | .openBracket => "LBracket"
  | .closeBracket => "RBracket"
  | .dot => "Dot"
  | .comma => "Comma"
  | .question => "Question"
  | .colon => "Colon"
  | .op o => "Op(" ++ Text.diagnosticQuoted o.sign ++ ")"

/-- The operator that a word stands for. -/
def keyword? (word : String) : Option Operator :=
  if word = "and" then some .both
  else if word = "or" then some .either
  else if word = "not" then some .not
  else if word = "eq" then some .equal
  else if word = "ne" then some .notEqual
  else if word = "lt" then some .less
  else if word = "gt" then some .greater
  else if word = "le" then some .lessEqual
  else if word = "ge" then some .greaterEqual
  else if word = "div" then some .divide
  else if word = "mod" then some .modulo
  else if word = "empty" then some .empty
  else none

/-- The token of a word: an operator or a name. -/
def Token.ofWord (word : String) : Token :=
  match keyword? word with
  | some o => .op o
  | none => .name word

end Cohort.Rule
