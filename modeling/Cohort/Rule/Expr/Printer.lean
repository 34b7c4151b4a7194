import Cohort.Rule.Expr
import Cohort.Text.Quoted

/-! # Expressions as text

The fully bracketed form of a tree, an operator in front of its operands: two trees have the same
text only where a diagnosis need not tell them apart. -/

namespace Cohort.Rule

/-- The sign of an operator with one operand. -/
def UnaryOp.sign : UnaryOp → String
  | .not => "not"
  | .negate => "neg"
  | .empty => "empty"

/-- The sign of an operator with two operands. -/
def BinaryOp.sign : BinaryOp → String
  | .add => "+"
  | .subtract => "-"
  | .multiply => "*"
  | .divide => "/"
  | .modulo => "%"
  | .equal => "=="
  | .notEqual => "!="
  | .less => "<"
  | .greater => ">"
  | .lessEqual => "<="
  | .greaterEqual => ">="

/-- A literal; numbers say which kind they are. -/
def literalText : Value → String
  | .int n => "(int " ++ toString n.toInt ++ ")"
  | .float x => "(float " ++ Decimal.messageLayout.text x ++ ")"
  | .string s => Text.documentQuoted s
  | v => v.display

mutual

/-- The bracketed form of an expression. -/
def Expr.text : Expr → String
  | .literal v => literalText v
  | .variable name => "(var " ++ name ++ ")"
  | .property base name => "(prop " ++ base.text ++ " " ++ name ++ ")"
  | .index base key => "(idx " ++ base.text ++ " " ++ key.text ++ ")"
  | .unary op operand => "(" ++ op.sign ++ " " ++ operand.text ++ ")"
  | .binary op left right => "(" ++ op.sign ++ " " ++ left.text ++ " " ++ right.text ++ ")"
  | .and left right => "(and " ++ left.text ++ " " ++ right.text ++ ")"
  | .or left right => "(or " ++ left.text ++ " " ++ right.text ++ ")"
  | .conditional condition yes no =>
      "(if " ++ condition.text ++ " " ++ yes.text ++ " " ++ no.text ++ ")"
  | .call function arguments => "(call " ++ function ++ Expr.spacedTexts arguments ++ ")"

/-- The expressions one after the other, each behind a blank. -/
def Expr.spacedTexts : List Expr → String
  | [] => ""
  | e :: rest => " " ++ e.text ++ Expr.spacedTexts rest

end

end Cohort.Rule
