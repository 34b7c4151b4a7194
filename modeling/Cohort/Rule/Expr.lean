import Cohort.Value

/-! # Rule expressions

A rule is a small boolean expression over the variables of a request. `&&` and `||` have nodes of
their own because they do not evaluate both operands, so neither they nor the conditional are
operators like the others. -/

namespace Cohort.Rule

/-- Operators with one operand. -/
inductive UnaryOp where
  | not
  | negate
  | empty
deriving Repr, DecidableEq

/-- Operators that evaluate both operands. -/
inductive BinaryOp where
  | add
  | subtract
  | multiply
  | divide
  | modulo
  | equal
  | notEqual
  | less
  | greater
  | lessEqual
  | greaterEqual
deriving Repr, DecidableEq

/-- An expression. -/
inductive Expr where
  | literal (v : Value)
  | variable (name : String)
  | property (base : Expr) (name : String)
  | index (base key : Expr)
  | unary (op : UnaryOp) (operand : Expr)
  | binary (op : BinaryOp) (left right : Expr)
  | and (left right : Expr)
  | or (left right : Expr)
  | conditional (condition yes no : Expr)
  | call (function : String) (arguments : List Expr)
deriving Repr, Inhabited

namespace Expr

mutual

/-- The variables an expression reads, in the order of the text, repeated as often as read. Names
of properties and functions are no variables. -/
def reads : Expr → List String
  | .literal _ => []
  | .variable name => [name]
  | .property base _ => reads base
  | .index base key => reads base ++ reads key
  | .unary _ operand => reads operand
  | .binary _ left right => reads left ++ reads right
  | .and left right => reads left ++ reads right
  | .or left right => reads left ++ reads right
  | .conditional condition yes no => reads condition ++ (reads yes ++ reads no)
  | .call _ arguments => readsAll arguments

/-- The variables read by any of the expressions. -/
def readsAll : List Expr → List String
  | [] => []
  | e :: rest => reads e ++ readsAll rest

end

/-- The set of variables an expression reads. -/
def variableNames (e : Expr) : NameSet :=
  NameSet.ofList e.reads

end Expr

end Cohort.Rule
