import Cohort.Rule.Evaluation
import Cohort.Rule.Expr.Printer
import Cohort.Rule.Truth

/-! # Rules with unknown variables

Before any request is seen, some variables of a rule have values and others have not. A rule that
reads only known variables is left as it is. In any other rule the subexpressions that read an
unknown variable have no known value, except that `&&`, `||` and `!` combine what is known of their
operands. The rule is then read as "not false": it is refused only if no request can make it true.

Both operands of a connective are evaluated, so that errors show on either side. -/

namespace Cohort.Rule

/-- What is left of a rule that reads unknown variables. -/
inductive Skeleton where
  /-- A subexpression that reads known variables only. -/
  | known (e : Expr)
  /-- A subexpression that reads an unknown variable and is no connective. -/
  | unknown
  | and (left right : Skeleton)
  | or (left right : Skeleton)
  | not (operand : Skeleton)

/-- A rule seen with the variables that are known. -/
inductive PartialRule where
  /-- No unknown variables. -/
  | complete (e : Expr)
  /-- True unless the skeleton is false. -/
  | notFalse (s : Skeleton)

/-- An operand of a connective, as part of the skeleton. -/
def PartialRule.skeleton : PartialRule → Skeleton
  | .complete e => .known e
  | .notFalse s => s

/-- The expression reads known variables only. -/
def Expr.readsOnly (known : NameSet) (e : Expr) : Bool :=
  e.reads.all known.contains

/-- The expression seen with the known variables. -/
def PartialRule.ofExpr (known : NameSet) : Expr → PartialRule
  | .and left right =>
      if Expr.readsOnly known (.and left right) then .complete (.and left right)
      else .notFalse (.and (ofExpr known left).skeleton (ofExpr known right).skeleton)
  | .or left right =>
      if Expr.readsOnly known (.or left right) then .complete (.or left right)
      else .notFalse (.or (ofExpr known left).skeleton (ofExpr known right).skeleton)
  | .unary .not operand =>
      if Expr.readsOnly known (.unary .not operand) then .complete (.unary .not operand)
      else .notFalse (.not (ofExpr known operand).skeleton)
  | e => if e.readsOnly known then .complete e else .notFalse .unknown

/-- The rule seen with the known variables. -/
def PartialRule.ofRule (known : NameSet) (rule : String) : Except Error PartialRule :=
  (parse rule).map (PartialRule.ofExpr known)

/-- Some variable is unknown. -/
def PartialRule.hasUnknowns : PartialRule → Bool
  | .complete _ => false
  | .notFalse _ => true

/-- What is known of the truth of a skeleton. -/
def Skeleton.truth (l : Library) (s : Scope) : Skeleton → Evaluation Truth
  | .known e => do
      let b ← e.judge l s
      pure (Truth.ofBool b)
  | .unknown => pure .unknown
  | .and left right => do
      let a ← left.truth l s
      let b ← right.truth l s
      pure (a.and b)
  | .or left right => do
      let a ← left.truth l s
      let b ← right.truth l s
      pure (a.or b)
  | .not operand => do
      let a ← operand.truth l s
      pure a.not

/-- What is known of the truth of a rule. -/
def PartialRule.truth (l : Library) (s : Scope) : PartialRule → Evaluation Truth
  | .complete e => do
      let b ← e.judge l s
      pure (Truth.ofBool b)
  | .notFalse skeleton => skeleton.truth l s

/-- The rule is not known to be false. -/
def PartialRule.holds (l : Library) (s : Scope) (p : PartialRule) : Evaluation Bool := do
  let t ← p.truth l s
  pure (t != .false)

/-- The answer to a rule in which every variable without a value in the scope is unknown. -/
def evaluatePartial (l : Library) (rule : Option String) (s : Scope) : Answer Bool :=
  match rule with
  | none => pure true
  | some rule =>
      if Text.isBlankText rule then pure true
      else match PartialRule.ofRule s.names rule with
        | .error e => Run.fail e
        | .ok p => (p.holds l s).forRule rule

/-! ## As text -/

/-- The bracketed form of a skeleton. -/
def Skeleton.text : Skeleton → String
  | .known e => "(known " ++ e.text ++ ")"
  | .unknown => "?"
  | .and left right => "(and " ++ left.text ++ " " ++ right.text ++ ")"
  | .or left right => "(or " ++ left.text ++ " " ++ right.text ++ ")"
  | .not operand => "(not " ++ operand.text ++ ")"

/-- The bracketed form of a rule seen with known variables. -/
def PartialRule.text : PartialRule → String
  | .complete e => "(complete " ++ e.text ++ ")"
  | .notFalse s => "(notfalse " ++ s.text ++ ")"

end Cohort.Rule
