import Cohort.Rule.Library
import Cohort.Rule.Operation
import Cohort.Rule.Scope
import Cohort.Rule.Grammar

/-! # Evaluating rules

Operands are evaluated from the left, and the first error ends the evaluation. `&&`, `||` and the
conditional evaluate only what they need; a call evaluates its arguments only once its function is
known. Within an expression anything that can be coerced may stand for a boolean, but the value of a
whole rule must be a boolean, a string or null. -/

namespace Cohort.Rule

/-- An evaluation of an expression. -/
abbrev Evaluation (α : Type) := Run EvalError α

/-- The result of an operation, a fault of which is an error of the evaluation. -/
def orFault {α : Type} (r : Except Fault α) : Evaluation α :=
  Run.ofExcept (r.mapError .fault)

mutual

/-- The value of an expression. -/
def Expr.eval (l : Library) (s : Scope) : Expr → Evaluation Value
  | .literal v => pure v
  | .variable name => match s.lookup name with
    | some v => pure v
    | none => Run.fail (.undefinedVariable name)
  | .property base name => do
      let v ← base.eval l s
      orFault (Rule.property v name)
  | .index base key => do
      let b ← base.eval l s
      let k ← key.eval l s
      orFault (element b k)
  | .unary op operand => do
      let v ← operand.eval l s
      orFault (op.apply v)
  | .binary op left right => do
      let a ← left.eval l s
      let b ← right.eval l s
      orFault (op.apply a b)
  | .and left right => do
      let a ← left.eval l s
      let x ← orFault (truth a)
      if x then do
        let b ← right.eval l s
        let y ← orFault (truth b)
        pure (.bool y)
      else pure (.bool false)
  | .or left right => do
      let a ← left.eval l s
      let x ← orFault (truth a)
      if x then pure (.bool true)
      else do
        let b ← right.eval l s
        let y ← orFault (truth b)
        pure (.bool y)
  | .conditional condition yes no => do
      let c ← condition.eval l s
      let x ← orFault (truth c)
      if x then yes.eval l s else no.eval l s
  | .call function arguments => match l.get? function with
    | none => Run.fail (.unknownFunction function)
    | some f => do
        let vs ← Expr.evalAll l s arguments
        Run.call function vs ((f vs).mapError fun e => .fault (.function e))

/-- The values of expressions, from the left. -/
def Expr.evalAll (l : Library) (s : Scope) : List Expr → Evaluation (List Value)
  | [] => pure []
  | e :: rest => do
      let v ← e.eval l s
      let vs ← Expr.evalAll l s rest
      pure (v :: vs)

end

/-- What the value of a whole rule says. -/
def verdict : Value → Except EvalError Bool
  | .bool b => .ok b
  | .null => .ok false
  | .string s => (truth (.string s)).mapError .fault
  | v => .error (.nonBoolean v.kind)

/-- The answer of an expression that is a whole rule. -/
def Expr.judge (l : Library) (s : Scope) (e : Expr) : Evaluation Bool := do
  let v ← e.eval l s
  Run.ofExcept (verdict v)

/-- An answer to a rule; its errors name the rule. -/
abbrev Answer (α : Type) := Run Error α

/-- An evaluation for a rule: its errors name the rule. -/
def Evaluation.forRule {α : Type} (rule : String) (x : Evaluation α) : Answer α :=
  x.mapError fun err => ⟨rule, .evaluation err⟩

/-- The answer of a parsed rule. -/
def answer (l : Library) (s : Scope) (rule : String) (e : Expr) : Answer Bool :=
  (e.judge l s).forRule rule

/-- The answer to a rule that is already parsed, or cannot be parsed. -/
def answerParsed (l : Library) (s : Scope) (rule : String) (parsed : Except Error Expr) :
    Answer Bool :=
  match parsed with
  | .error e => Run.fail e
  | .ok e => answer l s rule e

/-- The answer to a rule in a scope; without a rule, or with a blank one, it is yes. -/
def evaluate (l : Library) (rule : Option String) (s : Scope) : Answer Bool :=
  match rule with
  | none => pure true
  | some rule =>
      if Text.isBlankText rule then pure true else answerParsed l s rule (parse rule)

end Cohort.Rule
