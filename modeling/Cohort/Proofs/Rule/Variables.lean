import Cohort.Proofs.Names
import Cohort.Rule.Partial

/-! # An evaluation sees only the variables of its expression

    Two scopes that give the variables of an expression the same values give
    the expression the same evaluation: the same value or error, and the same
    calls on the way.  A call passes evaluated arguments on, so the induction
    runs over expressions and lists of expressions together. -/

namespace Cohort.Rule

/-! ## Scopes -/

/-- The scopes give a name the same value, or neither gives it one. -/
def Scope.AgreeOn (s s' : Scope) (names : List String) : Prop :=
  ∀ name ∈ names, s.lookup name = s'.lookup name

theorem Scope.AgreeOn.symm {s s' : Scope} {names : List String}
    (h : s.AgreeOn s' names) : s'.AgreeOn s names :=
  fun name hn => (h name hn).symm

theorem Scope.AgreeOn.left {s s' : Scope} {xs ys : List String}
    (h : s.AgreeOn s' (xs ++ ys)) : s.AgreeOn s' xs :=
  fun name hn => h name (List.mem_append.mpr (Or.inl hn))

theorem Scope.AgreeOn.right {s s' : Scope} {xs ys : List String}
    (h : s.AgreeOn s' (xs ++ ys)) : s.AgreeOn s' ys :=
  fun name hn => h name (List.mem_append.mpr (Or.inr hn))

/-- The names of a scope are those with a value. -/
theorem Scope.mem_names_iff {s : Scope} {name : String} :
    name ∈ s.names ↔ s.contains name = true := by
  rw [names, contains, lookup]
  rw [NameSet.mem_union, NameSet.mem_union, NameMap.mem_nameSet,
    NameMap.mem_nameSet, NameMap.mem_nameSet]
  simp only [NameMap.contains]
  cases s.constants.get? name with
  | some v => simp
  | none =>
      cases s.specialConstants.get? name with
      | some v => simp
      | none => simp

/-! ## Evaluations -/

variable {l : Library} {s s' : Scope}

mutual

/-- **FRAME**: an evaluation does not see the other variables. -/
theorem Expr.eval_congr : ∀ (e : Expr), s.AgreeOn s' e.reads →
    e.eval l s = e.eval l s'
  | .literal _, _ => rfl
  | .variable name, h => by
      rw [Expr.eval, Expr.eval, h name List.mem_cons_self]
  | .property base _, h => by
      rw [Expr.eval, Expr.eval, Expr.eval_congr base h]
  | .index base key, h => by
      rw [Expr.eval, Expr.eval, Expr.eval_congr base h.left,
        Expr.eval_congr key h.right]
  | .unary _ operand, h => by
      rw [Expr.eval, Expr.eval, Expr.eval_congr operand h]
  | .binary _ left right, h => by
      rw [Expr.eval, Expr.eval, Expr.eval_congr left h.left,
        Expr.eval_congr right h.right]
  | .and left right, h => by
      rw [Expr.eval, Expr.eval, Expr.eval_congr left h.left,
        Expr.eval_congr right h.right]
  | .or left right, h => by
      rw [Expr.eval, Expr.eval, Expr.eval_congr left h.left,
        Expr.eval_congr right h.right]
  | .conditional condition yes no, h => by
      rw [Expr.eval, Expr.eval, Expr.eval_congr condition h.left,
        Expr.eval_congr yes h.right.left, Expr.eval_congr no h.right.right]
  | .call _ arguments, h => by
      rw [Expr.eval, Expr.eval, Expr.evalAll_congr arguments h]

/-- The arguments of a call see no more. -/
theorem Expr.evalAll_congr : ∀ (es : List Expr),
    s.AgreeOn s' (Expr.readsAll es) → Expr.evalAll l s es = Expr.evalAll l s' es
  | [], _ => rfl
  | e :: rest, h => by
      rw [Expr.evalAll, Expr.evalAll, Expr.eval_congr e h.left,
        Expr.evalAll_congr rest h.right]

end

/-- The answer of a whole rule sees no more either. -/
theorem Expr.judge_congr {e : Expr} (h : s.AgreeOn s' e.reads) :
    e.judge l s = e.judge l s' := by
  rw [Expr.judge, Expr.judge, Expr.eval_congr e h]

end Cohort.Rule
