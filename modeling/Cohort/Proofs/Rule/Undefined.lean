import Cohort.Proofs.Rule.Variables

/-! # Undefined variables

    An evaluation finds a variable undefined only if its expression reads the
    variable and its scope has no value for it.  The reads of an expression
    are those of its operands in a row, and so are the steps of its
    evaluation, so the law is kept by sequencing; operations and functions
    have faults of their own and never blame a variable. -/

namespace Cohort.Rule

variable {l : Library} {s : Scope} {names xs ys : List String} {α β : Type}

/-! ## Evaluations in a row -/

/-- A variable that the evaluation finds undefined is one of the names, and
    has no value in the scope. -/
def MissesOnly (s : Scope) (names : List String) (x : Evaluation α) : Prop :=
  ∀ name, x.outcome = .error (.undefinedVariable name) →
    name ∈ names ∧ s.contains name = false

/-- What blames no variable misses none. -/
theorem missesOnly_of_ne {x : Evaluation α}
    (h : ∀ name, x.outcome ≠ .error (.undefinedVariable name)) :
    MissesOnly s names x :=
  fun name hname => absurd hname (h name)

theorem missesOnly_pure (a : α) : MissesOnly s names (pure a : Evaluation α) :=
  missesOnly_of_ne fun _ h => nomatch h

theorem missesOnly_orFault (r : Except Fault α) :
    MissesOnly s names (orFault r) := by
  refine missesOnly_of_ne ?_
  intro name h
  cases r with
  | error f => exact nomatch h
  | ok a => exact nomatch h

theorem MissesOnly.left {x : Evaluation α} (h : MissesOnly s xs x) :
    MissesOnly s (xs ++ ys) x :=
  fun name hname => (h name hname).imp_left (List.mem_append_left ys)

theorem MissesOnly.right {x : Evaluation α} (h : MissesOnly s ys x) :
    MissesOnly s (xs ++ ys) x :=
  fun name hname => (h name hname).imp_left (List.mem_append_right xs)

theorem MissesOnly.bind {x : Evaluation α} {f : α → Evaluation β}
    (hx : MissesOnly s names x) (hf : ∀ a, MissesOnly s names (f a)) :
    MissesOnly s names (x >>= f) := by
  intro name hname
  rw [Run.outcome_bind] at hname
  cases ho : x.outcome with
  | error err =>
      rw [ho] at hname
      have herr : err = .undefinedVariable name := Except.error.inj hname
      exact hx name (herr ▸ ho)
  | ok a =>
      rw [ho] at hname
      exact hf a name hname

/-! ## Expressions -/

mutual

/-- **BLAME**: an evaluation misses only what its expression reads. -/
theorem Expr.eval_missesOnly : ∀ e : Expr, MissesOnly s e.reads (e.eval l s)
  | .literal _ => missesOnly_pure _
  | .variable name => by
      intro missing hmissing
      rw [Expr.eval] at hmissing
      cases hlookup : s.lookup name with
      | some v =>
          rw [hlookup] at hmissing
          exact nomatch hmissing
      | none =>
          rw [hlookup] at hmissing
          obtain rfl : name = missing := by injections
          refine ⟨List.mem_cons_self, ?_⟩
          rw [Scope.contains, hlookup, Option.isSome_none]
  | .property base _ => by
      rw [Expr.eval]
      exact (Expr.eval_missesOnly base).bind fun _ => missesOnly_orFault _
  | .index base key => by
      rw [Expr.eval]
      refine (Expr.eval_missesOnly base).left.bind fun b => ?_
      refine (Expr.eval_missesOnly key).right.bind fun k => ?_
      exact missesOnly_orFault _
  | .unary _ operand => by
      rw [Expr.eval]
      exact (Expr.eval_missesOnly operand).bind fun _ => missesOnly_orFault _
  | .binary _ left right => by
      rw [Expr.eval]
      refine (Expr.eval_missesOnly left).left.bind fun a => ?_
      refine (Expr.eval_missesOnly right).right.bind fun b => ?_
      exact missesOnly_orFault _
  | .and left right => by
      rw [Expr.eval]
      refine (Expr.eval_missesOnly left).left.bind fun a => ?_
      refine (missesOnly_orFault _).bind fun x => ?_
      cases x with
      | false => exact missesOnly_pure _
      | true =>
          refine (Expr.eval_missesOnly right).right.bind fun b => ?_
          exact (missesOnly_orFault _).bind fun y => missesOnly_pure _
  | .or left right => by
      rw [Expr.eval]
      refine (Expr.eval_missesOnly left).left.bind fun a => ?_
      refine (missesOnly_orFault _).bind fun x => ?_
      cases x with
      | true => exact missesOnly_pure _
      | false =>
          refine (Expr.eval_missesOnly right).right.bind fun b => ?_
          exact (missesOnly_orFault _).bind fun y => missesOnly_pure _
  | .conditional condition yes no => by
      rw [Expr.eval]
      refine (Expr.eval_missesOnly condition).left.bind fun c => ?_
      refine (missesOnly_orFault _).bind fun x => ?_
      cases x with
      | true => exact (Expr.eval_missesOnly yes).left.right
      | false => exact (Expr.eval_missesOnly no).right.right
  | .call function arguments => by
      rw [Expr.eval]
      cases l.get? function with
      | none => exact missesOnly_of_ne fun _ h => nomatch h
      | some f =>
          refine (Expr.evalAll_missesOnly arguments).bind fun vs => ?_
          refine missesOnly_of_ne ?_
          intro name h
          -- a function that refuses its arguments is a fault
          rw [Run.call] at h
          cases hf : f vs with
          | error refusal =>
              rw [hf] at h
              exact nomatch h
          | ok v =>
              rw [hf] at h
              exact nomatch h

/-- So do the arguments of a call. -/
theorem Expr.evalAll_missesOnly : ∀ es : List Expr,
    MissesOnly s (Expr.readsAll es) (Expr.evalAll l s es)
  | [] => missesOnly_pure _
  | e :: rest => by
      rw [Expr.evalAll]
      refine (Expr.eval_missesOnly e).left.bind fun v => ?_
      exact (Expr.evalAll_missesOnly rest).right.bind fun vs => missesOnly_pure _

end

/-- The value of a whole rule may be no boolean, but blames no variable. -/
theorem Expr.judge_missesOnly (e : Expr) :
    MissesOnly s e.reads (e.judge l s) := by
  rw [Expr.judge]
  refine (Expr.eval_missesOnly e).bind fun v => ?_
  refine missesOnly_of_ne ?_
  intro name h
  rw [Run.outcome_ofExcept, verdict.eq_def] at h
  split at h <;> cases h

/-! ## Rules -/

/-- A text that is no rule is malformed, and its error says so. -/
theorem malformed_of_parse {rule : String} {err : Error}
    (h : parse rule = .error err) : ∃ m, err = ⟨rule, .malformed m⟩ := by
  rw [parse] at h
  cases hread : Expr.ofRule rule with
  | ok e =>
      rw [hread] at h
      exact nomatch h
  | error m =>
      rw [hread] at h
      exact ⟨m, (Except.error.inj h).symm⟩

/-- An error of an evaluation gets the text of the rule and stays what it
    was. -/
theorem outcome_of_forRule_error {x : Evaluation α} {rule text : String}
    {err : EvalError}
    (h : (x.forRule rule).outcome = .error ⟨text, .evaluation err⟩) :
    rule = text ∧ x.outcome = .error err := by
  obtain ⟨calls, r⟩ := x
  cases r with
  | ok a => exact nomatch h
  | error err' =>
      injection h with h
      injection h with hrule hcause
      injection hcause with herr
      exact ⟨hrule, congrArg Except.error herr⟩

/-- A rule finds a variable undefined only if it can be read as an expression
    that reads the variable, and the scope has no value for it. -/
theorem undefined_of_evaluate {rule : Option String} {text name : String}
    (h : (evaluate l rule s).outcome
      = .error ⟨text, .evaluation (.undefinedVariable name)⟩) :
    ∃ e, rule = some text ∧ Text.isBlankText text = false ∧ parse text = .ok e ∧
      name ∈ e.reads ∧ s.contains name = false := by
  cases rule with
  | none => exact nomatch h
  | some written =>
      rw [evaluate] at h
      cases hblank : Text.isBlankText written with
      | true =>
          rw [hblank] at h
          exact nomatch h
      | false =>
          rw [hblank] at h
          cases hparse : parse written with
          | error err =>
              rw [hparse] at h
              obtain ⟨m, rfl⟩ := malformed_of_parse hparse
              exact nomatch h
          | ok e =>
              rw [hparse] at h
              obtain ⟨rfl, hjudge⟩ := outcome_of_forRule_error h
              exact ⟨e, rfl, hblank, hparse, Expr.judge_missesOnly e name hjudge⟩

end Cohort.Rule
