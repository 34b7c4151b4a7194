import Cohort.Proofs.Rule.Knowledge

/-! # The analysis with unknown variables is sound

    The tree that is left of a rule evaluates both operands of a connective,
    the rule itself only those it needs.  Both are outcomes of the same
    connectives, so an induction over the expression compares the analyses
    for any two sets of known variables; the plain evaluation is the case in
    which all are known. -/

namespace Cohort.Rule

variable {l : Library} {s s' : Scope}

/-! ## Operands

    An operand of a connective is read as a boolean wherever it stands. -/

/-- The truth of an expression as an operand. -/
def operand (l : Library) (s : Scope) (e : Expr) : Except EvalError Bool :=
  (e.eval l s).outcome.bind fun v => (truth v).mapError .fault

/-- What goes on with the truth of an operand. -/
theorem outcome_operand {α : Type} (e : Expr) (f : Bool → Evaluation α) :
    (e.eval l s >>= fun v => orFault (truth v) >>= f).outcome
      = (operand l s e).bind fun x => (f x).outcome := by
  rw [Run.outcome_bind, operand]
  cases (e.eval l s).outcome with
  | error err => rfl
  | ok v =>
      show (orFault (truth v) >>= f).outcome
        = ((truth v).mapError EvalError.fault).bind fun x => (f x).outcome
      rw [Run.outcome_bind]
      rfl

/-- A boolean value is its own truth. -/
theorem operand_of_bool {e : Expr} {r : Except EvalError Bool}
    (h : (e.eval l s).outcome = r.map .bool) : operand l s e = r := by
  rw [operand, h]
  cases r <;> rfl

/-- `&&` looks at its second operand only when the first one is true. -/
theorem operand_and (a b : Expr) :
    operand l s (.and a b)
      = (operand l s a).bind fun x =>
          if x = false then .ok false else operand l s b := by
  refine operand_of_bool ?_
  rw [Expr.eval, outcome_operand]
  cases operand l s a with
  | error err => rfl
  | ok x =>
      cases x with
      | false => rfl
      | true => exact outcome_operand b fun y => pure (Value.bool y)

/-- `||` looks at its second operand only when the first one is false. -/
theorem operand_or (a b : Expr) :
    operand l s (.or a b)
      = (operand l s a).bind fun x =>
          if x = true then .ok true else operand l s b := by
  refine operand_of_bool ?_
  rw [Expr.eval, outcome_operand]
  cases operand l s a with
  | error err => rfl
  | ok x =>
      cases x with
      | false => exact outcome_operand b fun y => pure (Value.bool y)
      | true => rfl

/-- `!` turns the truth of its operand around. -/
theorem operand_not (a : Expr) :
    operand l s (.unary .not a) = (operand l s a).map (!·) := by
  refine operand_of_bool ?_
  rw [Expr.eval, Run.outcome_bind, operand]
  cases (a.eval l s).outcome with
  | error err => rfl
  | ok v =>
      show ((truth v).map fun b => Value.bool !b).mapError EvalError.fault
        = (((truth v).mapError EvalError.fault).map (!·)).map Value.bool
      cases truth v <;> rfl

/-! ## Whole rules -/

/-- The truth of an expression as a whole rule. -/
def plain (l : Library) (s : Scope) (e : Expr) : Except EvalError Truth :=
  (e.judge l s).outcome.map Truth.ofBool

/-- As a whole rule and as an operand a value is true or false alike; only
    the errors about other values differ. -/
theorem verdict_cases (v : Value) :
    (∃ b, verdict v = .ok b ∧ truth v = .ok b) ∨
      ∃ err f, verdict v = .error err ∧ truth v = .error f := by
  cases v with
  | null => exact Or.inl ⟨false, rfl, rfl⟩
  | bool b => exact Or.inl ⟨b, rfl, rfl⟩
  | string t => exact Or.inl ⟨_, rfl, rfl⟩
  | int n => exact Or.inr ⟨_, _, rfl, rfl⟩
  | float x => exact Or.inr ⟨_, _, rfl, rfl⟩
  | list items => exact Or.inr ⟨_, _, rfl, rfl⟩
  | map entries => exact Or.inr ⟨_, _, rfl, rfl⟩

theorem plain_cases (l : Library) (s : Scope) (e : Expr) :
    (∃ b, operand l s e = .ok b ∧ plain l s e = .ok (Truth.ofBool b)) ∨
      ∃ err err', operand l s e = .error err ∧ plain l s e = .error err' := by
  rw [operand, plain, Expr.judge, Run.outcome_bind]
  cases (e.eval l s).outcome with
  | error err => exact Or.inr ⟨err, err, rfl, rfl⟩
  | ok v =>
      show (∃ b, (truth v).mapError EvalError.fault = .ok b
          ∧ (verdict v).map Truth.ofBool = .ok (Truth.ofBool b))
        ∨ ∃ err err', (truth v).mapError EvalError.fault = .error err
          ∧ (verdict v).map Truth.ofBool = .error err'
      rcases verdict_cases v with ⟨b, hv, ht⟩ | ⟨err, f, hv, ht⟩
      · rw [hv, ht]
        exact Or.inl ⟨b, rfl, rfl⟩
      · rw [hv, ht]
        exact Or.inr ⟨_, _, rfl, rfl⟩

theorem plain_of_operand {e : Expr} {b : Bool} (h : operand l s e = .ok b) :
    plain l s e = .ok (Truth.ofBool b) := by
  rcases plain_cases l s e with ⟨c, hc, hp⟩ | ⟨err, _, herr, -⟩
  · rw [h] at hc
    rw [hp, Except.ok.inj hc]
  · rw [h] at herr
    exact nomatch herr

theorem plain_of_error {e : Expr} {err : EvalError}
    (h : operand l s e = .error err) : ∃ err', plain l s e = .error err' := by
  rcases plain_cases l s e with ⟨c, hc, -⟩ | ⟨_, err', -, hp⟩
  · rw [h] at hc
    exact nomatch hc
  · exact ⟨err', hp⟩

/-- The plain evaluation of a connective that stops after a first operand
    of the truth `stop`. -/
theorem connects_plain {op : Truth → Truth → Truth} {stop : Bool}
    {e a b : Expr}
    (hop : ∀ y, op (Truth.ofBool !stop) (Truth.ofBool y) = Truth.ofBool y)
    (he : operand l s e
      = (operand l s a).bind fun x => if x = stop then .ok stop else operand l s b) :
    Connects op (Truth.ofBool stop) (plain l s a) (plain l s b)
      (plain l s e) := by
  rcases plain_cases l s a with ⟨x, hx, ha⟩ | ⟨err, err', hx, -⟩
  · rw [hx] at he
    by_cases hxs : x = stop
    · subst hxs
      exact Or.inr (Or.inl ⟨ha, plain_of_operand (he.trans (if_pos rfl))⟩)
    · have he' : operand l s e = operand l s b := he.trans (if_neg hxs)
      rw [Bool.eq_not.mpr hxs] at ha
      rcases plain_cases l s b with ⟨y, hy, hb⟩ | ⟨err, err', hy, -⟩
      · refine Or.inr (Or.inr ⟨_, _, ha, hb, ?_⟩)
        rw [hop]
        exact plain_of_operand (he'.trans hy)
      · exact Or.inl (plain_of_error (he'.trans hy))
  · rw [hx] at he
    exact Or.inl (plain_of_error he)

theorem connects_plain_and (a b : Expr) :
    Connects Truth.and .false (plain l s a) (plain l s b)
      (plain l s (.and a b)) :=
  connects_plain (fun y => by cases y <;> rfl) (operand_and a b)

theorem connects_plain_or (a b : Expr) :
    Connects Truth.or .true (plain l s a) (plain l s b)
      (plain l s (.or a b)) :=
  connects_plain (fun y => by cases y <;> rfl) (operand_or a b)

theorem negates_plain (a : Expr) :
    Negates (plain l s a) (plain l s (.unary .not a)) := by
  have hop := operand_not (l := l) (s := s) a
  rcases plain_cases l s a with ⟨x, hx, ha⟩ | ⟨err, err', hx, -⟩
  · rw [hx] at hop
    refine Or.inr ⟨_, ha, ?_⟩
    rw [plain_of_operand hop]
    cases x <;> rfl
  · rw [hx] at hop
    exact Or.inl (plain_of_error hop)

/-! ## The analysis -/

/-- What the analysis says of an expression of which some variables are
    known. -/
def analysis (l : Library) (known : NameSet) (s : Scope) (e : Expr) :
    Except EvalError Truth :=
  ((PartialRule.ofExpr known e).truth l s).outcome

/-- A rule is read the same as an operand of a skeleton and by itself. -/
theorem truth_skeleton (p : PartialRule) : p.skeleton.truth l s = p.truth l s := by
  cases p <;> rfl

theorem readsOnly_iff {known : NameSet} {e : Expr} :
    e.readsOnly known = true ↔ ∀ name ∈ e.reads, name ∈ known := by
  rw [Expr.readsOnly, List.all_eq_true]
  exact forall₂_congr fun _ _ => NameSet.contains_iff

/-- An expression of known variables is left as it is. -/
theorem ofExpr_of_readsOnly {known : NameSet} {e : Expr}
    (h : e.readsOnly known = true) : PartialRule.ofExpr known e = .complete e := by
  fun_cases PartialRule.ofExpr known e with
  | case1 a b _ => rfl
  | case2 a b hno => exact absurd h hno
  | case3 a b _ => rfl
  | case4 a b hno => exact absurd h hno
  | case5 a _ => rfl
  | case6 a hno => exact absurd h hno
  | case7 => rfl
  | case8 => next hno => exact absurd h hno

/-- Of an expression of known variables the analysis says what it is. -/
theorem analysis_of_readsOnly {known : NameSet} {e : Expr}
    (h : e.readsOnly known = true) : analysis l known s e = plain l s e := by
  rw [analysis, ofExpr_of_readsOnly h, PartialRule.truth, Run.outcome_bind, plain]
  cases (e.judge l s).outcome <;> rfl

theorem analysis_and_of_unknown {known : NameSet} {a b : Expr}
    (h : ¬ (Expr.and a b).readsOnly known = true) :
    analysis l known s (.and a b)
      = both Truth.and (analysis l known s a) (analysis l known s b) := by
  rw [analysis, PartialRule.ofExpr, if_neg h]
  show (Skeleton.truth l s (.and _ _)).outcome = _
  rw [Skeleton.truth, truth_skeleton, truth_skeleton, Run.outcome_bind]
  exact congrArg _ (funext fun x => Run.outcome_bind _ _)

theorem analysis_or_of_unknown {known : NameSet} {a b : Expr}
    (h : ¬ (Expr.or a b).readsOnly known = true) :
    analysis l known s (.or a b)
      = both Truth.or (analysis l known s a) (analysis l known s b) := by
  rw [analysis, PartialRule.ofExpr, if_neg h]
  show (Skeleton.truth l s (.or _ _)).outcome = _
  rw [Skeleton.truth, truth_skeleton, truth_skeleton, Run.outcome_bind]
  exact congrArg _ (funext fun x => Run.outcome_bind _ _)

theorem analysis_not_of_unknown {known : NameSet} {a : Expr}
    (h : ¬ (Expr.unary .not a).readsOnly known = true) :
    analysis l known s (.unary .not a)
      = (analysis l known s a).bind fun x => .ok x.not := by
  rw [analysis, PartialRule.ofExpr, if_neg h]
  show (Skeleton.truth l s (.not _)).outcome = _
  rw [Skeleton.truth, truth_skeleton, Run.outcome_bind]
  rfl

/-- Nothing is said of any other expression with an unknown variable. -/
theorem analysis_of_unknown {known : NameSet} {e : Expr}
    (hand : ∀ a b, e = .and a b → False) (hor : ∀ a b, e = .or a b → False)
    (hnot : ∀ a, e = .unary .not a → False) (h : ¬ e.readsOnly known = true) :
    analysis l known s e = .ok .unknown := by
  rw [analysis, PartialRule.ofExpr, if_neg h]
  · rfl
  · exact hand
  · exact hor
  · exact hnot

/-- The variables of the operands are variables of the connective. -/
private theorem readsOnly_append {known : NameSet} {e a b : Expr}
    (hreads : e.reads = a.reads ++ b.reads) (h : e.readsOnly known = true) :
    a.readsOnly known = true ∧ b.readsOnly known = true := by
  rw [readsOnly_iff, hreads] at h
  exact ⟨readsOnly_iff.mpr fun n hn => h n (List.mem_append.mpr (Or.inl hn)),
    readsOnly_iff.mpr fun n hn => h n (List.mem_append.mpr (Or.inr hn))⟩

/-- Known or not, a connective is a connective of the analyses of its
    operands. -/
private theorem connects_analysis {op : Truth → Truth → Truth} {stop : Truth}
    {known : NameSet} {e a b : Expr} (hreads : e.reads = a.reads ++ b.reads)
    (hplain : Connects op stop (plain l s a) (plain l s b) (plain l s e))
    (hunknown : ¬ e.readsOnly known = true → analysis l known s e
      = both op (analysis l known s a) (analysis l known s b)) :
    Connects op stop (analysis l known s a) (analysis l known s b)
      (analysis l known s e) := by
  by_cases h : e.readsOnly known = true
  · obtain ⟨ha, hb⟩ := readsOnly_append hreads h
    rw [analysis_of_readsOnly h, analysis_of_readsOnly ha, analysis_of_readsOnly hb]
    exact hplain
  · rw [hunknown h]
    exact connects_both _ _ _ _

theorem connects_analysis_and (known : NameSet) (a b : Expr) :
    Connects Truth.and .false (analysis l known s a) (analysis l known s b)
      (analysis l known s (.and a b)) :=
  connects_analysis rfl (connects_plain_and a b) analysis_and_of_unknown

theorem connects_analysis_or (known : NameSet) (a b : Expr) :
    Connects Truth.or .true (analysis l known s a) (analysis l known s b)
      (analysis l known s (.or a b)) :=
  connects_analysis rfl (connects_plain_or a b) analysis_or_of_unknown

theorem negates_analysis (known : NameSet) (a : Expr) :
    Negates (analysis l known s a) (analysis l known s (.unary .not a)) := by
  by_cases h : (Expr.unary .not a).readsOnly known = true
  · have ha : a.readsOnly known = true := h
    rw [analysis_of_readsOnly h, analysis_of_readsOnly ha]
    exact negates_plain a
  · rw [analysis_not_of_unknown h]
    cases analysis l known s a with
    | error err => exact Or.inl ⟨err, rfl⟩
    | ok x => exact Or.inr ⟨x, rfl, rfl⟩

/-- **MONOTONE IN KNOWLEDGE**: whoever knows more variables, with the same
    values for those known before, says at least as much, or fails. -/
theorem analysis_retains {known known' : NameSet}
    (hknown : ∀ name ∈ known, name ∈ known')
    (hscope : ∀ name ∈ known, s.lookup name = s'.lookup name) (e : Expr) :
    Retains (analysis l known s e) (analysis l known' s' e) := by
  -- where everything is known on both sides nothing is left to compare
  have hcomplete : ∀ e : Expr, e.readsOnly known = true →
      Retains (analysis l known s e) (analysis l known' s' e) := by
    intro e he
    have hreads := readsOnly_iff.mp he
    have he' : e.readsOnly known' = true :=
      readsOnly_iff.mpr fun n hn => hknown n (hreads n hn)
    rw [analysis_of_readsOnly he, analysis_of_readsOnly he', plain, plain,
      Expr.judge_congr fun n hn => hscope n (hreads n hn)]
    exact Retains.refl _
  induction e using PartialRule.ofExpr.induct known with
  | case1 a b h => exact hcomplete _ h
  | case2 a b h iha ihb =>
      rw [analysis_and_of_unknown h]
      exact Retains.connect Truth.Below.and Truth.Below.and_false iha ihb
        (connects_analysis_and known' a b)
  | case3 a b h => exact hcomplete _ h
  | case4 a b h iha ihb =>
      rw [analysis_or_of_unknown h]
      exact Retains.connect Truth.Below.or Truth.Below.or_true iha ihb
        (connects_analysis_or known' a b)
  | case5 a h => exact hcomplete _ h
  | case6 a h iha =>
      rw [analysis_not_of_unknown h]
      exact Retains.negate iha (negates_analysis known' a)
  | case7 e hand hor hnot h => exact hcomplete e h
  | case8 e hand hor hnot h =>
      rw [analysis_of_unknown hand hor hnot h]
      exact retains_unknown _

/-! ## Rules as texts -/

/-- Where nothing is unknown the rule is evaluated as it is, calls included. -/
theorem holds_complete (e : Expr) :
    (PartialRule.complete e).holds l s = e.judge l s := by
  rw [PartialRule.holds, PartialRule.truth]
  generalize e.judge l s = x
  obtain ⟨calls, r⟩ := x
  cases r with
  | error err => rfl
  | ok b =>
      show (⟨(calls ++ []) ++ [], .ok (Truth.ofBool b != .false)⟩ : Evaluation Bool)
        = ⟨calls, .ok b⟩
      rw [List.append_nil, List.append_nil]
      cases b <;> rfl

/-- Only what the analysis finds false does not hold. -/
theorem truth_of_not_holds {p : PartialRule}
    (h : (p.holds l s).outcome = .ok false) :
    (p.truth l s).outcome = .ok .false := by
  rw [PartialRule.holds, Run.outcome_bind] at h
  revert h
  cases (p.truth l s).outcome with
  | error err => exact nofun
  | ok t =>
      cases t with
      | true => exact nofun
      | unknown => exact nofun
      | false => exact fun _ => rfl

theorem outcome_forRule {α : Type} {rule : String} {x : Evaluation α} {a : α}
    (h : (x.forRule rule).outcome = .ok a) : x.outcome = .ok a := by
  obtain ⟨calls, r⟩ := x
  cases r with
  | error err => exact nomatch h
  | ok b => exact congrArg Except.ok (Except.ok.inj h)

/-- A rule is blank, or malformed, or the same tree for both ways to answer
    it. -/
theorem answer_cases (l : Library) (rule : Option String) :
    (∀ s, evaluatePartial l rule s = pure true ∧ evaluate l rule s = pure true) ∨
      (∃ text err, rule = some text ∧ parse text = .error err ∧
        ∀ s, evaluatePartial l rule s = Run.fail err
          ∧ evaluate l rule s = Run.fail err) ∨
      ∃ text e, rule = some text ∧ parse text = .ok e ∧
        ∀ s, evaluatePartial l rule s
            = ((PartialRule.ofExpr s.names e).holds l s).forRule text
          ∧ evaluate l rule s = (e.judge l s).forRule text := by
  cases rule with
  | none => exact Or.inl fun s => ⟨rfl, rfl⟩
  | some text =>
      unfold evaluatePartial evaluate PartialRule.ofRule
      dsimp only
      cases Text.isBlankText text with
      | true => exact Or.inl fun s => ⟨rfl, rfl⟩
      | false =>
          cases hparse : parse text with
          | error err =>
              exact Or.inr (Or.inl ⟨text, err, rfl, hparse, fun s => ⟨rfl, rfl⟩⟩)
          | ok e =>
              exact Or.inr (Or.inr ⟨text, e, rfl, hparse, fun s => ⟨rfl, rfl⟩⟩)

/-- A rule that the analysis refuses is not true for those who know more. -/
theorem evaluate_ne_true_of_refused {rule : Option String} {s s' : Scope}
    (hscope : ∀ name ∈ s.names, s.lookup name = s'.lookup name)
    (hfalse : (evaluatePartial l rule s).outcome = .ok false) :
    (evaluate l rule s').outcome ≠ .ok true := by
  intro htrue
  rcases answer_cases l rule with
    hblank | ⟨_, err, -, -, hfail⟩ | ⟨text, e, rfl, -, htree⟩
  · rw [(hblank s).1] at hfalse
    exact nomatch hfalse
  · rw [(hfail s).1] at hfalse
    exact nomatch hfalse
  · rw [(htree s).1] at hfalse
    rw [(htree s').2] at htrue
    have hpart : analysis l s.names s e = .ok .false :=
      truth_of_not_holds (outcome_forRule hfalse)
    -- the request brings every variable along, so it knows all of them
    obtain ⟨all, hknown, hall⟩ : ∃ all : NameSet, (∀ name ∈ s.names, name ∈ all)
        ∧ ∀ name ∈ e.reads, name ∈ all :=
      ⟨s.names.union (NameSet.ofList e.reads),
        fun name hn => NameSet.mem_union.mpr (Or.inl hn),
        fun name hn => NameSet.mem_union.mpr (Or.inr (NameSet.mem_ofList.mpr hn))⟩
    have hwhole : analysis l all s' e = .ok .true := by
      rw [analysis_of_readsOnly (readsOnly_iff.mpr hall), plain,
        outcome_forRule htrue]
      rfl
    have hretains : Retains (analysis l s.names s e) (analysis l all s' e) :=
      analysis_retains hknown hscope e
    have hknows : Truth.false ≠ .unknown := nofun
    rcases hretains.of_known hknows hpart with hsame | ⟨err, herr⟩
    · rw [hwhole] at hsame
      exact nomatch hsame
    · rw [hwhole] at herr
      exact nomatch herr

/-- Where no variable is missing, the analysis is the evaluation. -/
theorem evaluatePartial_eq_evaluate {rule : Option String} {s : Scope}
    (hcontains : ∀ text e, rule = some text → parse text = .ok e →
      ∀ name ∈ e.reads, s.contains name = true) :
    evaluatePartial l rule s = evaluate l rule s := by
  rcases answer_cases l rule with
    hblank | ⟨_, err, -, -, hfail⟩ | ⟨text, e, rfl, hparse, htree⟩
  · rw [(hblank s).1, (hblank s).2]
  · rw [(hfail s).1, (hfail s).2]
  · have he : e.readsOnly s.names = true :=
      readsOnly_iff.mpr fun name hn =>
        Scope.mem_names_iff.mpr (hcontains text e rfl hparse name hn)
    rw [(htree s).1, (htree s).2, ofExpr_of_readsOnly he, holds_complete]

/-- **SOUND AND MONOTONE**: what is known to be true or false of an expression
    stays so for whoever knows more, unless that evaluation fails; a rule that
    some values of its missing variables make true is not refused; and where
    nothing is missing the analysis is the evaluation. -/
theorem knowledge_never_retracts (l : Library) :
    (∀ (e : Expr) (known known' : NameSet) (s s' : Scope) (t : Truth),
      (∀ name ∈ known, name ∈ known') →
      (∀ name ∈ known, s.lookup name = s'.lookup name) →
      t ≠ .unknown →
      ((PartialRule.ofExpr known e).truth l s).outcome = .ok t →
      ((PartialRule.ofExpr known' e).truth l s').outcome = .ok t ∨
        ∃ err, ((PartialRule.ofExpr known' e).truth l s').outcome = .error err) ∧
    (∀ (rule : Option String) (s s' : Scope),
      (∀ name ∈ s.names, s.lookup name = s'.lookup name) →
      (evaluatePartial l rule s).outcome = .ok false →
      (evaluate l rule s').outcome ≠ .ok true) ∧
    (∀ (rule : Option String) (s : Scope),
      (∀ text e, rule = some text → parse text = .ok e →
        ∀ name ∈ e.reads, s.contains name = true) →
      evaluatePartial l rule s = evaluate l rule s) := by
  refine ⟨?_, ?_, ?_⟩
  · intro e known known' s s' t hknown hscope ht hr
    exact (analysis_retains hknown hscope e).of_known ht hr
  · intro rule s s' hscope hfalse
    exact evaluate_ne_true_of_refused hscope hfalse
  · intro rule s hcontains
    exact evaluatePartial_eq_evaluate hcontains

/-- Of `a && b` with a false `a` the analysis that knows `a` alone says false,
    so nobody who knows both can find it true, and whoever does is told what
    the rule says. -/
theorem conjunction_false_without_second :
    let a : NameMap Value := NameMap.empty.insert "a" (.bool false)
    let ab : NameMap Value := a.insert "b" (.bool true)
    let e : Expr := .and (.variable "a") (.variable "b")
    let rule : Option String := some "$\x7ba && b\x7d"
    ((PartialRule.ofExpr a.nameSet e).truth .empty (.ofContext a)).outcome
      = .ok .false ∧
    (((PartialRule.ofExpr ab.nameSet e).truth .empty (.ofContext ab)).outcome
        = .ok .false
      ∨ ∃ err, ((PartialRule.ofExpr ab.nameSet e).truth .empty
          (.ofContext ab)).outcome = .error err) ∧
    (evaluatePartial .empty rule (.ofContext a)).outcome = .ok false ∧
    (evaluate .empty rule (.ofContext ab)).outcome ≠ .ok true ∧
    evaluatePartial .empty rule (.ofContext ab)
      = evaluate .empty rule (.ofContext ab) := by
  intro a ab e rule
  have hparse : parse "$\x7ba && b\x7d" = .ok e := by with_unfolding_all rfl
  have hblank : Text.isBlankText "$\x7ba && b\x7d" = false := by decide
  have hknown : ((PartialRule.ofExpr a.nameSet e).truth .empty
      (.ofContext a)).outcome = .ok .false := rfl
  have hfalse : (evaluatePartial .empty rule (.ofContext a)).outcome
      = .ok false := by
    simp only [rule, evaluatePartial, PartialRule.ofRule, hparse, hblank]
    rfl
  have hscope : ∀ name ∈ a.nameSet, (Scope.ofContext a).lookup name
      = (Scope.ofContext ab).lookup name := by
    intro name hn
    obtain rfl : name = "a" := List.mem_singleton.mp hn
    rfl
  obtain ⟨hretained, hrefused, hwhole⟩ := knowledge_never_retracts .empty
  refine ⟨hknown, ?_, hfalse, ?_, ?_⟩
  · exact hretained e a.nameSet ab.nameSet (.ofContext a) (.ofContext ab)
      .false (by decide) hscope nofun hknown
  · exact hrefused rule (.ofContext a) (.ofContext ab) hscope hfalse
  · refine hwhole rule (.ofContext ab) ?_
    intro text e' htext he'
    rw [← Option.some.inj htext, hparse] at he'
    rw [← Except.ok.inj he']
    decide

end Cohort.Rule
