import Cohort.Proofs.Rule.PartialAnalysis
import Cohort.Proofs.Rule.Undefined

/-! # The analysis fails on known parts only

    The skeleton of a rule holds the greatest parts of the rule that read known
    variables alone, and the analysis asks these, one after the other, and
    nothing else.  So whatever it complains about, a part of the rule complains
    about that can be evaluated by itself; and since such a part has all its
    variables, the complaint is never that one is missing.  Nor does the
    analysis stop early: both sides of a connective are asked, so a known part
    that fails is always heard. -/

namespace Cohort.Rule

variable {l : Library} {s : Scope}

/-! ## Parts of an expression -/

/-- The expressions that an expression is directly made of. -/
def Expr.operands : Expr → List Expr
  | .literal _ => []
  | .variable _ => []
  | .property base _ => [base]
  | .index base key => [base, key]
  | .unary _ operand => [operand]
  | .binary _ left right => [left, right]
  | .and left right => [left, right]
  | .or left right => [left, right]
  | .conditional condition yes no => [condition, yes, no]
  | .call _ arguments => arguments

/-- A part of an expression is the expression itself, or a part of one of its
    operands. -/
inductive Expr.PartOf (part : Expr) : Expr → Prop where
  | whole : PartOf part part
  | within {e operand : Expr} (hoperand : operand ∈ e.operands)
      (h : PartOf part operand) : PartOf part e

/-! ## What a skeleton asks -/

/-- The known parts of a skeleton, from the left. -/
def Skeleton.knownParts : Skeleton → List Expr
  | .known e => [e]
  | .unknown => []
  | .and left right => left.knownParts ++ right.knownParts
  | .or left right => left.knownParts ++ right.knownParts
  | .not operand => operand.knownParts

/-- Asks expressions as whole rules, from the left, up to the first that fails. -/
def askEach (l : Library) (s : Scope) : List Expr → Except EvalError Unit
  | [] => .ok ()
  | e :: rest => (e.judge l s).outcome.bind fun _ => askEach l s rest

theorem askEach_append (first second : List Expr) :
    askEach l s (first ++ second)
      = (askEach l s first).bind fun _ => askEach l s second := by
  induction first with
  | nil => rfl
  | cons e rest ih =>
      rw [List.cons_append, askEach, askEach, ih]
      cases (e.judge l s).outcome with
      | error err => rfl
      | ok b => rfl

/-- What is asked fails as one of the expressions does. -/
theorem exists_of_askEach_error {parts : List Expr} {err : EvalError}
    (h : askEach l s parts = .error err) :
    ∃ part ∈ parts, (part.judge l s).outcome = .error err := by
  induction parts with
  | nil => exact nomatch h
  | cons e rest ih =>
      rw [askEach] at h
      cases he : (e.judge l s).outcome with
      | error err' =>
          rw [he] at h
          have herr : err' = err := Except.error.inj h
          exact ⟨e, List.mem_cons_self, herr ▸ he⟩
      | ok b =>
          rw [he] at h
          obtain ⟨part, hpart, hfails⟩ := ih h
          exact ⟨part, List.mem_cons_of_mem _ hpart, hfails⟩

/-- If nothing fails, every expression has an answer. -/
theorem answered_of_askEach {parts : List Expr} (h : askEach l s parts = .ok ()) :
    ∀ part ∈ parts, ∃ b, (part.judge l s).outcome = .ok b := by
  induction parts with
  | nil => exact nofun
  | cons e rest ih =>
      rw [askEach] at h
      cases he : (e.judge l s).outcome with
      | error err =>
          rw [he] at h
          exact nomatch h
      | ok b =>
          rw [he] at h
          exact List.forall_mem_cons.mpr ⟨⟨b, he⟩, ih h⟩

/-- The outcome of a connective, truth apart: its operands are asked one after
    the other. -/
theorem map_outcome_connective (op : Truth → Truth → Truth) (x y : Evaluation Truth) :
    (x >>= fun a => y >>= fun b => pure (op a b)).outcome.map (fun _ => ())
      = (x.outcome.map fun _ => ()).bind fun _ => y.outcome.map fun _ => () := by
  rw [Run.outcome_bind]
  cases x.outcome with
  | error err => rfl
  | ok a =>
      show (y >>= fun b => pure (op a b)).outcome.map (fun _ => ()) = _
      rw [Run.outcome_bind]
      cases y.outcome with
      | error err => rfl
      | ok b => rfl

/-- **THE KNOWN PARTS ARE ASKED**, every one of them, and nothing else: truth
    apart, this is what the analysis comes to. -/
theorem Skeleton.map_outcome_truth (skeleton : Skeleton) :
    (skeleton.truth l s).outcome.map (fun _ => ())
      = askEach l s skeleton.knownParts := by
  induction skeleton with
  | known e =>
      rw [truth, Run.outcome_bind, knownParts, askEach]
      cases (e.judge l s).outcome with
      | error err => rfl
      | ok b => rfl
  | unknown => rfl
  | and left right ihl ihr =>
      rw [truth, map_outcome_connective, ihl, ihr, knownParts, askEach_append]
  | or left right ihl ihr =>
      rw [truth, map_outcome_connective, ihl, ihr, knownParts, askEach_append]
  | not operand ih =>
      rw [truth, Run.outcome_bind, knownParts, ← ih]
      cases (operand.truth l s).outcome with
      | error err => rfl
      | ok x => rfl

/-! ## The skeleton of a rule -/

/-- A part of an expression that reads known variables only. -/
structure Expr.KnownPartOf (known : NameSet) (part e : Expr) : Prop where
  partOf : part.PartOf e
  readsOnly : part.readsOnly known = true

theorem Expr.KnownPartOf.within {known : NameSet} {part e operand : Expr}
    (h : KnownPartOf known part operand) (hoperand : operand ∈ e.operands) :
    KnownPartOf known part e :=
  ⟨.within hoperand h.partOf, h.readsOnly⟩

/-- **PARTS OF THE RULE**: what the skeleton of an expression asks are parts of
    the expression, and they read known variables only. -/
theorem knownPartOf_of_mem {known : NameSet} {e part : Expr}
    (h : part ∈ (PartialRule.ofExpr known e).skeleton.knownParts) :
    part.KnownPartOf known e := by
  -- an expression of known variables is asked as a whole
  have hcomplete : ∀ {e : Expr}, e.readsOnly known = true →
      part ∈ (PartialRule.ofExpr known e).skeleton.knownParts →
      part.KnownPartOf known e := by
    intro e he hpart
    rw [ofExpr_of_readsOnly he] at hpart
    obtain rfl : part = e := List.mem_singleton.mp hpart
    exact ⟨.whole, he⟩
  induction e using PartialRule.ofExpr.induct known with
  | case1 a b he => exact hcomplete he h
  | case2 a b he iha ihb =>
      rw [PartialRule.ofExpr, if_neg he] at h
      rcases List.mem_append.mp h with ha | hb
      · exact (iha ha).within List.mem_cons_self
      · exact (ihb hb).within (List.mem_cons_of_mem a List.mem_cons_self)
  | case3 a b he => exact hcomplete he h
  | case4 a b he iha ihb =>
      rw [PartialRule.ofExpr, if_neg he] at h
      rcases List.mem_append.mp h with ha | hb
      · exact (iha ha).within List.mem_cons_self
      · exact (ihb hb).within (List.mem_cons_of_mem a List.mem_cons_self)
  | case5 a he => exact hcomplete he h
  | case6 a he iha =>
      rw [PartialRule.ofExpr, if_neg he] at h
      exact (iha h).within List.mem_cons_self
  | case7 e hand hor hnot he => exact hcomplete he h
  | case8 e hand hor hnot he =>
      rw [PartialRule.ofExpr, if_neg he] at h
      · exact absurd h List.not_mem_nil
      · exact hand
      · exact hor
      · exact hnot

/-! ## Rules as texts -/

/-- Whether a rule fails is settled by the known parts of its skeleton. -/
theorem map_outcome_holds (p : PartialRule) :
    (p.holds l s).outcome.map (fun _ => ())
      = askEach l s p.skeleton.knownParts := by
  rw [← Skeleton.map_outcome_truth, truth_skeleton, PartialRule.holds, Run.outcome_bind]
  cases (p.truth l s).outcome with
  | error err => rfl
  | ok t => rfl

/-- An error for a rule is an error of the evaluation. -/
theorem cause_of_forRule {α : Type} {x : Evaluation α} {text : String} {err : Error}
    (h : (x.forRule text).outcome = .error err) :
    ∃ cause, err = ⟨text, .evaluation cause⟩ ∧ x.outcome = .error cause := by
  obtain ⟨calls, r⟩ := x
  cases r with
  | ok a => exact nomatch h
  | error cause => exact ⟨cause, (Except.error.inj h).symm, rfl⟩

/-- A rule that can be read and is not blank is answered by its skeleton. -/
theorem evaluatePartial_of_parse {text : String} {e : Expr}
    (hblank : Text.isBlankText text = false) (hparse : parse text = .ok e) :
    evaluatePartial l (some text) s
      = ((PartialRule.ofExpr s.names e).holds l s).forRule text := by
  simp only [evaluatePartial, PartialRule.ofRule, hblank, hparse]
  rfl

/-- A rule that the analysis fails on cannot be read, or one of its known parts
    fails. -/
theorem error_of_evaluatePartial {rule : Option String} {err : Error}
    (h : (evaluatePartial l rule s).outcome = .error err) :
    ∃ text, rule = some text ∧ (parse text = .error err ∨
      ∃ e cause, parse text = .ok e ∧ err = ⟨text, .evaluation cause⟩ ∧
        ∃ part ∈ (PartialRule.ofExpr s.names e).skeleton.knownParts,
          (part.judge l s).outcome = .error cause) := by
  rcases answer_cases l rule with
    hblank | ⟨text, err', hrule, hparse, hfail⟩ | ⟨text, e, hrule, hparse, htree⟩
  · rw [(hblank s).1] at h
    exact nomatch h
  · rw [(hfail s).1] at h
    have herr : err' = err := Except.error.inj h
    exact ⟨text, hrule, Or.inl (herr ▸ hparse)⟩
  · rw [(htree s).1] at h
    obtain ⟨cause, rfl, hcause⟩ := cause_of_forRule h
    have hasked := map_outcome_holds (l := l) (s := s) (PartialRule.ofExpr s.names e)
    rw [hcause] at hasked
    obtain ⟨part, hpart, hfails⟩ := exists_of_askEach_error hasked.symm
    exact ⟨text, hrule, Or.inr ⟨e, cause, hparse, rfl, part, hpart, hfails⟩⟩

/-- A known part reads variables of the scope, so it never misses one. -/
theorem ne_undefined_of_readsOnly {part : Expr} (h : part.readsOnly s.names = true)
    (name : String) : (part.judge l s).outcome ≠ .error (.undefinedVariable name) := by
  intro hundefined
  obtain ⟨hreads, habsent⟩ := Expr.judge_missesOnly part name hundefined
  have hmem : name ∈ s.names := readsOnly_iff.mp h name hreads
  rw [Scope.mem_names_iff, habsent] at hmem
  exact nomatch hmem

/-- **BOTH SIDES ARE HEARD**: a known part that fails by itself fails the
    rule, whatever stands beside it. -/
theorem exists_error_of_knownPart {text : String} {e part : Expr} {cause : EvalError}
    (hblank : Text.isBlankText text = false) (hparse : parse text = .ok e)
    (hpart : part ∈ (PartialRule.ofExpr s.names e).skeleton.knownParts)
    (hfails : (part.judge l s).outcome = .error cause) :
    ∃ err, (evaluatePartial l (some text) s).outcome = .error err := by
  cases hanswer : (evaluatePartial l (some text) s).outcome with
  | error err => exact ⟨err, rfl⟩
  | ok b =>
      -- an answer would have needed one from every known part
      rw [evaluatePartial_of_parse hblank hparse] at hanswer
      have hasked := map_outcome_holds (l := l) (s := s) (PartialRule.ofExpr s.names e)
      rw [outcome_forRule hanswer] at hasked
      obtain ⟨b', hb'⟩ := answered_of_askEach hasked.symm part hpart
      rw [hfails] at hb'
      exact nomatch hb'

/-- **ONLY KNOWN PARTS ARE BLAMED**: the analysis of a rule never finds a
    variable undefined, with constants or without.  If it fails, the rule
    cannot be read, or a part of the rule that has all its variables fails
    with the very same error as a rule of its own. -/
theorem analysis_blames_known_parts (l : Library) (rule : Option String) (s : Scope) :
    (∀ text name, (evaluatePartial l rule s).outcome
      ≠ .error ⟨text, .evaluation (.undefinedVariable name)⟩) ∧
    (∀ err, (evaluatePartial l rule s).outcome = .error err →
      (∃ text m, rule = some text ∧ parse text = .error err
        ∧ err = ⟨text, .malformed m⟩) ∨
      ∃ text e part, rule = some text ∧ parse text = .ok e ∧ part.PartOf e ∧
        (∀ name ∈ part.variableNames, s.contains name = true) ∧
        (answer l s text part).outcome = .error err) := by
  constructor
  · intro text name hundefined
    obtain ⟨written, -, hparse | ⟨e, cause, -, hcause, part, hpart, hfails⟩⟩ :=
      error_of_evaluatePartial hundefined
    · obtain ⟨m, hm⟩ := malformed_of_parse hparse
      exact nomatch hm
    · have hknown : part.readsOnly s.names = true := (knownPartOf_of_mem hpart).readsOnly
      obtain rfl : .undefinedVariable name = cause := by
        injection hcause with _ hcause
        injection hcause
      exact ne_undefined_of_readsOnly hknown name hfails
  · intro err h
    obtain ⟨text, hrule, hparse | ⟨e, cause, hparse, hcause, part, hpart, hfails⟩⟩ :=
      error_of_evaluatePartial h
    · obtain ⟨m, hm⟩ := malformed_of_parse hparse
      exact Or.inl ⟨text, m, hrule, hparse, hm⟩
    · obtain ⟨hpartOf, hknown⟩ := knownPartOf_of_mem hpart
      refine Or.inr ⟨text, e, part, hrule, hparse, hpartOf, ?_, ?_⟩
      · intro name hname
        have hreads : name ∈ part.reads := NameSet.mem_ofList.mp hname
        exact Scope.mem_names_iff.mp (readsOnly_iff.mp hknown name hreads)
      · rw [answer, Evaluation.forRule, Run.mapError, hfails, hcause]
        rfl

/-- Of `!(vip || country < true)` with a constant country the analysis blames the
    comparison, where the evaluation misses `vip` before it gets there. -/
theorem comparison_is_blamed :
    let s : Scope := ⟨NameMap.ofList [("country", .string "US")], .empty, .empty⟩
    let text := "$\x7b!(vip || country < true)\x7d"
    let err : Error := ⟨text, .evaluation (.fault (.unordered .string .boolean))⟩
    (evaluate .empty (some text) s).outcome
      = .error ⟨text, .evaluation (.undefinedVariable "vip")⟩ ∧
    (evaluatePartial .empty (some text) s).outcome = .error err ∧
    ∃ e part, parse text = .ok e ∧ part.PartOf e ∧
      (∀ name ∈ part.variableNames, s.contains name = true) ∧
      (answer .empty s text part).outcome = .error err := by
  intro s text err
  have hfails : (evaluatePartial .empty (some text) s).outcome = .error err := by
    decide +kernel
  obtain ⟨-, hblamed⟩ := analysis_blames_known_parts .empty (some text) s
  refine ⟨by decide +kernel, hfails, ?_⟩
  rcases hblamed err hfails with ⟨_, m, -, -, hm⟩ | ⟨written, e, part, hrule, hpart⟩
  · have hcause : err.cause = .malformed m := congrArg Error.cause hm
    exact nomatch hcause
  · obtain rfl : text = written := Option.some.inj hrule
    exact ⟨e, part, hpart⟩

end Cohort.Rule
