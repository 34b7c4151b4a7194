import Cohort.Proofs.Rule.Undefined
import Cohort.Proofs.Resolution.Locality

/-! # Names hidden by constants

    An evaluation reads the variables of its expression and no others, so two
    scopes with the same lookups cannot be told apart by any rule.  The
    constants of a test stand in front of the request: whatever a request says
    under one of their names is never looked up.  This file lifts the law of a
    single evaluation, function by function, to what a request is given. -/

namespace Cohort

namespace Rule

/-! ## Scopes that cannot be told apart -/

/-- The scopes give every name the same value, or neither gives it one. -/
def Scope.Alike (s s' : Scope) : Prop :=
  ∀ name, s.lookup name = s'.lookup name

variable {l : Library} {s s' : Scope}

theorem Scope.Alike.agreeOn (h : s.Alike s') (names : List String) :
    s.AgreeOn s' names := by
  intro name _
  exact h name

/-- Scopes that are alike have the same names. -/
theorem Scope.Alike.names_eq (h : s.Alike s') : s.names = s'.names := by
  refine NameSet.ext_mem ?_
  intro name
  rw [Scope.mem_names_iff, Scope.mem_names_iff, Scope.contains, Scope.contains, h name]

theorem Scope.Alike.truth_eq (h : s.Alike s') (skeleton : Skeleton) :
    skeleton.truth l s = skeleton.truth l s' := by
  induction skeleton with
  | known e =>
      rw [Skeleton.truth, Skeleton.truth, Expr.judge_congr (h.agreeOn e.reads)]
  | unknown => rfl
  | and left right ihl ihr =>
      rw [Skeleton.truth, Skeleton.truth, ihl, ihr]
  | or left right ihl ihr =>
      rw [Skeleton.truth, Skeleton.truth, ihl, ihr]
  | not operand ih =>
      rw [Skeleton.truth, Skeleton.truth, ih]

/-- Every rule is answered alike. -/
theorem Scope.Alike.evaluate_eq (h : s.Alike s') (rule : Option String) :
    evaluate l rule s = evaluate l rule s' := by
  have hparsed : ∀ text parsed,
      answerParsed l s text parsed = answerParsed l s' text parsed := by
    intro text parsed
    cases parsed with
    | error err => rfl
    | ok e =>
        rw [answerParsed, answerParsed, answer, answer,
          Expr.judge_congr (h.agreeOn e.reads)]
  cases rule with
  | none => rfl
  | some text =>
      rw [evaluate, evaluate, hparsed]

/-- With unknown variables, too. -/
theorem Scope.Alike.evaluatePartial_eq (h : s.Alike s') (rule : Option String) :
    evaluatePartial l rule s = evaluatePartial l rule s' := by
  have hholds : ∀ p : PartialRule, p.holds l s = p.holds l s' := by
    intro p
    rw [PartialRule.holds, PartialRule.holds]
    cases p with
    | complete e =>
        rw [PartialRule.truth, PartialRule.truth, Expr.judge_congr (h.agreeOn e.reads)]
    | notFalse skeleton =>
        rw [PartialRule.truth, PartialRule.truth, h.truth_eq]
  cases rule with
  | none => rfl
  | some text =>
      rw [evaluatePartial, evaluatePartial, h.names_eq]
      simp only [hholds]

end Rule

namespace Selection

open InSession Consistency

/-! ## Requests that cannot be told apart -/

/-- The requests say the same under every name that no constant of the test
    bears. -/
def SameVisible (d : Definition) (context context' : Context) : Prop :=
  ∀ name, d.constants.contains name = false →
    d.specialConstants.contains name = false → context.get? name = context'.get? name

variable {d : Definition} {context context' : Context}

/-- **CONSTANTS HIDE**: the rules of the test see the same. -/
theorem SameVisible.alike_scopeOf (h : SameVisible d context context') :
    (scopeOf d context).Alike (scopeOf d context') := by
  intro name
  simp only [Rule.Scope.lookup, scopeOf]
  -- both requests are asked only where no constant has answered
  cases hconstant : d.constants.get? name with
  | some v => rfl
  | none =>
      cases hspecial : d.specialConstants.get? name with
      | some v => rfl
      | none =>
          have hno : d.constants.contains name = false := by
            rw [NameMap.contains, hconstant, Option.isSome_none]
          have hno' : d.specialConstants.contains name = false := by
            rw [NameMap.contains, hspecial, Option.isSome_none]
          exact h name hno hno'

variable {l : Rule.Library} {scope scope' : Rule.Scope}

/-- A cache is filled alike, too. -/
theorem evaluate_alike (h : scope.Alike scope') (site : RuleSite) (rule : Option String) :
    evaluate l site rule scope = evaluate l site rule scope' := by
  have hcache : ∀ c : Rule.Cache, c.evaluate l rule scope = c.evaluate l rule scope' := by
    intro c
    refine Prod.ext ?_ ?_
    · rw [Rule.Cache.fst_evaluate, Rule.Cache.fst_evaluate, h.evaluate_eq]
    · cases rule with
      | none => rfl
      | some text =>
          simp only [Rule.Cache.evaluate]
          split <;> rfl
  funext s
  rw [evaluate, evaluate, hcache]

theorem matchAllocation_alike (h : scope.Alike scope') (test : String) (index : Nat)
    (allocations : List Allocation) :
    matchAllocation l test scope index allocations
      = matchAllocation l test scope' index allocations := by
  induction allocations generalizing index with
  | nil => rfl
  | cons a rest ih =>
      rw [matchAllocation, matchAllocation, evaluate_alike h, ih]

/-- The same is given, cached and reported. -/
theorem SameVisible.select_eq (h : SameVisible d context context') (l : Rule.Library)
    (test : String) (identity : Option String) (drawn : Float) :
    select l test d identity context drawn = select l test d identity context' drawn := by
  rw [select, select]
  simp only [evaluate_alike h.alike_scopeOf, matchAllocation_alike h.alike_scopeOf]

end Selection

/-- **ONLY DECLARED NAMES ARE READ**: two scopes that agree on the variables of an
    expression give it the same evaluation, and a variable is found undefined
    only if it is one of them and the scope has no value for it.  So requests
    that differ under names of constants alone get the same answers from every
    rule of the test, and the same selection. -/
theorem evaluation_reads_declared (l : Rule.Library) :
    (∀ (e : Rule.Expr) (s s' : Rule.Scope),
      (∀ name ∈ e.variableNames, s.lookup name = s'.lookup name) →
      e.eval l s = e.eval l s') ∧
    (∀ (e : Rule.Expr) (s : Rule.Scope) (name : String),
      (e.eval l s).outcome = .error (.undefinedVariable name) →
      name ∈ e.variableNames ∧ s.lookup name = none) ∧
    (∀ (d : Definition) (context context' : Context),
      (∀ name, d.constants.contains name = false →
        d.specialConstants.contains name = false →
        context.get? name = context'.get? name) →
      let scope := Consistency.scopeOf d context
      let scope' := Consistency.scopeOf d context'
      (∀ rule, Rule.evaluate l rule scope = Rule.evaluate l rule scope' ∧
        Rule.evaluatePartial l rule scope = Rule.evaluatePartial l rule scope') ∧
      ∀ test identity drawn, Selection.select l test d identity context drawn
        = Selection.select l test d identity context' drawn) := by
  refine ⟨?_, ?_, ?_⟩
  · intro e s s' hagree
    refine Rule.Expr.eval_congr e ?_
    intro name hname
    exact hagree name (NameSet.mem_ofList.mpr hname)
  · intro e s name hundefined
    obtain ⟨hread, hmissing⟩ := Rule.Expr.eval_missesOnly e name hundefined
    refine ⟨NameSet.mem_ofList.mpr hread, ?_⟩
    rw [Rule.Scope.contains, Option.isSome_eq_false_iff, Option.isNone_iff_eq_none]
      at hmissing
    exact hmissing
  · intro d context context' hvisible
    have h : Selection.SameVisible d context context' := hvisible
    refine ⟨?_, ?_⟩
    · intro rule
      exact ⟨h.alike_scopeOf.evaluate_eq rule, h.alike_scopeOf.evaluatePartial_eq rule⟩
    · intro test identity drawn
      exact h.select_eq l test identity drawn

/-- A request that claims another home than the constant of a test is answered
    as one that claims none.  Without the constant the claim is heard, but not
    by a rule that does not ask for a home; one that asks misses it where
    nothing is claimed. -/
theorem home_is_not_moved :
    let l := Resolver.plainLibrary
    let d := { Resolver.evenSplit "h" none with
      rule := some "$\x7bcountry == HOME\x7d"
      constants := NameMap.ofList [("HOME", .string "US")] }
    let silent : Context := NameMap.ofList [("country", .string "CA")]
    let claiming := silent.insert "HOME" (.string "CA")
    let foreign : Rule.Expr := .unary .empty (.variable "country")
    let atHome : Rule.Expr := .binary .equal (.variable "country") (.variable "HOME")
    foreign.eval l (.ofContext silent) = foreign.eval l (.ofContext claiming) ∧
    ((atHome.eval l (.ofContext silent)).outcome = .error (.undefinedVariable "HOME") ∧
      "HOME" ∈ atHome.variableNames ∧ (Rule.Scope.ofContext silent).lookup "HOME" = none) ∧
    (Rule.evaluate l d.rule (.ofContext claiming)).outcome = .ok true ∧
    (Rule.evaluate l d.rule (Consistency.scopeOf d claiming)).outcome = .ok false ∧
    Selection.select l "home" d (some "u6") silent 0.5
      = Selection.select l "home" d (some "u6") claiming 0.5 := by
  intro l d silent claiming foreign atHome
  obtain ⟨hframe, hmissed, hhidden⟩ := evaluation_reads_declared l
  have hread : ∀ name ∈ foreign.variableNames,
      (Rule.Scope.ofContext silent).lookup name
        = (Rule.Scope.ofContext claiming).lookup name := by
    intro name hname
    obtain rfl : name = "country" := List.mem_singleton.mp hname
    exact (NameMap.get?_insert_ne silent _ (by decide)).symm
  have hundefined : (atHome.eval l (.ofContext silent)).outcome
      = .error (.undefinedVariable "HOME") := by
    with_unfolding_all rfl
  have hvisible : ∀ name, d.constants.contains name = false →
      d.specialConstants.contains name = false →
      silent.get? name = claiming.get? name := by
    intro name hname _
    by_cases hhome : name = "HOME"
    · rw [hhome] at hname
      exact nomatch hname
    · exact (NameMap.get?_insert_ne silent _ hhome).symm
  obtain ⟨hrules, hselect⟩ := hhidden d silent claiming hvisible
  have hanswer : (Rule.evaluate l d.rule (Consistency.scopeOf d claiming)).outcome
      = .ok false := by
    rw [← (hrules d.rule).1]
    decide +kernel
  exact ⟨hframe foreign _ _ hread, ⟨hundefined, hmissed atHome _ "HOME" hundefined⟩,
    by decide +kernel, hanswer, hselect "home" (some "u6") 0.5⟩

end Cohort
