import Mathlib.Algebra.Group.Int.Defs
import Mathlib.Algebra.Group.Nat.Defs
import Cohort.Proofs.Rule.KnownParts

/-! # Whole numbers are computed exactly

    A rule computes with words of sixty-four bits, but means the integers: a
    result is exact or there is none.  The exact value of an expression is
    taken here over all integers, without any bound, and an evaluation is
    compared with it.  It fails where a part of the expression goes beyond the
    words, at whatever depth, and only there: no wrapped word is ever passed
    on, and no word becomes a float. -/

namespace Cohort.Rule

/-! ## Words -/

/-- A signed word of sixty-four bits can hold the number. -/
def Fits (n : Int) : Prop := -2 ^ 63 ≤ n ∧ n < 2 ^ 63

theorem fits_toInt (n : Int64) : Fits n.toInt := ⟨n.le_toInt, n.toInt_lt⟩

/-- A number that fits is given as a word. -/
theorem exact_of_fits {n : Int} (h : Fits n) :
    ∃ r : Int64, exact n = .ok (.int r) ∧ r.toInt = n := by
  have hword : Decimal.fit64? n = some (Int64.ofInt n) := if_pos h
  exact ⟨Int64.ofInt n, by rw [exact, hword], Int64.toInt_ofInt_of_le h.1 h.2⟩

/-- A number that does not fit is an overflow, and no other word is given for it. -/
theorem exact_of_not_fits {n : Int} (h : ¬ Fits n) : exact n = .error .overflow := by
  have hnone : Decimal.fit64? n = none := if_neg h
  rw [exact, hnone]

/-! ## Exact values -/

/-- The operations on all integers; the remainder has the sign of the dividend, and there is
    none by zero. -/
def BinaryOp.whole? : BinaryOp → Int → Int → Option Int
  | .add, m, n => some (m + n)
  | .subtract, m, n => some (m - n)
  | .multiply, m, n => some (m * n)
  | .modulo, m, n => if n = 0 then none else some (m.tmod n)
  | _, _, _ => none

/-- The value over all integers of an expression of whole numbers. -/
def Expr.value? (s : Scope) : Expr → Option Int
  | .literal (.int n) => some n.toInt
  | .variable name => match s.lookup name with
    | some (.int n) => some n.toInt
    | _ => none
  | .unary .negate operand => (operand.value? s).map fun n => -n
  | .binary op left right =>
      (left.value? s).bind fun m => (right.value? s).bind fun n => op.whole? m n
  | _ => none

/-- The operators between whole numbers. -/
def wholeOps : List BinaryOp := [.add, .subtract, .multiply, .modulo]

/-- An expression of whole numbers: literals, variables that are bound to whole numbers,
    negation, sums, differences, products and remainders. -/
inductive Expr.Whole (s : Scope) : Expr → Prop where
  | literal (n : Int64) : Whole s (.literal (.int n))
  | variable {name : String} {n : Int64} (h : s.lookup name = some (.int n)) :
      Whole s (.variable name)
  | negate {operand : Expr} (h : Whole s operand) : Whole s (.unary .negate operand)
  | binary {op : BinaryOp} {left right : Expr} (hop : op ∈ wholeOps)
      (hleft : Whole s left) (hright : Whole s right) : Whole s (.binary op left right)

/-- An expression that goes beyond the words: a remainder by zero, or of the least word by
    `-1`, or a value that does not fit. -/
inductive Expr.Exceeds (s : Scope) : Expr → Prop where
  | zeroModulus {left right : Expr} (h : right.value? s = some 0) :
      Exceeds s (.binary .modulo left right)
  | leastByMinusOne {left right : Expr} (hleft : left.value? s = some (-2 ^ 63))
      (hright : right.value? s = some (-1)) : Exceeds s (.binary .modulo left right)
  | outside {e : Expr} {n : Int} (h : e.value? s = some n) (hn : ¬ Fits n) : Exceeds s e

/-- The numbers between which an operation goes beyond the words. -/
def BinaryOp.Exceeds (op : BinaryOp) (m n : Int) : Prop :=
  op = .modulo ∧ (n = 0 ∨ m = -2 ^ 63 ∧ n = -1) ∨ ∃ r, op.whole? m n = some r ∧ ¬ Fits r

/-- Where the value is known and fits, only a remainder can go beyond the words. -/
theorem Expr.not_exceeds_of_fits {s : Scope} {e : Expr} {n : Int} (h : e.value? s = some n)
    (hn : Fits n) (hmodulo : ∀ left right, e ≠ .binary .modulo left right) :
    ¬ e.Exceeds s := by
  rintro (_ | _ | ⟨h', hbeyond⟩)
  · exact hmodulo _ _ rfl
  · exact hmodulo _ _ rfl
  · have hsame := Option.some.inj (h.symm.trans h')
    exact hbeyond (hsame ▸ hn)

/-- An operation goes beyond the words where the values of its operands say so. -/
theorem Expr.exceeds_binary_iff {s : Scope} {op : BinaryOp} {left right : Expr} {m n : Int}
    (hm : left.value? s = some m) (hn : right.value? s = some n) :
    (Expr.binary op left right).Exceeds s ↔ op.Exceeds m n := by
  have hvalue : (Expr.binary op left right).value? s = op.whole? m n := by
    rw [Expr.value?, hm, hn]
    rfl
  constructor
  · intro h
    cases h with
    | zeroModulus hzero =>
        exact Or.inl ⟨rfl, Or.inl (Option.some.inj (hn.symm.trans hzero))⟩
    | leastByMinusOne hleft hright =>
        exact Or.inl ⟨rfl, Or.inr ⟨Option.some.inj (hm.symm.trans hleft),
          Option.some.inj (hn.symm.trans hright)⟩⟩
    | outside h hbeyond => exact Or.inr ⟨_, hvalue.symm.trans h, hbeyond⟩
  · rintro (⟨rfl, rfl | ⟨rfl, rfl⟩⟩ | ⟨r, hr, hbeyond⟩)
    · exact .zeroModulus hn
    · exact .leastByMinusOne hm hn
    · exact .outside (hvalue.trans hr) hbeyond

/-! ## One operation -/

/-- **ONE STEP IS EXACT**, unless the operation goes beyond the words between its operands. -/
theorem wholeArithmetic_exact {op : BinaryOp} (hop : op ∈ wholeOps) {m n : Int64}
    (h : ¬ op.Exceeds m.toInt n.toInt) :
    ∃ r : Int64, wholeArithmetic op m n = .ok (.int r)
      ∧ op.whole? m.toInt n.toInt = some r.toInt := by
  -- what the operation computes in one go fits, since nothing goes beyond the words
  have hexact : ∀ k, wholeArithmetic op m n = exact k →
      op.whole? m.toInt n.toInt = some k →
      ∃ r : Int64, wholeArithmetic op m n = .ok (.int r)
        ∧ op.whole? m.toInt n.toInt = some r.toInt := by
    intro k hstep hwhole
    have hfits : Fits k := by
      by_contra hbeyond
      exact h (Or.inr ⟨k, hwhole, hbeyond⟩)
    obtain ⟨r, hr, rfl⟩ := exact_of_fits hfits
    exact ⟨r, hstep.trans hr, hwhole⟩
  cases op with
  | add => exact hexact _ rfl rfl
  | subtract => exact hexact _ rfl rfl
  | multiply => exact hexact _ rfl rfl
  | modulo =>
      have hzero : ¬ n.toInt = 0 := fun hzero => h (Or.inl ⟨rfl, Or.inl hzero⟩)
      have hleast : ¬ (m.toInt = -2 ^ 63 ∧ n.toInt = -1) :=
        fun hleast => h (Or.inl ⟨rfl, Or.inr hleast⟩)
      exact hexact _ ((if_neg hzero).trans (if_neg hleast)) (if_neg hzero)
  | _ => exact absurd hop (by decide)

/-- Beyond the words, one step fails: nothing is wrapped. -/
theorem wholeArithmetic_exceeds {op : BinaryOp} (hop : op ∈ wholeOps) {m n : Int64}
    (h : op.Exceeds m.toInt n.toInt) :
    ∃ fault, (fault = .overflow ∨ fault = .divisionByZero)
      ∧ wholeArithmetic op m n = .error fault := by
  have hexact : ∀ k, wholeArithmetic op m n = exact k →
      op.whole? m.toInt n.toInt = some k → op ≠ .modulo →
      ∃ fault, (fault = .overflow ∨ fault = .divisionByZero)
        ∧ wholeArithmetic op m n = .error fault := by
    intro k hstep hwhole hmodulo
    obtain ⟨hmod, -⟩ | ⟨r, hr, hbeyond⟩ := h
    · exact absurd hmod hmodulo
    · obtain rfl := Option.some.inj (hwhole.symm.trans hr)
      exact ⟨.overflow, Or.inl rfl, hstep.trans (exact_of_not_fits hbeyond)⟩
  cases op with
  | add => exact hexact _ rfl rfl nofun
  | subtract => exact hexact _ rfl rfl nofun
  | multiply => exact hexact _ rfl rfl nofun
  | modulo =>
      by_cases hzero : n.toInt = 0
      · exact ⟨.divisionByZero, Or.inr rfl, if_pos hzero⟩
      · refine ⟨.overflow, Or.inl rfl, (if_neg hzero).trans ?_⟩
        obtain ⟨-, hzero' | hleast⟩ | ⟨r, hr, hbeyond⟩ := h
        · exact absurd hzero' hzero
        · exact if_pos hleast
        · obtain rfl := Option.some.inj ((if_neg hzero).symm.trans hr)
          split
          · rfl
          · exact exact_of_not_fits hbeyond
  | _ => exact absurd hop (by decide)

/-- An operator between two words computes with the words. -/
theorem BinaryOp.apply_whole {op : BinaryOp} (hop : op ∈ wholeOps) (m n : Int64) :
    op.apply (.int m) (.int n) = wholeArithmetic op m n := by
  cases op with
  | add => rfl
  | subtract => rfl
  | multiply => rfl
  | modulo => rfl
  | _ => exact absurd hop (by decide)

/-- Negation is a difference from zero. -/
theorem UnaryOp.apply_negate_whole (n : Int64) :
    UnaryOp.negate.apply (.int n) = exact (-n.toInt) := by
  show exact ((0 : Int64).toInt - n.toInt) = _
  rw [Int64.toInt_zero, Int.zero_sub]

/-! ## Whole expressions -/

theorem Expr.partOf_iff {part e : Expr} :
    part.PartOf e ↔ part = e ∨ ∃ operand ∈ e.operands, part.PartOf operand := by
  constructor
  · intro h
    cases h with
    | whole => exact Or.inl rfl
    | within hoperand h => exact Or.inr ⟨_, hoperand, h⟩
  · rintro (rfl | ⟨operand, hoperand, h⟩)
    · exact .whole
    · exact .within hoperand h

/-- What is computed is what is meant: there is a word, it is the exact value, and no part
    goes beyond the words. -/
def Expr.Computes (l : Library) (s : Scope) (e : Expr) (n : Int64) : Prop :=
  (e.eval l s).outcome = .ok (.int n) ∧ e.value? s = some n.toInt
    ∧ ∀ part : Expr, part.PartOf e → ¬ part.Exceeds s

/-- The evaluation fails, for a part that goes beyond the words. -/
def Expr.GoesBeyond (l : Library) (s : Scope) (e : Expr) : Prop :=
  (∃ fault, (fault = .overflow ∨ fault = .divisionByZero)
      ∧ (e.eval l s).outcome = .error (.fault fault))
    ∧ ∃ part : Expr, part.PartOf e ∧ part.Exceeds s

variable {l : Library} {s : Scope}

/-- A leaf that reads a word has it for its exact value. -/
theorem computes_of_leaf {e : Expr} {n : Int64} (hleaf : e.operands = [])
    (heval : (e.eval l s).outcome = .ok (.int n)) (hexact : e.value? s = some n.toInt) :
    e.Computes l s n := by
  refine ⟨heval, hexact, fun part hpart => ?_⟩
  obtain rfl | ⟨operand, hoperand, -⟩ := Expr.partOf_iff.mp hpart
  · refine Expr.not_exceeds_of_fits hexact (fits_toInt n) fun left right he => ?_
    rw [he] at hleaf
    exact nomatch hleaf
  · rw [hleaf] at hoperand
    exact nomatch hoperand

/-- The negation of a word. -/
theorem negate_cases {operand : Expr} {n : Int64} (h : operand.Computes l s n) :
    (∃ r, (Expr.unary .negate operand).Computes l s r)
      ∨ (Expr.unary .negate operand).GoesBeyond l s := by
  obtain ⟨heval, hvalue, hparts⟩ := h
  have hstep : ((Expr.unary .negate operand).eval l s).outcome
      = (exact (-n.toInt)).mapError .fault := by
    rw [Expr.eval, Run.outcome_bind, heval, ← UnaryOp.apply_negate_whole]
    rfl
  have hexact : (Expr.unary .negate operand).value? s = some (-n.toInt) := by
    rw [Expr.value?, hvalue]
    rfl
  by_cases hfits : Fits (-n.toInt)
  · obtain ⟨r, hr, hword⟩ := exact_of_fits hfits
    refine Or.inl ⟨r, by rw [hstep, hr]; rfl, by rw [hexact, hword], fun part hpart => ?_⟩
    obtain rfl | ⟨operand', hoperand, hwithin⟩ := Expr.partOf_iff.mp hpart
    · exact Expr.not_exceeds_of_fits hexact hfits nofun
    · obtain rfl := List.mem_singleton.mp hoperand
      exact hparts part hwithin
  · refine Or.inr ⟨⟨.overflow, Or.inl rfl, ?_⟩, _, .whole, .outside hexact hfits⟩
    rw [hstep, exact_of_not_fits hfits]
    rfl

/-- An operation between two words. -/
theorem binary_cases {op : BinaryOp} {left right : Expr} {m n : Int64} (hop : op ∈ wholeOps)
    (hleft : left.Computes l s m) (hright : right.Computes l s n) :
    (∃ r, (Expr.binary op left right).Computes l s r)
      ∨ (Expr.binary op left right).GoesBeyond l s := by
  obtain ⟨hevalLeft, hvalueLeft, hpartsLeft⟩ := hleft
  obtain ⟨hevalRight, hvalueRight, hpartsRight⟩ := hright
  have hstep : ((Expr.binary op left right).eval l s).outcome
      = (wholeArithmetic op m n).mapError .fault := by
    rw [Expr.eval, Run.outcome_bind, hevalLeft, ← BinaryOp.apply_whole hop]
    show (right.eval l s >>= fun b => orFault (op.apply (.int m) b)).outcome = _
    rw [Run.outcome_bind, hevalRight]
    rfl
  have hexceeds : (Expr.binary op left right).Exceeds s ↔ op.Exceeds m.toInt n.toInt :=
    Expr.exceeds_binary_iff hvalueLeft hvalueRight
  by_cases hbeyond : op.Exceeds m.toInt n.toInt
  · obtain ⟨fault, hfault, herror⟩ := wholeArithmetic_exceeds hop hbeyond
    refine Or.inr ⟨⟨fault, hfault, ?_⟩, _, .whole, hexceeds.mpr hbeyond⟩
    rw [hstep, herror]
    rfl
  · obtain ⟨r, hr, hwhole⟩ := wholeArithmetic_exact hop hbeyond
    refine Or.inl ⟨r, by rw [hstep, hr]; rfl, ?_, fun part hpart => ?_⟩
    · rw [Expr.value?, hvalueLeft, hvalueRight]
      exact hwhole
    · obtain rfl | ⟨operand, hoperand, hwithin⟩ := Expr.partOf_iff.mp hpart
      · exact fun h => hbeyond (hexceeds.mp h)
      · obtain rfl | hoperand := List.mem_cons.mp hoperand
        · exact hpartsLeft part hwithin
        · obtain rfl := List.mem_singleton.mp hoperand
          exact hpartsRight part hwithin

/-- A failure of an operand that is evaluated is a failure of the whole. -/
theorem Expr.GoesBeyond.within {e operand : Expr} (h : operand.GoesBeyond l s)
    (hoperand : operand ∈ e.operands)
    (hfails : ∀ err, (operand.eval l s).outcome = .error err →
      (e.eval l s).outcome = .error err) : e.GoesBeyond l s := by
  obtain ⟨⟨fault, hfault, herror⟩, part, hpart, hexceeds⟩ := h
  exact ⟨⟨fault, hfault, hfails _ herror⟩, part, .within hoperand hpart, hexceeds⟩

/-- **WHOLE NUMBERS ARE COMPUTED EXACTLY.** Whatever the shape of an expression of whole
    numbers, its evaluation gives the word that is its exact value, and then no part of it
    goes beyond the words; or it fails, with an overflow or a division by zero, and then a
    part of it does.  The induction is on the expression: an operand that fails is never
    followed by an operation, and operands that are exact leave one step. -/
theorem eval_exact_or_beyond (l : Library) {s : Scope} {e : Expr} (h : e.Whole s) :
    (∃ n : Int64, e.Computes l s n) ∨ e.GoesBeyond l s := by
  induction h with
  | literal n => exact Or.inl ⟨n, computes_of_leaf rfl rfl rfl⟩
  | @«variable» name n h =>
      refine Or.inl ⟨n, computes_of_leaf rfl ?_ ?_⟩
      · rw [Expr.eval, h]
        rfl
      · rw [Expr.value?, h]
  | @negate operand h ih =>
      obtain ⟨n, hn⟩ | hbeyond := ih
      · exact negate_cases hn
      · refine Or.inr (hbeyond.within List.mem_cons_self fun err herr => ?_)
        rw [Expr.eval, Run.outcome_bind, herr]
        rfl
  | @binary op left right hop hleft hright ihleft ihright =>
      obtain ⟨m, hm⟩ | hbeyond := ihleft
      · obtain ⟨n, hn⟩ | hbeyond := ihright
        · exact binary_cases hop hm hn
        · refine Or.inr (hbeyond.within (by simp [Expr.operands]) fun err herr => ?_)
          rw [Expr.eval, Run.outcome_bind, hm.1]
          show (right.eval l s >>= fun b => orFault (op.apply (.int m) b)).outcome = _
          rw [Run.outcome_bind, herr]
          rfl
      · refine Or.inr (hbeyond.within List.mem_cons_self fun err herr => ?_)
        rw [Expr.eval, Run.outcome_bind, herr]
        rfl

/-- The remainder of the least word by `-1` is zero, which is a word, and still it is
    refused: the quotient that goes with it is none. -/
theorem least_by_minus_one_goes_beyond :
    let s : Scope := .ofContext (NameMap.empty.insert "x" (.int Int64.minValue))
    let e : Expr := .binary .modulo (.variable "x") (.unary .negate (.literal (.int 1)))
    e.Whole s ∧ e.value? s = some 0 ∧ e.GoesBeyond .empty s := by
  intro s e
  have hleft : (Expr.variable "x").value? s = some (-2 ^ 63) := rfl
  have hright : (Expr.unary .negate (.literal (.int 1))).value? s = some (-1) := rfl
  have hwhole : e.Whole s := .binary (by decide) (.variable rfl) (.negate (.literal 1))
  refine ⟨hwhole, rfl, (eval_exact_or_beyond .empty hwhole).resolve_left ?_⟩
  rintro ⟨n, -, -, hparts⟩
  exact hparts e .whole (.leastByMinusOne hleft hright)

end Cohort.Rule
