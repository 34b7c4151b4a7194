import Cohort.Proofs.Rule.Variables

/-! # More knowledge never takes an answer back

    The analysis of a rule with some known variables is compared with the
    analysis that knows more of them.  Both are outcomes in three-valued
    truth, ordered by how much they say: unknown lies below everything, and
    an error may take the place of any answer.  The order is kept by `&&`,
    `||` and `!`, also when the side that knows more evaluates only the
    operands it needs, and a plain evaluation is the analysis that knows
    every variable.  What is found for some variables therefore holds for
    every request that brings the others along. -/

namespace Cohort.Rule

/-! ## The order of knowledge -/

/-- What is known stays; the unknown may become anything. -/
def Truth.Below (x y : Truth) : Prop :=
  x = .unknown ∨ x = y

theorem Truth.Below.refl (x : Truth) : x.Below x :=
  Or.inr rfl

/-- A known truth value is below itself only. -/
theorem Truth.Below.eq_of_known {x y : Truth} (h : x.Below y)
    (hx : x ≠ .unknown) : y = x :=
  (h.resolve_left hx).symm

theorem Truth.Below.not {x y : Truth} (h : x.Below y) : x.not.Below y.not := by
  rcases h with rfl | rfl
  · exact Or.inl rfl
  · exact Below.refl _

theorem Truth.Below.and {x x' y y' : Truth} (hx : x.Below x')
    (hy : y.Below y') : (x.and y).Below (x'.and y') := by
  rcases hx with rfl | rfl
  · cases y with
    | true => exact Or.inl rfl
    | unknown => exact Or.inl rfl
    | false =>
        rw [hy.eq_of_known (fun h => nomatch h)]
        cases x' <;> exact Below.refl _
  · rcases hy with rfl | rfl
    · cases x with
      | true => exact Or.inl rfl
      | unknown => exact Or.inl rfl
      | false => exact Below.refl _
    · exact Below.refl _

/-- Disjunction is conjunction of opposites. -/
theorem Truth.or_eq_not_and (x y : Truth) : x.or y = (x.not.and y.not).not := by
  cases x <;> cases y <;> rfl

theorem Truth.Below.or {x x' y y' : Truth} (hx : x.Below x')
    (hy : y.Below y') : (x.or y).Below (x'.or y') := by
  rw [or_eq_not_and, or_eq_not_and]
  exact (hx.not.and hy.not).not

/-- Nothing beside a false operand makes a conjunction true. -/
theorem Truth.Below.and_false {x : Truth} (h : x.Below .false) (y : Truth) :
    (x.and y).Below .false := by
  rcases h with rfl | rfl
  · cases y with
    | true => exact Or.inl rfl
    | unknown => exact Or.inl rfl
    | false => exact Below.refl _
  · exact Below.refl _

/-- Nothing beside a true operand makes a disjunction false. -/
theorem Truth.Below.or_true {x : Truth} (h : x.Below .true) (y : Truth) :
    (x.or y).Below .true := by
  rw [or_eq_not_and]
  exact (h.not.and_false y.not).not

/-! ## Outcomes -/

variable {ε : Type}

/-- An outcome says all that another one says, or it is an error. -/
def Retains (r r' : Except ε Truth) : Prop :=
  ∀ x, r = .ok x → (∃ err, r' = .error err) ∨ ∃ y, r' = .ok y ∧ x.Below y

theorem Retains.refl (r : Except ε Truth) : Retains r r :=
  fun x hx => Or.inr ⟨x, hx, Truth.Below.refl x⟩

/-- A known truth value is retained as it is. -/
theorem Retains.of_known {r r' : Except ε Truth} (h : Retains r r') {x : Truth}
    (hx : x ≠ .unknown) (hr : r = .ok x) :
    r' = .ok x ∨ ∃ err, r' = .error err := by
  rcases h x hr with herr | ⟨y, hy, hxy⟩
  · exact Or.inr herr
  · exact Or.inl (hxy.eq_of_known hx ▸ hy)

theorem retains_unknown (r : Except ε Truth) : Retains (.ok .unknown) r := by
  intro x hx
  cases r with
  | error err => exact Or.inl ⟨err, rfl⟩
  | ok y => exact Or.inr ⟨y, rfl, Or.inl (Except.ok.inj hx).symm⟩

/-- The outcome of a connective whose operands are both evaluated. -/
def both (op : Truth → Truth → Truth) (a b : Except ε Truth) :
    Except ε Truth :=
  a.bind fun x => b.bind fun y => .ok (op x y)

theorem both_eq_ok {op : Truth → Truth → Truth} {a b : Except ε Truth}
    {z : Truth} (h : both op a b = .ok z) :
    ∃ x y, a = .ok x ∧ b = .ok y ∧ op x y = z := by
  cases a with
  | error _ => exact nomatch h
  | ok x =>
      cases b with
      | error _ => exact nomatch h
      | ok y => exact ⟨x, y, rfl, rfl, Except.ok.inj h⟩

/-- What an evaluation of a connective may come to when it need not look at
    its second operand: an error, the value at which it stops after the first
    operand, or the connective of both. -/
def Connects (op : Truth → Truth → Truth) (stop : Truth)
    (a b r : Except ε Truth) : Prop :=
  (∃ err, r = .error err) ∨ (a = .ok stop ∧ r = .ok stop) ∨
    ∃ x y, a = .ok x ∧ b = .ok y ∧ r = .ok (op x y)

/-- Evaluating both operands is one way to evaluate a connective. -/
theorem connects_both (op : Truth → Truth → Truth) (stop : Truth)
    (a b : Except ε Truth) : Connects op stop a b (both op a b) := by
  cases a with
  | error err => exact Or.inl ⟨err, rfl⟩
  | ok x =>
      cases b with
      | error err => exact Or.inl ⟨err, rfl⟩
      | ok y => exact Or.inr (Or.inr ⟨x, y, rfl, rfl, rfl⟩)

/-- **CONNECTIVES KEEP KNOWLEDGE**, whether or not the side that knows more
    stops after its first operand. -/
theorem Retains.connect {op : Truth → Truth → Truth} {stop : Truth}
    (hmono : ∀ {x x' y y' : Truth}, x.Below x' → y.Below y' →
      (op x y).Below (op x' y'))
    (hstop : ∀ {x : Truth}, x.Below stop → ∀ y, (op x y).Below stop)
    {a a' b b' r' : Except ε Truth} (ha : Retains a a') (hb : Retains b b')
    (hr' : Connects op stop a' b' r') : Retains (both op a b) r' := by
  intro z hz
  obtain ⟨x, y, hx, hy, rfl⟩ := both_eq_ok hz
  rcases hr' with herr | ⟨ha', hr'⟩ | ⟨x', y', ha', hb', hr'⟩
  · exact Or.inl herr
  · -- stopped after the first operand, whatever the second would have been
    rcases ha x hx with ⟨err, he⟩ | ⟨w, hw, hxw⟩
    · rw [ha'] at he
      exact nomatch he
    · rw [ha'] at hw
      rw [← Except.ok.inj hw] at hxw
      exact Or.inr ⟨stop, hr', hstop hxw y⟩
  · rcases ha x hx with ⟨err, he⟩ | ⟨w, hw, hxw⟩
    · rw [ha'] at he
      exact nomatch he
    · rcases hb y hy with ⟨err, he⟩ | ⟨v, hv, hyv⟩
      · rw [hb'] at he
        exact nomatch he
      · rw [ha'] at hw
        rw [hb'] at hv
        rw [← Except.ok.inj hw] at hxw
        rw [← Except.ok.inj hv] at hyv
        exact Or.inr ⟨op x' y', hr', hmono hxw hyv⟩

/-- A negation comes to an error or to the opposite of its operand. -/
def Negates (a r : Except ε Truth) : Prop :=
  (∃ err, r = .error err) ∨ ∃ x, a = .ok x ∧ r = .ok x.not

theorem Retains.negate {a a' r' : Except ε Truth} (ha : Retains a a')
    (hr' : Negates a' r') : Retains (a.bind fun x => .ok x.not) r' := by
  intro z hz
  cases a with
  | error _ => exact nomatch hz
  | ok x =>
      rw [← Except.ok.inj hz]
      rcases hr' with herr | ⟨x', ha', hr'⟩
      · exact Or.inl herr
      · rcases ha x rfl with ⟨err, he⟩ | ⟨y, hy, hxy⟩
        · rw [ha'] at he
          exact nomatch he
        · rw [ha'] at hy
          rw [← Except.ok.inj hy] at hxy
          exact Or.inr ⟨x'.not, hr', hxy.not⟩

end Cohort.Rule
