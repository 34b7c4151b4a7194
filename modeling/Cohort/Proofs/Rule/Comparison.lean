import Cohort.Proofs.Decimal.Order
import Cohort.Rule.Operation

/-! # The comparisons agree with each other

    Equality and order coerce their operands each in its own way: equality
    knows more pairs than order does, and asks booleans for their truth.  But
    wherever there is an order, both have read the same two numbers, or
    compared the same two texts, and then one comparison decides all six
    operators.  That it is seen the same from both sides is inherited from
    numbers and texts; a NaN is the only thing that has no place in it. -/

namespace Cohort.Rule

/-! ## Numbers -/

theorem floatOrder_eq (x y : Float) :
    floatOrder x y = x.toModel.unpack.compare y.toModel.unpack := by
  rw [floatOrder]
  simp only [Decimal.lt_iff_compare, Decimal.beq_iff_compare,
    Decimal.compare_swap x.toModel.unpack]
  cases x.toModel.unpack.compare y.toModel.unpack with
  | none => rfl
  | some o => cases o <;> rfl

/-- A float that is no number. -/
def Number.IsNaN : Number → Prop
  | .int _ => False
  | .float x => x.isNaN = true

/-- A whole number never becomes a NaN. -/
theorem Number.isNaN_toFloat (a : Number) : a.toFloat.isNaN = true ↔ a.IsNaN := by
  cases a with
  | int n =>
      have hfinite : (Decimal.floatOf64 n).isFinite = true :=
        Decimal.isFinite_ofInt n.le_toInt (Int.lt_of_lt_of_le n.toInt_lt (by decide))
      have hnumber : (Number.int n).toFloat.isNaN = false :=
        Decimal.isNaN_of_isFinite hfinite
      rw [hnumber]
      exact ⟨fun h => (nomatch h), fun h => nomatch h⟩
  | float x => exact Iff.rfl

/-- All pairs but two whole numbers are compared as floats. -/
theorem Number.order_cases (a b : Number) :
    (∃ m n, a = .int m ∧ b = .int n) ∨
      (a.order b = floatOrder a.toFloat b.toFloat ∧
        b.order a = floatOrder b.toFloat a.toFloat) := by
  cases a with
  | int m =>
      cases b with
      | int n => exact Or.inl ⟨m, n, rfl, rfl⟩
      | float y => exact Or.inr ⟨rfl, rfl⟩
  | float x => cases b <;> exact Or.inr ⟨rfl, rfl⟩

theorem Number.order_swap (a b : Number) : b.order a = (a.order b).map Ordering.swap := by
  rcases Number.order_cases a b with ⟨m, n, rfl, rfl⟩ | ⟨hab, hba⟩
  · exact congrArg some (Int.compare_swap m.toInt n.toInt).symm
  · rw [hab, hba, floatOrder_eq, floatOrder_eq, Decimal.compare_swap]

theorem Number.order_eq_none_iff (a b : Number) :
    a.order b = none ↔ a.IsNaN ∨ b.IsNaN := by
  rcases Number.order_cases a b with ⟨m, n, rfl, rfl⟩ | ⟨hab, -⟩
  · exact ⟨fun h => (nomatch h), fun h => h.elim False.elim False.elim⟩
  · rw [hab, floatOrder_eq, Decimal.compare_eq_none_iff, ← Number.isNaN_toFloat,
      ← Number.isNaN_toFloat]
    rfl

/-! ## Values -/

mutual

/-- Sameness has no direction. -/
theorem same_comm : ∀ a b : Value, b.same a = a.same b
  | .null, b => by cases b <;> rfl
  | .bool x, b => by
      cases b with
      | bool y => exact Bool.beq_comm
      | _ => rfl
  | .int m, b => by
      cases b with
      | int n => exact BEq.comm
      | _ => rfl
  | .float x, b => by
      cases b with
      | float y =>
          rw [Value.same, Value.same, Bool.eq_iff_iff, Decimal.beq_iff_compare,
            Decimal.beq_iff_compare, Decimal.compare_swap x.toModel.unpack]
          cases x.toModel.unpack.compare y.toModel.unpack with
          | none => exact Iff.rfl
          | some o => cases o <;> decide
      | _ => rfl
  | .string s, b => by
      cases b with
      | string t => exact BEq.comm
      | _ => rfl
  | .list as, b => by
      cases b with
      | list bs => exact sameItems_comm as bs
      | _ => rfl
  | .map as, b => by
      cases b with
      | map bs => exact sameEntries_comm as bs
      | _ => rfl

theorem sameItems_comm : ∀ as bs : List Value, Value.sameItems bs as = Value.sameItems as bs
  | [], bs => by cases bs <;> rfl
  | a :: as, bs => by
      cases bs with
      | nil => rfl
      | cons b bs => rw [Value.sameItems, Value.sameItems, same_comm a b, sameItems_comm as bs]

theorem sameEntries_comm : ∀ as bs : List (String × Value),
    Value.sameEntries bs as = Value.sameEntries as bs
  | [], bs => by cases bs <;> rfl
  | (k, a) :: as, bs => by
      cases bs with
      | nil => rfl
      | cons b bs =>
          rw [Value.sameEntries, Value.sameEntries, same_comm a b.2, sameEntries_comm as bs,
            BEq.comm]

end

/-- Both operands are read as numbers from the other side, or one of them is refused from
    there as well. -/
theorem toOption_numbers_swap (a b : Value) :
    (numbers b a).toOption = (numbers a b).toOption.map Prod.swap := by
  rw [numbers, numbers]
  cases number? a with
  | none => cases number? b <;> rfl
  | some x => cases number? b <;> rfl

theorem toOption_map {α β : Type} (f : α → β) (r : Except Fault α) :
    (r.map f).toOption = r.toOption.map f := by
  cases r <;> rfl

/-- Two values other than null are ordered as numbers as soon as one of them is a
    number, and otherwise as texts. -/
theorem ordering_eq {a b : Value} (ha : a.isNull = false) (hb : b.isNull = false) :
    ordering a b =
      if isNumber a || isNumber b then (numbers a b).map fun (x, y) => x.order y
      else match a, b with
        | .string s, .string t => .ok (some (compare s t))
        | _, _ => .error (.unordered a.kind b.kind) := by
  cases a with
  | null => exact nomatch ha
  | _ =>
      cases b with
      | null => exact nomatch hb
      | _ => rfl

theorem ordering_null {a b : Value} (h : a.isNull = true ∨ b.isNull = true) :
    ordering a b = .ok none := by
  cases a with
  | null => rfl
  | _ =>
      cases b with
      | null => rfl
      | _ => exact h.elim nofun nofun

/-- **ORDER FROM BOTH SIDES**: the operands are ordered the other way round, or cannot be
    ordered either. -/
theorem toOption_ordering_swap (a b : Value) :
    (ordering b a).toOption = (ordering a b).toOption.map (·.map Ordering.swap) := by
  by_cases hnull : a.isNull = true ∨ b.isNull = true
  · rw [ordering_null hnull, ordering_null hnull.symm]
    rfl
  · rw [not_or, Bool.not_eq_true, Bool.not_eq_true] at hnull
    rw [ordering_eq hnull.1 hnull.2, ordering_eq hnull.2 hnull.1, Bool.or_comm (isNumber b)]
    by_cases hnumber : (isNumber a || isNumber b) = true
    · rw [if_pos hnumber, if_pos hnumber, toOption_map, toOption_map, toOption_numbers_swap,
        Option.map_map, Option.map_map]
      exact congrArg (fun f => (numbers a b).toOption.map f)
        (funext fun pair => Number.order_swap pair.1 pair.2)
    · rw [if_neg hnumber, if_neg hnumber]
      cases a with
      | string s =>
          cases b with
          | string t => exact congrArg (fun o => some (some o)) (Std.OrientedOrd.eq_swap)
          | _ => rfl
      | _ => cases b <;> rfl

theorem areEqual_eq {a b : Value} (ha : a.isNull = false) (hb : b.isNull = false) :
    areEqual a b =
      if isNumber a || isNumber b then
        (numbers a b).map fun (x, y) => x.order y == some .eq
      else match a, b with
        | .bool _, _ => areEqual.truthsAgree a b
        | _, .bool _ => areEqual.truthsAgree a b
        | .string s, .string t => .ok (s == t)
        | .list _, .list _ => .ok (a.same b)
        | .map _, .map _ => .ok (a.same b)
        | _, _ => .error (.incomparable a.kind b.kind) := by
  cases a with
  | null => exact nomatch ha
  | _ =>
      cases b with
      | null => exact nomatch hb
      | _ => rfl

theorem areEqual_null {a b : Value} (h : a.isNull = true ∨ b.isNull = true) :
    areEqual a b = .ok (a.isNull && b.isNull) := by
  cases a with
  | null => cases b <;> rfl
  | _ =>
      cases b with
      | null => rfl
      | _ => exact h.elim nofun nofun

theorem toOption_truthsAgree_comm (a b : Value) :
    (areEqual.truthsAgree b a).toOption = (areEqual.truthsAgree a b).toOption := by
  rw [areEqual.truthsAgree, areEqual.truthsAgree]
  cases truth a with
  | error e => cases truth b <;> rfl
  | ok x =>
      cases truth b with
      | error e => rfl
      | ok y => exact congrArg some Bool.beq_comm

/-- **EQUALITY FROM BOTH SIDES**: it says the same, or fails from either. -/
theorem toOption_areEqual_comm (a b : Value) :
    (areEqual b a).toOption = (areEqual a b).toOption := by
  by_cases hnull : a.isNull = true ∨ b.isNull = true
  · rw [areEqual_null hnull, areEqual_null hnull.symm, Bool.and_comm]
  · rw [not_or, Bool.not_eq_true, Bool.not_eq_true] at hnull
    rw [areEqual_eq hnull.1 hnull.2, areEqual_eq hnull.2 hnull.1, Bool.or_comm (isNumber b)]
    by_cases hnumber : (isNumber a || isNumber b) = true
    · rw [if_pos hnumber, if_pos hnumber, toOption_map, toOption_map, toOption_numbers_swap,
        Option.map_map]
      refine congrArg (fun f => (numbers a b).toOption.map f) (funext fun pair => ?_)
      show (pair.2.order pair.1 == some .eq) = (pair.1.order pair.2 == some .eq)
      rw [Number.order_swap pair.1 pair.2]
      cases pair.1.order pair.2 with
      | none => rfl
      | some o => cases o <;> rfl
    · rw [if_neg hnumber, if_neg hnumber]
      cases a with
      | bool x => cases b <;> exact toOption_truthsAgree_comm _ _
      | string s =>
          cases b with
          | bool y => exact toOption_truthsAgree_comm _ _
          | string t => exact congrArg some BEq.comm
          | _ => rfl
      | list as =>
          cases b with
          | bool y => exact toOption_truthsAgree_comm _ _
          | list bs => exact congrArg some (same_comm (.list as) (.list bs))
          | _ => rfl
      | map as =>
          cases b with
          | bool y => exact toOption_truthsAgree_comm _ _
          | map bs => exact congrArg some (same_comm (.map as) (.map bs))
          | _ => rfl
      | _ =>
          cases b with
          | bool y => exact toOption_truthsAgree_comm _ _
          | _ => rfl

/-- **ONE COMPARISON DECIDES**: where two values other than null have been ordered,
    equality has compared the same numbers or texts. -/
theorem areEqual_of_ordering {a b : Value} {o : Option Ordering} (h : ordering a b = .ok o)
    (ha : a.isNull = false) (hb : b.isNull = false) :
    areEqual a b = .ok (o == some .eq) := by
  rw [ordering_eq ha hb] at h
  rw [areEqual_eq ha hb]
  by_cases hnumber : (isNumber a || isNumber b) = true
  · rw [if_pos hnumber] at h ⊢
    cases hpair : numbers a b with
    | error e =>
        rw [hpair] at h
        exact nomatch h
    | ok pair =>
        rw [hpair] at h
        obtain rfl : pair.1.order pair.2 = o := Except.ok.inj h
        rfl
  · rw [if_neg hnumber] at h ⊢
    cases a with
    | string s =>
        cases b with
        | string t =>
            obtain rfl : some (compare s t) = o := Except.ok.inj h
            refine congrArg Except.ok ?_
            rw [Bool.eq_iff_iff, beq_iff_eq, beq_iff_eq, Option.some_inj,
              Std.LawfulEqOrd.compare_eq_iff_eq]
        | _ => exact nomatch h
    | _ => cases b <;> exact nomatch h

/-! ## Operators -/

/-- Both say the same truth, or both fail. -/
def Agree (x y : Except Fault Value) : Prop :=
  (∃ r : Bool, x = .ok (.bool r) ∧ y = .ok (.bool r)) ∨
    ((∃ e, x = .error e) ∧ ∃ e, y = .error e)

theorem agree_of_toOption {x y : Except Fault Bool} (h : x.toOption = y.toOption) :
    Agree (x.map .bool) (y.map .bool) := by
  cases x with
  | error e =>
      cases y with
      | error e' => exact Or.inr ⟨⟨e, rfl⟩, e', rfl⟩
      | ok r => exact nomatch h
  | ok r =>
      cases y with
      | error e => exact nomatch h
      | ok r' =>
          obtain rfl : r = r' := Option.some.inj h
          exact Or.inl ⟨r, rfl, rfl⟩

theorem ordered_eq (test : Ordering → Bool) (a b : Value) :
    ordered test a b = ((ordering a b).map (·.any test)).map .bool := by
  rw [ordered]
  cases ordering a b <;> rfl

/-- A test of the order, and the opposite test from the other side. -/
theorem agree_ordered_swap {test test' : Ordering → Bool}
    (htest : ∀ o, test' o.swap = test o) (a b : Value) :
    Agree (ordered test a b) (ordered test' b a) := by
  rw [ordered_eq, ordered_eq]
  refine agree_of_toOption ?_
  rw [toOption_map, toOption_map, toOption_ordering_swap a b, Option.map_map]
  refine congrArg (fun f => (ordering a b).toOption.map f) (funext fun o => ?_)
  cases o with
  | none => rfl
  | some o => exact (htest o).symm

/-- The comparison of the two values reads numbers, as it does as soon as one of the values
    is a number, and one of these is a NaN. Two texts are compared as texts, whatever
    they spell. -/
def ReadsNaN (a b : Value) : Prop :=
  (isNumber a || isNumber b) = true ∧
    ∃ x : Number, x.IsNaN ∧ (number? a = some x ∨ number? b = some x)

/-- Values that can be ordered are without an order only if a NaN is among them. -/
theorem eq_none_iff_readsNaN {a b : Value} {o : Option Ordering} (h : ordering a b = .ok o)
    (ha : a.isNull = false) (hb : b.isNull = false) : o = none ↔ ReadsNaN a b := by
  rw [ordering_eq ha hb] at h
  by_cases hnumber : (isNumber a || isNumber b) = true
  · rw [if_pos hnumber, numbers] at h
    cases hx : number? a with
    | none =>
        rw [hx] at h
        exact nomatch h
    | some x =>
        cases hy : number? b with
        | none =>
            rw [hx, hy] at h
            exact nomatch h
        | some y =>
            rw [hx, hy] at h
            obtain rfl : x.order y = o := Except.ok.inj h
            rw [Number.order_eq_none_iff, ReadsNaN, hx, hy]
            constructor
            · rintro (hnan | hnan)
              · exact ⟨hnumber, x, hnan, Or.inl rfl⟩
              · exact ⟨hnumber, y, hnan, Or.inr rfl⟩
            · rintro ⟨-, z, hnan, hz | hz⟩
              · exact Or.inl (Option.some.inj hz ▸ hnan)
              · exact Or.inr (Option.some.inj hz ▸ hnan)
  · rw [if_neg hnumber] at h
    refine ⟨fun hnone => ?_, fun hnan => absurd hnan.1 hnumber⟩
    cases a with
    | string s =>
        cases b with
        | string t =>
            obtain rfl : some (compare s t) = o := Except.ok.inj h
            exact nomatch hnone
        | _ => exact nomatch h
    | _ => cases b <;> exact nomatch h

/-- An operator of order has found what the comparison found. -/
theorem exists_ordering_of_apply {op : BinaryOp} {a b v : Value}
    (hop : op ∈ [BinaryOp.less, .greater, .lessEqual, .greaterEqual])
    (h : op.apply a b = .ok v) : ∃ o, ordering a b = .ok o := by
  have hordered : ∃ test, ordered test a b = .ok v := by
    rcases List.mem_cons.mp hop with rfl | hop
    · exact ⟨_, h⟩
    · rcases List.mem_cons.mp hop with rfl | hop
      · exact ⟨_, h⟩
      · rcases List.mem_cons.mp hop with rfl | hop
        · exact ⟨_, h⟩
        · obtain rfl := List.mem_singleton.mp hop
          exact ⟨_, h⟩
  obtain ⟨test, htest⟩ := hordered
  rw [ordered] at htest
  cases ho : ordering a b with
  | error e =>
      rw [ho] at htest
      exact nomatch htest
  | ok o => exact ⟨o, rfl⟩

/-- **COMPARISONS COHERE**: `==` has no direction, and `<` and `<=` are `>` and `>=` from
    the other side.  Where two values other than null can be ordered they can be
    asked for equality; `<=` and `>=` hold where `<` or `>` does, or `==`; and of
    these three just one holds, but none beside a NaN. -/
theorem comparisons_cohere (a b : Value) :
    Agree (BinaryOp.equal.apply a b) (BinaryOp.equal.apply b a) ∧
    Agree (BinaryOp.less.apply a b) (BinaryOp.greater.apply b a) ∧
    Agree (BinaryOp.lessEqual.apply a b) (BinaryOp.greaterEqual.apply b a) ∧
    ∀ op ∈ [BinaryOp.less, .greater, .lessEqual, .greaterEqual], ∀ v,
      op.apply a b = .ok v → a.isNull = false → b.isNull = false →
      ∃ less equal greater : Bool,
        BinaryOp.less.apply a b = .ok (.bool less) ∧
        BinaryOp.equal.apply a b = .ok (.bool equal) ∧
        BinaryOp.greater.apply a b = .ok (.bool greater) ∧
        BinaryOp.lessEqual.apply a b = .ok (.bool (less || equal)) ∧
        BinaryOp.greaterEqual.apply a b = .ok (.bool (greater || equal)) ∧
        (ReadsNaN a b → [less, equal, greater].count true = 0) ∧
        (¬ ReadsNaN a b → [less, equal, greater].count true = 1) := by
  refine ⟨agree_of_toOption (toOption_areEqual_comm a b).symm, ?_, ?_, ?_⟩
  · exact agree_ordered_swap (fun o => by cases o <;> rfl) a b
  · exact agree_ordered_swap (fun o => by cases o <;> rfl) a b
  · intro op hop v h ha hb
    obtain ⟨o, ho⟩ := exists_ordering_of_apply hop h
    have hequal : BinaryOp.equal.apply a b = .ok (.bool (o == some .eq)) := by
      show (areEqual a b).map Value.bool = _
      rw [areEqual_of_ordering ho ha hb]
      rfl
    have hordered : ∀ test, ordered test a b = .ok (.bool (o.any test)) := by
      intro test
      rw [ordered, ho]
      rfl
    have hnan := eq_none_iff_readsNaN ho ha hb
    refine ⟨o.any (· == Ordering.lt), o == some .eq, o.any (· == Ordering.gt),
      hordered _, hequal, hordered _, (hordered _).trans ?_, (hordered _).trans ?_,
      fun h => ?_, fun h => ?_⟩
    · cases o with
      | none => rfl
      | some o => cases o <;> rfl
    · cases o with
      | none => rfl
      | some o => cases o <;> rfl
    · rw [hnan.mpr h]
      rfl
    · cases o with
      | none => exact absurd (hnan.mp rfl) h
      | some o => cases o <;> rfl

/-- The least whole number that is no float is equal to the float below it, since that is
    what it is compared as; and so it is neither less nor greater. -/
theorem next_whole_number_coheres :
    let a : Value := .int 9007199254740993
    let b : Value := .string " 9007199254740992.0 "
    BinaryOp.lessEqual ∈ [BinaryOp.less, .greater, .lessEqual, .greaterEqual] ∧
    BinaryOp.lessEqual.apply a b = .ok (.bool true) ∧ a.isNull = false ∧ b.isNull = false ∧
    BinaryOp.equal.apply a b = .ok (.bool true) ∧
    ∃ less equal greater : Bool,
      BinaryOp.less.apply a b = .ok (.bool less) ∧
      BinaryOp.equal.apply a b = .ok (.bool equal) ∧
      BinaryOp.greater.apply a b = .ok (.bool greater) ∧
      BinaryOp.lessEqual.apply a b = .ok (.bool (less || equal)) ∧
      BinaryOp.greaterEqual.apply a b = .ok (.bool (greater || equal)) ∧
      (ReadsNaN a b → [less, equal, greater].count true = 0) ∧
      (¬ ReadsNaN a b → [less, equal, greater].count true = 1) := by
  intro a b
  have hop : BinaryOp.lessEqual ∈ [BinaryOp.less, .greater, .lessEqual, .greaterEqual] := by
    decide
  have hle : BinaryOp.lessEqual.apply a b = .ok (.bool true) := rfl
  obtain ⟨-, -, -, hcohere⟩ := comparisons_cohere a b
  exact ⟨hop, hle, rfl, rfl, rfl, hcohere .lessEqual hop (.bool true) hle rfl rfl⟩

end Cohort.Rule
