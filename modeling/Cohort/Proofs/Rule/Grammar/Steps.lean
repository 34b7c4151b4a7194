import Cohort.Proofs.Rule.Grammar.Derivation

/-! # What a reader has done

    A reader that comes to an expression has gone one of a few ways.  They are
    said here once for each reader, with what it has read on that way by the
    readers of the room below; what is known of these readers is carried up
    by cases on the way. -/

namespace Cohort.Rule

/-! ## Rooms -/

/-- The readers below those of a room. -/
def below : Nat → Option Readers
  | 0 => none
  | room + 1 => some (readers room)

theorem readers_eq (room : Nat) : readers room = Readers.above (below room) := by
  cases room with
  | zero => rfl
  | succ room => rfl

/-- Without a room below nothing is read. -/
theorem conditional_zero (ts : List Token) :
    (readers 0).conditional ts = .error .tooDeep := rfl

theorem exists_of_below {room : Nat} {r : Readers} (h : below room = some r) :
    ∃ m, room = m + 1 ∧ r = readers m := by
  cases room with
  | zero => exact nomatch h
  | succ m => exact ⟨m, rfl, (Option.some.inj h).symm⟩

/-! ## Readers in a row -/

variable {below : Option Readers} {ts rest : List Token} {e : Expr}

theorem exists_ok_of_bind {ε α β : Type} {x : Except ε α} {f : α → Except ε β} {b : β}
    (h : (x >>= f) = .ok b) : ∃ a, x = .ok a ∧ f a = .ok b := by
  cases x with
  | error err => exact nomatch h
  | ok a => exact ⟨a, rfl, h⟩

theorem exists_of_descend {α : Type} {read : Readers → Except Malformed α} {a : α}
    (h : descend below read = .ok a) : ∃ r, below = some r ∧ read r = .ok a := by
  cases below with
  | none => exact nomatch h
  | some r => exact ⟨r, rfl, h⟩

theorem expect_eq_ok_iff {wanted : Token} :
    expect wanted ts = .ok rest ↔ ts = wanted :: rest := by
  constructor
  · intro h
    cases ts with
    | nil => exact nomatch h
    | cons t ts =>
        rw [expect] at h
        by_cases ht : t = wanted
        · rw [if_pos ht] at h
          rw [ht, Except.ok.inj h]
        · rw [if_neg ht] at h
          exact nomatch h
  · rintro rfl
    rw [expect, if_pos rfl]

/-! ## Conditionals and arguments -/

/-- The ways to a conditional. -/
inductive ConditionalRead (r : Readers) (ts rest : List Token) : Expr → Prop where
  | choice {mid mid' : List Token} {condition yes no : Expr}
      (hcondition : r.binary Level.all ts = .ok (condition, .question :: mid))
      (hyes : r.conditional mid = .ok (yes, .colon :: mid'))
      (hno : r.conditional mid' = .ok (no, rest)) :
      ConditionalRead r ts rest (.conditional condition yes no)
  | single {e : Expr} (h : r.binary Level.all ts = .ok (e, rest)) :
      ConditionalRead r ts rest e

theorem conditionalRead (h : readConditional below ts = .ok (e, rest)) :
    ∃ r, below = some r ∧ ConditionalRead r ts rest e := by
  obtain ⟨r, hr, h⟩ := exists_of_descend h
  refine ⟨r, hr, ?_⟩
  obtain ⟨⟨condition, behind⟩, hcondition, h⟩ := exists_ok_of_bind h
  dsimp only at h
  split at h
  · obtain ⟨⟨yes, mid⟩, hyes, h⟩ := exists_ok_of_bind h
    obtain ⟨mid', hcolon, h⟩ := exists_ok_of_bind h
    obtain ⟨⟨no, rest'⟩, hno, h⟩ := exists_ok_of_bind h
    obtain rfl := expect_eq_ok_iff.mp hcolon
    cases h
    exact .choice hcondition hyes hno
  · cases h
    exact .single hcondition

/-- The ways to arguments. -/
inductive ArgumentsRead (conditional : List Token → Reading) :
    List Token → List Expr → List Token → Prop where
  | last {ts rest : List Token} {e : Expr}
      (h : conditional ts = .ok (e, .closeParen :: rest)) :
      ArgumentsRead conditional ts [e] rest
  | more {ts mid rest : List Token} {e : Expr} {others : List Expr}
      (h : conditional ts = .ok (e, .comma :: mid))
      (hothers : ArgumentsRead conditional mid others rest) :
      ArgumentsRead conditional ts (e :: others) rest

theorem argumentsRead {conditional : List Token → Reading} {most : Nat} {es : List Expr}
    (h : readArguments conditional most ts = .ok (es, rest)) :
    ArgumentsRead conditional ts es rest := by
  induction most generalizing ts es with
  | zero => exact nomatch h
  | succ most ih =>
      rw [readArguments] at h
      obtain ⟨⟨first, behind⟩, hfirst, h⟩ := exists_ok_of_bind h
      dsimp only at h
      split at h
      · obtain ⟨⟨others, rest'⟩, hothers, h⟩ := exists_ok_of_bind h
        cases h
        exact .more hfirst (ih hothers)
      · cases h
        exact .last hfirst
      · exact nomatch h

/-! ## Primaries and accesses -/

/-- The ways to a primary. -/
inductive PrimaryRead (conditional : List Token → Reading) :
    List Token → Expr → List Token → Prop where
  | int {n : Int64} {rest : List Token} :
      PrimaryRead conditional (.int n :: rest) (.literal (.int n)) rest
  | float {x : Float} {rest : List Token} :
      PrimaryRead conditional (.float x :: rest) (.literal (.float x)) rest
  | text {s : String} {rest : List Token} :
      PrimaryRead conditional (.text s :: rest) (.literal (.string s)) rest
  | parenthesized {ts rest : List Token} {e : Expr}
      (h : conditional ts = .ok (e, .closeParen :: rest)) :
      PrimaryRead conditional (.openParen :: ts) e rest
  | name {name : String} {rest : List Token} {e : Expr} (hname : Means name e)
      (halone : ∀ function mid, ¬ Calls (.name name :: rest) function mid) :
      PrimaryRead conditional (.name name :: rest) e rest
  | constant {ts rest : List Token} {function : String}
      (hcall : Calls ts function (.closeParen :: rest)) :
      PrimaryRead conditional ts (.call function []) rest
  | call {ts mid rest : List Token} {function : String} {arguments : List Expr}
      (hcall : Calls ts function mid) (h : ArgumentsRead conditional mid arguments rest) :
      PrimaryRead conditional ts (.call function arguments) rest

section Names

variable {conditional : List Token → Reading} {name function : String}
  {ts mid rest : List Token}

theorem readPrimary_name (h : callFront? name ts = none) :
    readPrimary conditional (.name name :: ts) = .ok (nameAlone name, ts) := by
  rw [readPrimary.eq_def]
  dsimp only
  rw [h]

theorem readPrimary_constant (h : callFront? name ts = some (function, .closeParen :: rest)) :
    readPrimary conditional (.name name :: ts) = .ok (.call function [], rest) := by
  rw [readPrimary.eq_def]
  dsimp only
  rw [h]

theorem readPrimary_call (h : callFront? name ts = some (function, mid))
    (hmid : mid.head? ≠ some .closeParen) :
    readPrimary conditional (.name name :: ts)
      = (do
          let (arguments, rest) ← readArguments conditional (mid.length + 1) mid
          .ok (.call function arguments, rest)) := by
  rw [readPrimary.eq_def]
  dsimp only
  rw [h]
  cases mid with
  | nil => rfl
  | cons t mid =>
      cases t with
      | closeParen => exact absurd rfl hmid
      | _ => rfl

end Names

theorem primaryRead {conditional : List Token → Reading}
    (h : readPrimary conditional ts = .ok (e, rest)) :
    PrimaryRead conditional ts e rest := by
  cases ts with
  | nil => exact nomatch h
  | cons t ts =>
      cases t with
      | int n =>
          cases show Except.ok (Expr.literal (.int n), ts) = Except.ok (e, rest) from h
          exact .int
      | float x =>
          cases show Except.ok (Expr.literal (.float x), ts) = Except.ok (e, rest) from h
          exact .float
      | text s =>
          cases show Except.ok (Expr.literal (.string s), ts) = Except.ok (e, rest) from h
          exact .text
      | openParen =>
          obtain ⟨⟨inner, mid⟩, hinner, h⟩ := exists_ok_of_bind h
          obtain ⟨rest', hclose, h⟩ := exists_ok_of_bind h
          obtain rfl := expect_eq_ok_iff.mp hclose
          cases h
          exact .parenthesized hinner
      | name name =>
          cases hcall : callFront? name ts with
          | none =>
              rw [readPrimary_name hcall] at h
              cases h
              exact .name (means_iff.mpr rfl) (not_calls_iff.mpr hcall)
          | some found =>
              obtain ⟨function, mid⟩ := found
              by_cases hclose : mid.head? = some .closeParen
              · obtain ⟨rest', rfl⟩ := List.head?_eq_some_iff.mp hclose
                rw [readPrimary_constant hcall] at h
                cases h
                exact .constant (calls_iff.mpr hcall)
              · rw [readPrimary_call hcall hclose] at h
                obtain ⟨⟨arguments, rest'⟩, harguments, h⟩ := exists_ok_of_bind h
                cases h
                exact .call (calls_iff.mpr hcall) (argumentsRead harguments)
      | closeParen | openBracket | closeBracket | dot | comma | question | colon | op =>
          exact nomatch h

/-- The ways on behind a base. -/
inductive AccessRead (below : Option Readers) (base : Expr) :
    List Token → Expr → List Token → Prop where
  | done {rest : List Token} : AccessRead below base rest base rest
  | property {r : Readers} {ts rest : List Token} {name : String} {e : Expr}
      (hr : below = some r) (h : r.access (.property base name) ts = .ok (e, rest)) :
      AccessRead below base (.dot :: .name name :: ts) e rest
  | index {r : Readers} {ts mid rest : List Token} {key e : Expr} (hr : below = some r)
      (hkey : r.conditional ts = .ok (key, .closeBracket :: mid))
      (h : r.access (.index base key) mid = .ok (e, rest)) :
      AccessRead below base (.openBracket :: ts) e rest

theorem accessRead {base : Expr} (h : readAccess below base ts = .ok (e, rest)) :
    AccessRead below base ts e rest := by
  rw [readAccess.eq_def] at h
  split at h
  · obtain ⟨r, hr, h⟩ := exists_of_descend h
    split at h
    · exact .property hr h
    · exact nomatch h
  · obtain ⟨r, hr, h⟩ := exists_of_descend h
    obtain ⟨⟨key, mid⟩, hkey, h⟩ := exists_ok_of_bind h
    obtain ⟨rest', hclose, h⟩ := exists_ok_of_bind h
    obtain rfl := expect_eq_ok_iff.mp hclose
    exact .index hr hkey h
  · cases h
    exact .done

/-! ## Operators -/

theorem unaryFront?_eq_some {op : UnaryOp} (h : unaryFront? ts = some (op, rest)) :
    ∃ o, ts = .op o :: rest ∧ Heads o op := by
  rw [unaryFront?.eq_def] at h
  split at h
  · next o ts =>
      obtain ⟨op', hop, h⟩ := Option.map_eq_some_iff.mp h
      cases h
      exact ⟨o, rfl, heads_iff.mpr hop⟩
  · exact nomatch h

theorem front?_eq_some {level : Level} {node : Expr → Expr → Expr}
    (h : level.front? ts = some (node, rest)) :
    ∃ o, ts = .op o :: rest ∧ ∀ left right, Joins left right level o (node left right) := by
  rw [Level.front?.eq_def] at h
  split at h
  · next o ts =>
      obtain ⟨node', hnode, h⟩ := Option.map_eq_some_iff.mp h
      cases h
      exact ⟨o, rfl, fun left right => joins_iff.mpr ⟨_, hnode, rfl⟩⟩
  · exact nomatch h

/-- The ways to an operand with operators in front. -/
inductive PrefixedRead (below : Option Readers) :
    List Token → Expr → List Token → Prop where
  | headed {r : Readers} {o : Operator} {op : UnaryOp} {ts rest : List Token} {e : Expr}
      (hr : below = some r) (ho : Heads o op) (h : r.prefixed ts = .ok (e, rest)) :
      PrefixedRead below (.op o :: ts) (.unary op e) rest
  | accessed {ts mid rest : List Token} {base e : Expr}
      (hbase : PrimaryRead (readConditional below) ts base mid)
      (h : AccessRead below base mid e rest) : PrefixedRead below ts e rest

theorem prefixedRead (h : readPrefixed below ts = .ok (e, rest)) :
    PrefixedRead below ts e rest := by
  rw [readPrefixed] at h
  split at h
  · next op mid hfront =>
      obtain ⟨o, rfl, ho⟩ := unaryFront?_eq_some hfront
      obtain ⟨r, hr, h⟩ := exists_of_descend h
      obtain ⟨⟨operand, rest'⟩, hoperand, h⟩ := exists_ok_of_bind h
      cases h
      exact .headed hr ho hoperand
  · obtain ⟨⟨base, mid⟩, hbase, h⟩ := exists_ok_of_bind h
    exact .accessed (primaryRead hbase) (accessRead h)

/-- The ways on behind a left operand. -/
inductive ChainRead (below : Option Readers) (level : Level) (tighter : List Level)
    (left : Expr) : List Token → Expr → List Token → Prop where
  | done {rest : List Token} : ChainRead below level tighter left rest left rest
  | joined {r : Readers} {o : Operator} {ts mid rest : List Token} {right node e : Expr}
      (hr : below = some r) (hright : r.binary tighter ts = .ok (right, mid))
      (hnode : Joins left right level o node)
      (h : r.chain level tighter node mid = .ok (e, rest)) :
      ChainRead below level tighter left (.op o :: ts) e rest

theorem chainRead {level : Level} {tighter : List Level} {left : Expr}
    (h : readChain below level tighter left ts = .ok (e, rest)) :
    ChainRead below level tighter left ts e rest := by
  rw [readChain] at h
  split at h
  · cases h
    exact .done
  · next node behind hfront =>
      obtain ⟨o, rfl, hnode⟩ := front?_eq_some hfront
      obtain ⟨r, hr, h⟩ := exists_of_descend h
      obtain ⟨⟨right, mid⟩, hright, h⟩ := exists_ok_of_bind h
      exact .joined hr hright (hnode left right) h

end Cohort.Rule
