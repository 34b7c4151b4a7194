import Cohort.Rule.Grammar

/-! # The grammar of rules

    The grammar is given without a reader: as the relation of a list of tokens,
    the tree of a phrase at its front, and the tokens behind that phrase.
    Operators of one level lean to the left because their left operand is of
    the same level and their right one of the next.

    A name is a call whenever the tokens behind it allow that, so that in
    `a ? b : f(x)` the colon is no part of the conditional.  This is the
    one place where a production asks what stands behind its phrase. -/

namespace Cohort.Rule

/-! ## Operators, names and calls -/

/-- The phrases of a rule, from loose to tight. -/
inductive Phrase where
  | conditional
  | binary (level : Level)
  | prefixed
  | access
  | primary

/-- What stands behind an operator of the level: a phrase that is tighter. -/
def Level.operand : Level → Phrase
  | .or => .binary .and
  | .and => .binary .equality
  | .equality => .binary .order
  | .order => .binary .sum
  | .sum => .binary .product
  | .product => .prefixed

/-- The operators of each level, and the tree of each over its operands. -/
inductive Joins (left right : Expr) : Level → Operator → Expr → Prop where
  | or : Joins left right .or .either (.or left right)
  | and : Joins left right .and .both (.and left right)
  | equal : Joins left right .equality .equal (.binary .equal left right)
  | notEqual : Joins left right .equality .notEqual (.binary .notEqual left right)
  | less : Joins left right .order .less (.binary .less left right)
  | greater : Joins left right .order .greater (.binary .greater left right)
  | lessEqual : Joins left right .order .lessEqual (.binary .lessEqual left right)
  | greaterEqual :
      Joins left right .order .greaterEqual (.binary .greaterEqual left right)
  | plus : Joins left right .sum .plus (.binary .add left right)
  | minus : Joins left right .sum .minus (.binary .subtract left right)
  | times : Joins left right .product .times (.binary .multiply left right)
  | divide : Joins left right .product .divide (.binary .divide left right)
  | modulo : Joins left right .product .modulo (.binary .modulo left right)

/-- The operators in front of an operand. -/
inductive Heads : Operator → UnaryOp → Prop where
  | not : Heads .not .not
  | minus : Heads .minus .negate
  | empty : Heads .empty .empty

/-- What a name means by itself. -/
inductive Means : String → Expr → Prop where
  | yes : Means "true" (.literal (.bool true))
  | no : Means "false" (.literal (.bool false))
  | null : Means "null" (.literal .null)
  | other {name : String} (h : name ∉ ["true", "false", "null"]) :
      Means name (.variable name)

/-- A call of a function starts the tokens, up to its opening parenthesis. -/
inductive Calls : List Token → String → List Token → Prop where
  | plain {name : String} {rest : List Token} :
      Calls (.name name :: .openParen :: rest) name rest
  | namespaced {space name : String} {rest : List Token} :
      Calls (.name space :: .colon :: .name name :: .openParen :: rest)
        (space ++ ":" ++ name) rest

/-! ## Phrases -/

mutual

/-- **THE GRAMMAR**: a phrase with its tree starts the tokens, and the rest stands
    behind it. -/
inductive Derives : Phrase → List Token → Expr → List Token → Prop where
  | choice {ts mid mid' rest : List Token} {condition yes no : Expr}
      (hcondition : Derives (.binary .or) ts condition (.question :: mid))
      (hyes : Derives .conditional mid yes (.colon :: mid'))
      (hno : Derives .conditional mid' no rest) :
      Derives .conditional ts (.conditional condition yes no) rest
  | single {ts rest : List Token} {e : Expr} (h : Derives (.binary .or) ts e rest) :
      Derives .conditional ts e rest
  | joined {level : Level} {o : Operator} {ts mid rest : List Token}
      {left right e : Expr} (hleft : Derives (.binary level) ts left (.op o :: mid))
      (hright : Derives level.operand mid right rest)
      (hnode : Joins left right level o e) : Derives (.binary level) ts e rest
  | operand {level : Level} {ts rest : List Token} {e : Expr}
      (h : Derives level.operand ts e rest) : Derives (.binary level) ts e rest
  | headed {o : Operator} {op : UnaryOp} {ts rest : List Token} {e : Expr}
      (ho : Heads o op) (h : Derives .prefixed ts e rest) :
      Derives .prefixed (.op o :: ts) (.unary op e) rest
  | accessed {ts rest : List Token} {e : Expr} (h : Derives .access ts e rest) :
      Derives .prefixed ts e rest
  | property {ts rest : List Token} {base : Expr} {name : String}
      (h : Derives .access ts base (.dot :: .name name :: rest)) :
      Derives .access ts (.property base name) rest
  | index {ts mid rest : List Token} {base key : Expr}
      (hbase : Derives .access ts base (.openBracket :: mid))
      (hkey : Derives .conditional mid key (.closeBracket :: rest)) :
      Derives .access ts (.index base key) rest
  | base {ts rest : List Token} {e : Expr} (h : Derives .primary ts e rest) :
      Derives .access ts e rest
  | int {n : Int64} {rest : List Token} :
      Derives .primary (.int n :: rest) (.literal (.int n)) rest
  | float {x : Float} {rest : List Token} :
      Derives .primary (.float x :: rest) (.literal (.float x)) rest
  | text {s : String} {rest : List Token} :
      Derives .primary (.text s :: rest) (.literal (.string s)) rest
  | parenthesized {ts rest : List Token} {e : Expr}
      (h : Derives .conditional ts e (.closeParen :: rest)) :
      Derives .primary (.openParen :: ts) e rest
  | name {name : String} {rest : List Token} {e : Expr} (hname : Means name e)
      (halone : ∀ function mid, ¬ Calls (.name name :: rest) function mid) :
      Derives .primary (.name name :: rest) e rest
  | constant {ts rest : List Token} {function : String}
      (hcall : Calls ts function (.closeParen :: rest)) :
      Derives .primary ts (.call function []) rest
  | call {ts mid rest : List Token} {function : String} {arguments : List Expr}
      (hcall : Calls ts function mid) (h : DerivesArguments mid arguments rest) :
      Derives .primary ts (.call function arguments) rest

/-- Arguments with commas between them start the tokens, and the rest stands
    behind the closing parenthesis. -/
inductive DerivesArguments : List Token → List Expr → List Token → Prop where
  | last {ts rest : List Token} {e : Expr}
      (h : Derives .conditional ts e (.closeParen :: rest)) :
      DerivesArguments ts [e] rest
  | more {ts mid rest : List Token} {e : Expr} {others : List Expr}
      (h : Derives .conditional ts e (.comma :: mid))
      (hothers : DerivesArguments mid others rest) :
      DerivesArguments ts (e :: others) rest

end

/-! ## The tables of the readers -/

theorem joins_iff {level : Level} {o : Operator} {left right e : Expr} :
    Joins left right level o e ↔ ∃ node, level.node? o = some node ∧ e = node left right := by
  constructor
  · intro h
    cases h with
    | or => exact ⟨_, rfl, rfl⟩
    | and => exact ⟨_, rfl, rfl⟩
    | equal => exact ⟨_, rfl, rfl⟩
    | notEqual => exact ⟨_, rfl, rfl⟩
    | less => exact ⟨_, rfl, rfl⟩
    | greater => exact ⟨_, rfl, rfl⟩
    | lessEqual => exact ⟨_, rfl, rfl⟩
    | greaterEqual => exact ⟨_, rfl, rfl⟩
    | plus => exact ⟨_, rfl, rfl⟩
    | minus => exact ⟨_, rfl, rfl⟩
    | times => exact ⟨_, rfl, rfl⟩
    | divide => exact ⟨_, rfl, rfl⟩
    | modulo => exact ⟨_, rfl, rfl⟩
  · rintro ⟨node, hnode, rfl⟩
    revert hnode
    fun_cases Level.node? level o <;> intro hnode <;> cases hnode <;> constructor

theorem heads_iff {o : Operator} {op : UnaryOp} : Heads o op ↔ unary? o = some op := by
  constructor
  · intro h
    cases h with
    | not => rfl
    | minus => rfl
    | empty => rfl
  · intro h
    revert h
    fun_cases unary? o <;> intro h <;> cases h <;> constructor

theorem means_iff {name : String} {e : Expr} : Means name e ↔ e = nameAlone name := by
  constructor
  · intro h
    cases h with
    | yes => rfl
    | no => rfl
    | null => rfl
    | other h =>
        simp only [List.mem_cons, List.not_mem_nil, or_false, not_or] at h
        rw [nameAlone, if_neg h.1, if_neg h.2.1, if_neg h.2.2]
  · rintro rfl
    rw [nameAlone]
    split
    · next h => exact h ▸ .yes
    · split
      · next h => exact h ▸ .no
      · split
        · next h => exact h ▸ .null
        · next hyes hno hnull => exact .other (by simp [hyes, hno, hnull])

theorem calls_iff {name function : String} {ts rest : List Token} :
    Calls (.name name :: ts) function rest ↔ callFront? name ts = some (function, rest) := by
  constructor
  · intro h
    cases h with
    | plain => rfl
    | namespaced => rfl
  · intro h
    revert h
    fun_cases callFront? name ts <;> intro h <;> cases h
    · exact .namespaced
    · exact .plain

/-- A name is no call exactly when its reader finds none. -/
theorem not_calls_iff {name : String} {ts : List Token} :
    (∀ function rest, ¬ Calls (.name name :: ts) function rest)
      ↔ callFront? name ts = none := by
  simp only [calls_iff, Option.eq_none_iff_forall_ne_some, Prod.forall, ne_eq]

/-- Only a name starts a call. -/
theorem Calls.exists_name {ts rest : List Token} {function : String}
    (h : Calls ts function rest) : ∃ name ts', ts = .name name :: ts' ∧
      callFront? name ts' = some (function, rest) := by
  cases h with
  | plain => exact ⟨_, _, rfl, rfl⟩
  | namespaced => exact ⟨_, _, rfl, rfl⟩

/-! ## A phrase takes tokens -/

/-- The tokens are those of a phrase, at least one, with the rest behind them;
    no phrase begins with a closing parenthesis. -/
def Starts (ts rest : List Token) : Prop :=
  ∃ t phrase, t ≠ .closeParen ∧ ts = t :: phrase ++ rest

theorem Starts.cons {ts rest : List Token} {t : Token} (ht : t ≠ .closeParen)
    (h : ∃ phrase, ts = phrase ++ rest) : Starts (t :: ts) rest := by
  obtain ⟨phrase, rfl⟩ := h
  exact ⟨t, phrase, ht, rfl⟩

theorem Starts.exists_phrase {ts rest : List Token} (h : Starts ts rest) :
    ∃ phrase, ts = phrase ++ rest := by
  obtain ⟨t, phrase, -, rfl⟩ := h
  exact ⟨t :: phrase, rfl⟩

/-- A phrase may end behind more tokens. -/
theorem Starts.append {ts mid rest : List Token} (h : Starts ts mid)
    (hmid : ∃ more, mid = more ++ rest) : Starts ts rest := by
  obtain ⟨t, phrase, ht, rfl⟩ := h
  obtain ⟨more, rfl⟩ := hmid
  exact ⟨t, phrase ++ more, ht, by simp⟩

theorem Starts.length_lt {ts rest : List Token} (h : Starts ts rest) :
    rest.length < ts.length := by
  obtain ⟨t, phrase, -, rfl⟩ := h
  simp only [List.cons_append, List.length_cons, List.length_append]
  omega

theorem Calls.starts {ts rest : List Token} {function : String}
    (h : Calls ts function rest) : Starts ts rest := by
  cases h with
  | plain => exact .cons nofun ⟨[.openParen], rfl⟩
  | namespaced => exact .cons nofun ⟨[.colon, _, .openParen], rfl⟩

mutual

/-- **NO TOKEN IS SKIPPED**: what a derivation starts with is a phrase, and the
    rest is what stands behind it. -/
theorem Derives.starts {c : Phrase} {ts rest : List Token} {e : Expr} :
    Derives c ts e rest → Starts ts rest
  | .choice hcondition hyes hno => by
      have hbehind := (hyes.starts.append ⟨[.colon], rfl⟩).append hno.starts.exists_phrase
      exact (hcondition.starts.append ⟨[.question], rfl⟩).append hbehind.exists_phrase
  | .single h => h.starts
  | .joined hleft hright _ =>
      (hleft.starts.append ⟨[_], rfl⟩).append hright.starts.exists_phrase
  | .operand h => h.starts
  | .headed _ h => .cons nofun h.starts.exists_phrase
  | .accessed h => h.starts
  | .property h => h.starts.append ⟨[.dot, _], rfl⟩
  | .index hbase hkey => by
      have hbehind := hkey.starts.append ⟨[.closeBracket], rfl⟩
      exact (hbase.starts.append ⟨[.openBracket], rfl⟩).append hbehind.exists_phrase
  | .base h => h.starts
  | .int => .cons nofun ⟨[], rfl⟩
  | .float => .cons nofun ⟨[], rfl⟩
  | .text => .cons nofun ⟨[], rfl⟩
  | .parenthesized h =>
      .cons nofun (h.starts.append ⟨[.closeParen], rfl⟩).exists_phrase
  | .name _ _ => .cons nofun ⟨[], rfl⟩
  | .constant hcall => hcall.starts.append ⟨[.closeParen], rfl⟩
  | .call hcall h => hcall.starts.append h.starts.exists_phrase

theorem DerivesArguments.starts {ts rest : List Token} {es : List Expr} :
    DerivesArguments ts es rest → Starts ts rest
  | .last h => h.starts.append ⟨[.closeParen], rfl⟩
  | .more h hothers =>
      (h.starts.append ⟨[.comma], rfl⟩).append hothers.starts.exists_phrase

end

end Cohort.Rule
