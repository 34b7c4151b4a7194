import Cohort.Proofs.Rule.Grammar.Soundness

/-! # What is derived is read

    The readers go on as long as the next token can belong to the phrase, so
    they take all of a derived phrase only if the token behind it cannot.  A
    binding strength for tokens and phrases says which ones can: the rest ends
    a phrase when its first token binds less than the phrase does.

    A phrase that leans to the left is read before it is known how long it
    is.  What is shown for it is that its reader comes to the point where the
    phrase stands complete and the chain behind it is still to be read. -/

namespace Cohort.Rule

/-! ## Unless it is too deep -/

section UnlessDeep

variable {α β : Type} {x y z : Except Malformed α} {f : α → Except Malformed β}

/-- The one comes to what the other does, unless it nests too deeply. -/
def UnlessDeep (x y : Except Malformed α) : Prop :=
  x = .error .tooDeep ∨ x = y

theorem UnlessDeep.refl (x : Except Malformed α) : UnlessDeep x x :=
  Or.inr rfl

theorem UnlessDeep.trans (hxy : UnlessDeep x y) (hyz : UnlessDeep y z) :
    UnlessDeep x z := by
  rcases hxy with hdeep | rfl
  · exact Or.inl hdeep
  · exact hyz

/-- What follows may be too deep, and so may what comes first. -/
theorem UnlessDeep.bind {a : α} {b : Except Malformed β} (hx : UnlessDeep x (.ok a))
    (hf : UnlessDeep (f a) b) : UnlessDeep (x >>= f) b := by
  rcases hx with rfl | rfl
  · exact Or.inl rfl
  · exact hf

/-- Without room it is too deep; with room it goes on below. -/
theorem UnlessDeep.descend {room : Nat} {read : Readers → Except Malformed α}
    (h : ∀ m, UnlessDeep (read (readers m)) y) :
    UnlessDeep (descend (below room) read) y := by
  cases room with
  | zero => exact Or.inl rfl
  | succ room => exact h room

end UnlessDeep

/-! ## Where a phrase ends -/

/-- How strongly the operators of a level bind. -/
def Level.rank : Level → Nat
  | .or => 2
  | .and => 3
  | .equality => 4
  | .order => 5
  | .sum => 6
  | .product => 7

/-- The level of an operator between two operands. -/
def Operator.level? : Operator → Option Level
  | .either => some .or
  | .both => some .and
  | .equal | .notEqual => some .equality
  | .less | .greater | .lessEqual | .greaterEqual => some .order
  | .plus | .minus => some .sum
  | .times | .divide | .modulo => some .product
  | .not | .empty => none

/-- How strongly a token binds to the phrase before it. -/
def Token.rank : Token → Nat
  | .dot | .openBracket => 8
  | .op o => match o.level? with
    | some level => level.rank
    | none => 0
  | .question => 1
  | _ => 0

/-- How strongly a phrase binds. -/
def Phrase.rank : Phrase → Nat
  | .conditional => 1
  | .binary level => level.rank
  | .prefixed | .access => 8
  | .primary => 9

/-- The next token cannot go on with the phrase. -/
def Ends (c : Phrase) (rest : List Token) : Prop :=
  ∀ t ts, rest = t :: ts → t.rank < c.rank

section Ends

variable {c c' : Phrase} {level : Level} {ts rest : List Token}

theorem ends_nil : Ends c [] :=
  nofun

theorem ends_cons {t : Token} (h : t.rank < c.rank) : Ends c (t :: rest) := by
  intro t' ts' heq
  cases heq
  exact h

theorem Ends.mono (h : Ends c rest) (hc : c.rank ≤ c'.rank) : Ends c' rest :=
  fun t ts heq => Nat.lt_of_lt_of_le (h t ts heq) hc

theorem rank_operand (level : Level) : level.operand.rank = level.rank + 1 := by
  cases level <;> rfl

theorem Ends.operand (h : Ends (.binary level) rest) : Ends level.operand rest :=
  h.mono ((rank_operand level).symm ▸ Nat.le_succ _)

theorem Joins.level?_eq {left right e : Expr} {o : Operator}
    (h : Joins left right level o e) : o.level? = some level := by
  cases h <;> rfl

theorem Joins.rank_eq {left right e : Expr} {o : Operator}
    (h : Joins left right level o e) : (Token.op o).rank = level.rank := by
  rw [Token.rank, h.level?_eq]

/-- The operators of a level end the operands of the level. -/
theorem Joins.ends {left right e : Expr} {o : Operator}
    (h : Joins left right level o e) : Ends level.operand (.op o :: rest) :=
  ends_cons (by rw [h.rank_eq, rank_operand]; exact Nat.lt_succ_self _)

theorem front?_of_ends (h : Ends (.binary level) rest) : level.front? rest = none := by
  cases hfront : level.front? rest with
  | none => rfl
  | some found =>
      obtain ⟨o, rfl, hnode⟩ := front?_eq_some hfront
      have hlt := h _ _ rfl
      rw [(hnode default default).rank_eq] at hlt
      exact absurd hlt (Nat.lt_irrefl _)

theorem readChain_of_ends {b : Option Readers} {tighter : List Level} {e : Expr}
    (h : Ends (.binary level) rest) : readChain b level tighter e rest = .ok (e, rest) := by
  rw [readChain, front?_of_ends h]

theorem readAccess_of_ends {b : Option Readers} {e : Expr} (h : Ends .prefixed rest) :
    readAccess b e rest = .ok (e, rest) := by
  rw [readAccess.eq_def]
  split
  · exact absurd (h _ _ rfl) (Nat.lt_irrefl 8)
  · exact absurd (h _ _ rfl) (Nat.lt_irrefl 8)
  · rfl

end Ends

/-! ## One phrase -/

section Phrases

variable {ts mid rest : List Token} {e : Expr} {room : Nat}

/-- The readers read the phrase: all of it where the rest ends it; and as far
    as it goes where the phrase may grow to the right. -/
def Completes (ts : List Token) (e : Expr) (rest : List Token) : Phrase → Prop
  | .conditional => Ends .conditional rest →
      ∀ room, UnlessDeep ((readers room).conditional ts) (.ok (e, rest))
  | .binary level => Ends level.operand rest →
      ∀ room tighter, Descends tighter level.operand →
        ∃ m, UnlessDeep ((readers room).binary (level :: tighter) ts)
          ((readers m).chain level tighter e rest)
  | .prefixed => Ends .prefixed rest →
      ∀ room, UnlessDeep ((readers room).binary [] ts) (.ok (e, rest))
  | .access => ∀ room, ∃ m,
      UnlessDeep ((readers room).binary [] ts) ((readers m).access e rest)
  | .primary => ∀ room,
      UnlessDeep (readPrimary (readers room).conditional ts) (.ok (e, rest))

/-- The arguments are read, if as many are allowed as there are tokens. -/
def CompletesArguments (ts : List Token) (es : List Expr) (rest : List Token) : Prop :=
  ∀ room most, ts.length ≤ most →
    UnlessDeep (readArguments (readers room).conditional most ts) (.ok (es, rest))

/-- A phrase that operators stand between is read to its end. -/
theorem Completes.binary {c : Phrase} {levels : List Level} (h : Completes ts e rest c)
    (hlevels : Descends levels c) (hends : Ends c rest) (room : Nat) :
    UnlessDeep ((readers room).binary levels ts) (.ok (e, rest)) := by
  cases hlevels with
  | prefixed => exact h hends room
  | binary level htighter =>
      obtain ⟨m, hm⟩ := h hends.operand room _ htighter
      refine hm.trans (Or.inr ?_)
      rw [readers_eq]
      exact readChain_of_ends hends

theorem unlessDeep_expect {wanted : Token} :
    UnlessDeep (expect wanted (wanted :: rest)) (.ok rest) :=
  Or.inr (expect_eq_ok_iff.mpr rfl)

theorem completes_choice {mid' : List Token} {condition yes no : Expr}
    (hcondition : Completes ts condition (.question :: mid) (.binary .or))
    (hyes : Completes mid yes (.colon :: mid') .conditional)
    (hno : Completes mid' no rest .conditional) :
    Completes ts (.conditional condition yes no) rest .conditional := by
  intro hends room
  rw [readers_eq]
  refine UnlessDeep.descend fun m => ?_
  refine (hcondition.binary descends_all (ends_cons (by decide)) m).bind ?_
  refine (hyes (ends_cons (by decide)) m).bind ?_
  refine unlessDeep_expect.bind ?_
  exact (hno hends m).bind (.refl _)

theorem completes_single (h : Completes ts e rest (.binary .or)) :
    Completes ts e rest .conditional := by
  intro hends room
  rw [readers_eq]
  refine UnlessDeep.descend fun m => ?_
  refine (h.binary descends_all (hends.mono (by decide)) m).bind ?_
  -- a question mark would go on
  dsimp only
  split
  · exact absurd (hends _ _ rfl) (Nat.lt_irrefl 1)
  · exact .refl _

theorem completes_joined {level : Level} {o : Operator} {left right : Expr}
    (hleft : Completes ts left (.op o :: mid) (.binary level))
    (hright : Completes mid right rest level.operand)
    (hnode : Joins left right level o e) : Completes ts e rest (.binary level) := by
  intro hends room tighter htighter
  obtain ⟨m, hm⟩ := hleft hnode.ends room tighter htighter
  obtain ⟨node, hnode?, rfl⟩ := joins_iff.mp hnode
  have hfront : level.front? (.op o :: mid) = some (node, mid) := by
    rw [Level.front?, hnode?, Option.map_some]
  cases m with
  | zero =>
      refine ⟨0, hm.trans (Or.inl ?_)⟩
      show readChain none level tighter left (.op o :: mid) = _
      rw [readChain, hfront]
      rfl
  | succ m =>
      refine ⟨m, hm.trans ?_⟩
      show UnlessDeep (readChain (some (readers m)) level tighter left (.op o :: mid)) _
      rw [readChain, hfront]
      exact (hright.binary htighter hends m).bind (.refl _)

theorem completes_operand {level : Level} (h : Completes ts e rest level.operand) :
    Completes ts e rest (.binary level) := by
  intro hends room tighter htighter
  refine ⟨room, ?_⟩
  have hoperand := h.binary htighter hends room
  rw [readers_eq] at hoperand ⊢
  exact hoperand.bind (.refl _)

theorem completes_headed {o : Operator} {op : UnaryOp} (ho : Heads o op)
    (h : Completes ts e rest .prefixed) :
    Completes (.op o :: ts) (.unary op e) rest .prefixed := by
  intro hends room
  have hfront : unaryFront? (.op o :: ts) = some (op, ts) := by
    rw [unaryFront?, heads_iff.mp ho, Option.map_some]
  rw [readers_eq]
  show UnlessDeep (readPrefixed (below room) (.op o :: ts)) _
  rw [readPrefixed, hfront]
  refine UnlessDeep.descend fun m => ?_
  have hoperand := h hends m
  rw [readers_eq] at hoperand ⊢
  exact hoperand.bind (.refl _)

theorem completes_accessed (h : Completes ts e rest .access) :
    Completes ts e rest .prefixed := by
  intro hends room
  obtain ⟨m, hm⟩ := h room
  refine hm.trans (Or.inr ?_)
  rw [readers_eq]
  exact readAccess_of_ends hends

/-- An access behind a base goes on in the room below, if there is one. -/
theorem completes_behind {base : Expr} (hbase : Completes ts base mid .access)
    (h : ∀ m, UnlessDeep (readAccess (some (readers m)) base mid)
      ((readers m).access e rest))
    (hdeep : readAccess none base mid = .error .tooDeep) :
    Completes ts e rest .access := by
  intro room
  obtain ⟨m, hm⟩ := hbase room
  cases m with
  | zero => exact ⟨0, hm.trans (Or.inl hdeep)⟩
  | succ m => exact ⟨m, hm.trans (h m)⟩

theorem completes_property {base : Expr} {name : String}
    (h : Completes ts base (.dot :: .name name :: rest) .access) :
    Completes ts (.property base name) rest .access :=
  completes_behind h (fun _ => .refl _) rfl

theorem completes_index {base key : Expr}
    (hbase : Completes ts base (.openBracket :: mid) .access)
    (hkey : Completes mid key (.closeBracket :: rest) .conditional) :
    Completes ts (.index base key) rest .access := by
  refine completes_behind hbase ?_ rfl
  intro m
  refine (hkey (ends_cons (by decide)) m).bind ?_
  exact unlessDeep_expect.bind (.refl _)

/-- What stands in no parentheses and is no operator is read as it stands. -/
theorem completes_base (hhead : unaryFront? ts = none)
    (h : Completes ts e rest .primary) : Completes ts e rest .access := by
  intro room
  refine ⟨room, ?_⟩
  have hprimary := h room
  rw [readers_eq] at hprimary ⊢
  show UnlessDeep (readPrefixed (below room) ts) _
  rw [readPrefixed, hhead]
  exact hprimary.bind (.refl _)

theorem completes_parenthesized (h : Completes ts e (.closeParen :: rest) .conditional) :
    Completes (.openParen :: ts) e rest .primary := by
  intro room
  refine (h (ends_cons (by decide)) room).bind ?_
  exact unlessDeep_expect.bind (.refl _)

theorem completes_name {name : String} (hname : Means name e)
    (halone : ∀ function mid, ¬ Calls (.name name :: rest) function mid) :
    Completes (.name name :: rest) e rest .primary := by
  intro room
  rw [readPrimary_name (not_calls_iff.mp halone), means_iff.mp hname]
  exact .refl _

theorem completes_constant {function : String}
    (hcall : Calls ts function (.closeParen :: rest)) :
    Completes ts (.call function []) rest .primary := by
  intro room
  obtain ⟨name, ts', rfl, hfront⟩ := hcall.exists_name
  rw [readPrimary_constant hfront]
  exact .refl _

theorem completes_call {function : String} {arguments : List Expr}
    (hcall : Calls ts function mid) (hstarts : Starts mid rest)
    (h : CompletesArguments mid arguments rest) :
    Completes ts (.call function arguments) rest .primary := by
  intro room
  obtain ⟨name, ts', rfl, hfront⟩ := hcall.exists_name
  -- no argument begins with the parenthesis that would end them
  have hmid : mid.head? ≠ some .closeParen := by
    obtain ⟨t, phrase, ht, rfl⟩ := hstarts
    exact fun h => ht (Option.some.inj h)
  rw [readPrimary_call hfront hmid]
  exact (h room (mid.length + 1) (Nat.le_succ _)).bind (.refl _)

theorem completesArguments_last (hstarts : Starts ts (.closeParen :: rest))
    (h : Completes ts e (.closeParen :: rest) .conditional) :
    CompletesArguments ts [e] rest := by
  intro room most hmost
  cases most with
  | zero =>
      have hlength := hstarts.length_lt
      omega
  | succ most => exact (h (ends_cons (by decide)) room).bind (.refl _)

theorem completesArguments_more {others : List Expr} (hstarts : Starts ts (.comma :: mid))
    (h : Completes ts e (.comma :: mid) .conditional)
    (hothers : CompletesArguments mid others rest) :
    CompletesArguments ts (e :: others) rest := by
  intro room most hmost
  have hlength := hstarts.length_lt
  rw [List.length_cons] at hlength
  cases most with
  | zero => omega
  | succ most =>
      refine (h (ends_cons (by decide)) room).bind ?_
      exact (hothers room most (by omega)).bind (.refl _)

end Phrases

/-! ## All phrases -/

/-- A phrase without an operator in front starts with none. -/
theorem unaryFront?_of_primary {ts rest : List Token} {e : Expr}
    (h : Derives .primary ts e rest) : unaryFront? ts = none := by
  cases h with
  | int => rfl
  | float => rfl
  | text => rfl
  | parenthesized h => rfl
  | name hname halone => rfl
  | constant hcall =>
      obtain ⟨name, ts', rfl, -⟩ := hcall.exists_name
      rfl
  | call hcall h =>
      obtain ⟨name, ts', rfl, -⟩ := hcall.exists_name
      rfl

mutual

/-- **COMPLETENESS**: the readers read every phrase that is derived, unless it
    nests too deeply for their room. -/
theorem Derives.completes {c : Phrase} {ts rest : List Token} {e : Expr} :
    Derives c ts e rest → Completes ts e rest c
  | .choice hcondition hyes hno =>
      completes_choice hcondition.completes hyes.completes hno.completes
  | .single h => completes_single h.completes
  | .joined hleft hright hnode => completes_joined hleft.completes hright.completes hnode
  | .operand h => completes_operand h.completes
  | .headed ho h => completes_headed ho h.completes
  | .accessed h => completes_accessed h.completes
  | .property h => completes_property h.completes
  | .index hbase hkey => completes_index hbase.completes hkey.completes
  | .base h => completes_base (unaryFront?_of_primary h) h.completes
  | .int => fun _ => .refl _
  | .float => fun _ => .refl _
  | .text => fun _ => .refl _
  | .parenthesized h => completes_parenthesized h.completes
  | .name hname halone => completes_name hname halone
  | .constant hcall => completes_constant hcall
  | .call hcall h => completes_call hcall h.starts h.completes

theorem DerivesArguments.completes {ts rest : List Token} {es : List Expr} :
    DerivesArguments ts es rest → CompletesArguments ts es rest
  | .last h => completesArguments_last h.starts h.completes
  | .more h hothers => completesArguments_more h.starts h.completes hothers.completes

end

/-! ## Rules -/

/-- A rule that is derived from its first token to its last is read, unless it
    nests too deeply. -/
theorem unlessDeep_ofTokens {ts : List Token} {e : Expr} (h : Derives .conditional ts e []) :
    UnlessDeep (Expr.ofTokens ts) (.ok e) := by
  have hread : UnlessDeep _ _ := h.completes ends_nil maxDepth
  exact hread.bind (.refl _)

/-- **THE READER AND THE GRAMMAR**: what is read is derived from the first token
    to the last, and from these tokens nothing else is.  And what is derived
    is read as it was derived, or nests too deeply. -/
theorem ofTokens_iff_derives (ts : List Token) :
    (∀ e, Expr.ofTokens ts = .ok e → Derives .conditional ts e [] ∧
      ∀ e', Derives .conditional ts e' [] → e' = e) ∧
    (∀ e, Derives .conditional ts e [] →
      Expr.ofTokens ts = .ok e ∨ Expr.ofTokens ts = .error .tooDeep) := by
  refine ⟨?_, ?_⟩
  · intro e h
    refine ⟨derives_of_ofTokens h, ?_⟩
    intro e' he'
    rcases unlessDeep_ofTokens he' with hdeep | hread
    · exact nomatch h.symm.trans hdeep
    · exact Except.ok.inj (hread.symm.trans h)
  · intro e he
    exact (unlessDeep_ofTokens he).symm

/-- The tokens of `a ? … : f(x)`. -/
def choiceOf (yes : List Token) : List Token :=
  [.name "a", .question] ++ yes ++
    [.colon, .name "f", .openParen, .name "x", .closeParen]

/-- With parentheses around its first branch `a ? (b) : f(x)` is a conditional and
    nothing else.  Without them the colon belongs to the call of `b:f`, and the
    conditional has no second branch. -/
theorem colon_belongs_to_call :
    (Derives .conditional (choiceOf [.openParen, .name "b", .closeParen])
        (.conditional (.variable "a") (.variable "b") (.call "f" [.variable "x"])) [] ∧
      ∀ e, Derives .conditional (choiceOf [.openParen, .name "b", .closeParen]) e [] →
        e = .conditional (.variable "a") (.variable "b") (.call "f" [.variable "x"])) ∧
    ∀ e, ¬ Derives .conditional (choiceOf [.name "b"]) e [] := by
  refine ⟨(ofTokens_iff_derives _).1 _ (by with_unfolding_all rfl), ?_⟩
  intro e he
  have hread : Expr.ofTokens (choiceOf [.name "b"]) = .error (.expected .colon none) := by
    with_unfolding_all rfl
  rcases (ofTokens_iff_derives _).2 e he with hok | hdeep
  · exact nomatch hread.symm.trans hok
  · exact nomatch hread.symm.trans hdeep

end Cohort.Rule
