import Mathlib
import Cohort.Proofs.Rule.Depth
import Cohort.Proofs.Rule.Rendering

/-! # Trees as deep as their room

    Around one operand the chains of all levels are read in the same room.
    With as many operators at every level as there is room, the tree grows to
    the bound; and already two levels make it deeper than the depth that a
    rule should have at most. -/

namespace Cohort.Rule

/-! ## Behind an operand -/

/-- The operand of all chains. -/
def atom : Token := .name "a"

/-- The tree of the operand. -/
def atomTree : Expr := .variable "a"

/-- The rest ends the phrase, and does not make a name before it a call. -/
structure Behind (c : Phrase) (rest : List Token) : Prop where
  ends : Ends c rest
  alone : ∀ name, callFront? name rest = none

variable {c : Phrase} {level : Level} {room : Nat} {rest : List Token} {e : Expr}

theorem Behind.operand (h : Behind (.binary level) rest) : Behind level.operand rest :=
  ⟨h.ends.operand, h.alone⟩

/-- A single operand is read in every room. -/
theorem binary_atom {levels : List Level} (hlevels : Descends levels c)
    (hrest : Behind c rest) (b : Option Readers) :
    readBinary b levels (atom :: rest) = .ok (atomTree, rest) := by
  induction hlevels with
  | prefixed =>
      show (readPrimary (readConditional b) (.name "a" :: rest) >>= _) = _
      rw [readPrimary_name (hrest.alone "a")]
      exact readAccess_of_ends hrest.ends
  | binary level htighter ih =>
      rw [readBinary, ih hrest.operand]
      exact readChain_of_ends hrest.ends

/-! ## Chains -/

/-- An operator of the level. -/
def Level.sign : Level → Operator
  | .or => .either
  | .and => .both
  | .equality => .equal
  | .order => .less
  | .sum => .plus
  | .product => .times

/-- Its tree over two operands. -/
def Level.tree (left right : Expr) : Level → Expr
  | .or => .or left right
  | .and => .and left right
  | .equality => .binary .equal left right
  | .order => .binary .less left right
  | .sum => .binary .add left right
  | .product => .binary .multiply left right

theorem joins_sign (level : Level) (left right : Expr) :
    Joins left right level level.sign (level.tree left right) := by
  cases level <;> constructor

/-- So many operators of the level, each with an operand. -/
def chainTokens (level : Level) : Nat → List Token → List Token
  | 0, rest => rest
  | count + 1, rest => .op level.sign :: atom :: chainTokens level count rest

/-- The tree that has grown by so many operators. -/
def chainTree (level : Level) : Nat → Expr → Expr
  | 0, e => e
  | count + 1, e => chainTree level count (level.tree e atomTree)

theorem behind_chainTokens (hrest : Behind (.binary level) rest) (count : Nat) :
    Behind level.operand (chainTokens level count rest) := by
  cases count with
  | zero => exact hrest.operand
  | succ count => exact ⟨(joins_sign level default default).ends, fun _ => rfl⟩

/-- A chain is read if it has no more operators than there is room. -/
theorem readChain_chainTokens {tighter : List Level}
    (htighter : Descends tighter level.operand) (hrest : Behind (.binary level) rest)
    {count : Nat} (hcount : count ≤ room) :
    (readers room).chain level tighter e (chainTokens level count rest)
      = .ok (chainTree level count e, rest) := by
  induction count generalizing room e with
  | zero =>
      rw [readers_eq]
      exact readChain_of_ends hrest.ends
  | succ count ih =>
      obtain ⟨m, rfl⟩ := Nat.exists_eq_succ_of_ne_zero (Nat.ne_zero_of_lt hcount)
      obtain ⟨node, hnode, hjoined⟩ := joins_iff.mp (joins_sign level e atomTree)
      have hfront : level.front? (chainTokens level (count + 1) rest)
          = some (node, atom :: chainTokens level count rest) := by
        rw [chainTokens, Level.front?, hnode, Option.map_some]
      have hright : (readers m).binary tighter (atom :: chainTokens level count rest)
          = .ok (atomTree, chainTokens level count rest) := by
        rw [readers_eq]
        exact binary_atom htighter (behind_chainTokens hrest count) _
      show readChain (some (readers m)) level tighter e _ = _
      rw [readChain, hfront]
      show ((readers m).binary tighter _ >>= _) = _
      rw [hright, chainTree, hjoined]
      exact ih (Nat.le_of_succ_le_succ hcount)

/-! ## All chains around an operand -/

/-- The chains of the levels, tight ones first. -/
def stackTokens (count : Level → Nat) : List Level → List Token → List Token
  | [], rest => rest
  | level :: tighter, rest =>
      stackTokens count tighter (chainTokens level (count level) rest)

/-- The tree of the chains around an operand. -/
def stackTree (count : Level → Nat) (e : Expr) : List Level → Expr
  | [] => e
  | level :: tighter => chainTree level (count level) (stackTree count e tighter)

/-- **CHAINS DO NOT SHARE THEIR ROOM**: each level may have as many operators as
    there is room. -/
theorem readBinary_stackTokens {count : Level → Nat} (hcount : ∀ level, count level ≤ room)
    (start : List Token → List Token)
    (hstart : ∀ rest, Behind .prefixed rest →
      readPrefixed (below room) (start rest) = .ok (e, rest))
    {levels : List Level} (hlevels : Descends levels c) (hrest : Behind c rest) :
    readBinary (below room) levels (start (stackTokens count levels rest))
      = .ok (stackTree count e levels, rest) := by
  induction hlevels generalizing rest with
  | prefixed => exact hstart rest hrest
  | @binary level tighter htighter ih =>
      rw [readBinary, stackTokens, ih (behind_chainTokens hrest (count level))]
      have hchain := readChain_chainTokens (e := stackTree count e tighter) htighter hrest
        (hcount level)
      rw [readers_eq] at hchain
      exact hchain

/-! ## Depth of chains -/

theorem one_le_depth (e : Expr) : 1 ≤ e.depth := by
  cases e <;> rw [Expr.depth] <;> omega

theorem depth_chainTree (level : Level) (count : Nat) (e : Expr) :
    (chainTree level count e).depth = e.depth + count := by
  induction count generalizing e with
  | zero => rfl
  | succ count ih =>
      have hone := one_le_depth e
      rw [chainTree, ih, (joins_sign level e atomTree).depth_eq, atomTree, Expr.depth]
      omega

/-- Their trees stand on top of each other. -/
theorem depth_stackTree (count : Level → Nat) (e : Expr) (levels : List Level) :
    (stackTree count e levels).depth = e.depth + (levels.map count).sum := by
  induction levels with
  | nil => rfl
  | cons level tighter ih =>
      rw [stackTree, depth_chainTree, ih, List.map_cons, List.sum_cons]
      omega

/-! ## Chains as a rule -/

/-- A conditional without a question mark is read one room up. -/
theorem conditional_of_readBinary {ts : List Token}
    (h : readBinary (below room) Level.all ts = .ok (e, rest))
    (hrest : Ends .conditional rest) :
    (readers (room + 1)).conditional ts = .ok (e, rest) := by
  show ((readers room).binary Level.all ts >>= _) = _
  rw [readers_eq]
  show (readBinary (below room) Level.all ts >>= _) = _
  rw [h]
  -- a question mark would go on
  dsimp only [bind, Except.bind]
  split
  · exact absurd (hrest _ _ rfl) (Nat.lt_irrefl 1)
  · rfl

theorem behind_nil : Behind c [] :=
  ⟨ends_nil, fun _ => rfl⟩

theorem Behind.all (h : Behind .conditional rest) : Behind (.binary .or) rest :=
  ⟨h.ends.mono (by decide), h.alone⟩

/-- Around one operand, less than the greatest depth of operators at each level. -/
theorem ofTokens_stackTokens {count : Level → Nat}
    (hcount : ∀ level, count level < maxDepth) :
    Expr.ofTokens (atom :: stackTokens count Level.all [])
      = .ok (stackTree count atomTree Level.all) := by
  have hstack : readBinary (below 127) Level.all (atom :: stackTokens count Level.all [])
      = .ok (stackTree count atomTree Level.all, []) :=
    readBinary_stackTokens (fun level => Nat.le_of_lt_succ (hcount level))
      (fun rest => atom :: rest)
      (fun rest hrest => binary_atom .prefixed hrest (below 127)) descends_all behind_nil
  exact ofTokens_eq_ok_iff.mpr (conditional_of_readBinary hstack ends_nil)

theorem spelled_atom : Spelled atom :=
  spelled_name (by decide) (by decide)

theorem spelled_sign_of_level (level : Level) : Spelled (.op level.sign) := by
  refine Token.Writing.spelled (.sign ?_) ?_
  · cases level <;> decide
  · cases level <;> decide

theorem spelled_chainTokens (hrest : ∀ t ∈ rest, Spelled t) (count : Nat) :
    ∀ t ∈ chainTokens level count rest, Spelled t := by
  induction count with
  | zero => exact hrest
  | succ count ih =>
      refine List.forall_mem_cons.mpr ⟨spelled_sign_of_level level, ?_⟩
      exact List.forall_mem_cons.mpr ⟨spelled_atom, ih⟩

theorem spelled_stackTokens (count : Level → Nat) (levels : List Level)
    (hrest : ∀ t ∈ rest, Spelled t) : ∀ t ∈ stackTokens count levels rest, Spelled t := by
  induction levels generalizing rest with
  | nil => exact hrest
  | cons level tighter ih => exact ih (spelled_chainTokens hrest (count level))

/-- The rule of chains around one operand. -/
def stackRule (count : Level → Nat) : String :=
  ruleOf (atom :: stackTokens count Level.all [])

/-- **CHAINS ADD UP**: a rule with fewer operators at each level than the greatest
    depth is accepted, and as deep as all its chains together. -/
theorem parse_stackRule {count : Level → Nat} (hcount : ∀ level, count level < maxDepth) :
    ∃ e, parse (stackRule count) = .ok e ∧ e.depth = 1 + (Level.all.map count).sum := by
  refine ⟨stackTree count atomTree Level.all, ?_, ?_⟩
  · have hspelled : ∀ t ∈ atom :: stackTokens count Level.all [], Spelled t :=
      List.forall_mem_cons.mpr ⟨spelled_atom,
        spelled_stackTokens count Level.all (List.forall_mem_nil _)⟩
    rw [parse, stackRule, ofRule_ruleOf (List.cons_ne_nil _ _) hspelled,
      ofTokens_stackTokens hcount]
  · rw [depth_stackTree, atomTree, Expr.depth]

/-- A hundred operators at each of two levels. -/
def twoChains : Level → Nat
  | .or | .and => 100
  | _ => 0

/-- Two chains make a rule deeper than a rule should be, and it is accepted. -/
theorem twoChains_deeper_than_maxDepth :
    ∃ e, parse (stackRule twoChains) = .ok e ∧ e.depth = 201 ∧ maxDepth < e.depth := by
  have hcount : ∀ level, twoChains level < maxDepth := by
    intro level
    cases level <;> decide
  obtain ⟨e, hparse, hdepth⟩ := parse_stackRule hcount
  have h201 : e.depth = 201 := hdepth
  exact ⟨e, hparse, h201, h201 ▸ by decide⟩

/-! ## The deepest rule -/

/-- So many accesses behind a base. -/
def accessTokens : Nat → List Token → List Token
  | 0, rest => rest
  | count + 1, rest => .dot :: .name "p" :: accessTokens count rest

/-- The tree of so many accesses. -/
def accessTree : Nat → Expr → Expr
  | 0, e => e
  | count + 1, e => accessTree count (.property e "p")

theorem readAccess_accessTokens (hrest : Ends .prefixed rest) {count : Nat}
    (hcount : count ≤ room) :
    (readers room).access e (accessTokens count rest) = .ok (accessTree count e, rest) := by
  induction count generalizing room e with
  | zero =>
      rw [readers_eq]
      exact readAccess_of_ends hrest
  | succ count ih =>
      obtain ⟨m, rfl⟩ := Nat.exists_eq_succ_of_ne_zero (Nat.ne_zero_of_lt hcount)
      exact ih (Nat.le_of_succ_le_succ hcount)

theorem depth_accessTree (count : Nat) (e : Expr) :
    (accessTree count e).depth = e.depth + count := by
  induction count generalizing e with
  | zero => rfl
  | succ count ih =>
      rw [accessTree, ih, Expr.depth]
      omega

/-- Calls in each other, each with all the accesses and operators that there is
    room for, as the condition of a conditional. -/
def nestTokens : Nat → List Token → List Token
  | 0, rest => atom :: rest
  | n + 1, rest =>
      .name "f" :: .openParen :: nestTokens n (.closeParen :: accessTokens (n + 1)
        (stackTokens (fun _ => n + 1) Level.all (.question :: atom :: .colon :: atom :: rest)))

/-- The tree of the calls in each other. -/
def nestTree : Nat → Expr
  | 0 => atomTree
  | n + 1 =>
      .conditional (stackTree (fun _ => n + 1)
        (accessTree (n + 1) (.call "f" [nestTree n])) Level.all) atomTree atomTree

theorem Behind.colon (h : Behind c rest) (hc : 0 < c.rank) :
    Behind c (.colon :: atom :: rest) where
  ends := ends_cons hc
  alone := by
    intro name
    cases rest with
    | nil => rfl
    | cons t ts =>
        cases t with
        | openParen => exact nomatch h.alone name
        | _ => rfl

theorem conditional_atom (hrest : Behind .conditional rest) :
    (readers (room + 1)).conditional (atom :: rest) = .ok (atomTree, rest) :=
  conditional_of_readBinary (binary_atom descends_all hrest.all _) hrest.ends

/-- A call is read with the accesses behind it. -/
theorem readPrefixed_call {ts : List Token} {argument : Expr} (hts : ts.head? ≠ some .closeParen)
    (hargument : (readers room).conditional ts
      = .ok (argument, .closeParen :: accessTokens room rest))
    (hrest : Ends .prefixed rest) :
    readPrefixed (below room) (.name "f" :: .openParen :: ts)
      = .ok (accessTree room (.call "f" [argument]), rest) := by
  have harguments : readArguments (readers room).conditional (ts.length + 1) ts
      = .ok ([argument], accessTokens room rest) := by
    rw [readArguments, hargument]
    rfl
  have hprimary : readPrimary (readers room).conditional (.name "f" :: .openParen :: ts)
      = .ok (.call "f" [argument], accessTokens room rest) := by
    rw [readPrimary_call rfl hts, harguments]
    rfl
  have haccess := readAccess_accessTokens (e := .call "f" [argument]) hrest (Nat.le_refl room)
  rw [readers_eq] at hprimary haccess
  show (readPrimary (readConditional (below room)) _ >>= _) = _
  rw [show readPrimary (readConditional (below room)) _ = _ from hprimary]
  exact haccess

/-- A conditional is read one room above its condition and its branches. -/
theorem conditional_of_condition {ts : List Token} {condition : Expr}
    (h : readBinary (below (room + 1)) Level.all ts
      = .ok (condition, .question :: atom :: .colon :: atom :: rest))
    (hrest : Behind .conditional rest) :
    (readers (room + 2)).conditional ts
      = .ok (.conditional condition atomTree atomTree, rest) := by
  have hyes : (readers (room + 1)).conditional (atom :: .colon :: atom :: rest)
      = .ok (atomTree, .colon :: atom :: rest) :=
    conditional_atom (hrest.colon (by decide))
  have hno : (readers (room + 1)).conditional (atom :: rest) = .ok (atomTree, rest) :=
    conditional_atom hrest
  show ((readers (room + 1)).binary Level.all ts >>= _) = _
  rw [show (readers (room + 1)).binary Level.all ts = _ from h]
  show ((readers (room + 1)).conditional (atom :: .colon :: atom :: rest) >>= _) = _
  rw [hyes]
  show ((readers (room + 1)).conditional (atom :: rest) >>= _) = _
  rw [hno]
  rfl

theorem conditional_nestTokens (n : Nat) (hrest : Behind .conditional rest) :
    (readers (n + 1)).conditional (nestTokens n rest) = .ok (nestTree n, rest) := by
  induction n generalizing rest with
  | zero => exact conditional_atom hrest
  | succ n ih =>
      have hcall : ∀ rest, Behind .prefixed rest →
          readPrefixed (below (n + 1)) (.name "f" :: .openParen :: nestTokens n
              (.closeParen :: accessTokens (n + 1) rest))
            = .ok (accessTree (n + 1) (.call "f" [nestTree n]), rest) := by
        intro rest hrest
        refine readPrefixed_call ?_ (ih ⟨ends_cons (by decide), fun _ => rfl⟩) hrest.ends
        cases n <;> exact nofun
      have hbehind : Behind (.binary .or) (.question :: atom :: .colon :: atom :: rest) :=
        ⟨ends_cons (by decide), fun _ => rfl⟩
      refine conditional_of_condition ?_ hrest
      exact readBinary_stackTokens (fun _ => Nat.le_refl _)
        (fun rest => .name "f" :: .openParen :: nestTokens n
          (.closeParen :: accessTokens (n + 1) rest)) hcall descends_all hbehind

theorem spelled_accessTokens (hrest : ∀ t ∈ rest, Spelled t) (count : Nat) :
    ∀ t ∈ accessTokens count rest, Spelled t := by
  induction count with
  | zero => exact hrest
  | succ count ih =>
      refine List.forall_mem_cons.mpr ⟨?_, List.forall_mem_cons.mpr ⟨?_, ih⟩⟩
      · exact spelled_mark (by decide)
      · exact spelled_name (by decide) (by decide)

theorem spelled_nestTokens (n : Nat) (hrest : ∀ t ∈ rest, Spelled t) :
    ∀ t ∈ nestTokens n rest, Spelled t := by
  induction n generalizing rest with
  | zero => exact List.forall_mem_cons.mpr ⟨spelled_atom, hrest⟩
  | succ n ih =>
      have hno : ∀ t ∈ .question :: atom :: .colon :: atom :: rest, Spelled t := by
        refine List.forall_mem_cons.mpr ⟨?_, List.forall_mem_cons.mpr ⟨spelled_atom, ?_⟩⟩
        · exact spelled_mark (by decide)
        refine List.forall_mem_cons.mpr ⟨?_, List.forall_mem_cons.mpr ⟨spelled_atom, hrest⟩⟩
        exact spelled_mark (by decide)
      refine List.forall_mem_cons.mpr ⟨?_, List.forall_mem_cons.mpr ⟨?_, ih ?_⟩⟩
      · exact spelled_name (by decide) (by decide)
      · exact spelled_mark (by decide)
      · refine List.forall_mem_cons.mpr ⟨?_, spelled_accessTokens ?_ (n + 1)⟩
        · exact spelled_mark (by decide)
        · exact spelled_stackTokens _ Level.all hno

theorem depth_nestTree (n : Nat) : (nestTree n).depth = deepest (n + 1) := by
  induction n with
  | zero => rfl
  | succ n ih =>
      rw [nestTree, deepest, Expr.depth, depth_stackTree, depth_accessTree, Expr.depth,
        Expr.depthAll, Expr.depthAll, ih, atomTree, Expr.depth]
      have hsum : (Level.all.map fun _ => n + 1).sum = 6 * (n + 1) := by
        simp only [Level.all, List.map_cons, List.map_nil, List.sum_cons, List.sum_nil]
        omega
      rw [hsum]
      omega

/-- **THE BOUND IS ATTAINED**: of all depths of accepted rules this is the greatest. -/
theorem isGreatest_depth :
    IsGreatest {d | ∃ rule e, parse rule = .ok e ∧ e.depth = d} 57151 := by
  refine ⟨?_, ?_⟩
  · have hne : nestTokens 127 [] ≠ [] := List.cons_ne_nil _ _
    have hread : Expr.ofTokens (nestTokens 127 []) = .ok (nestTree 127) :=
      ofTokens_eq_ok_iff.mpr (conditional_nestTokens 127 behind_nil)
    refine ⟨ruleOf (nestTokens 127 []), nestTree 127, ?_, ?_⟩
    · rw [parse, ofRule_ruleOf hne (spelled_nestTokens 127 (List.forall_mem_nil _)), hread]
    · exact (depth_nestTree 127).trans deepest_maxDepth
  · rintro d ⟨rule, e, hparse, rfl⟩
    exact depth_le_of_parse hparse

end Cohort.Rule
