import Cohort.Proofs.Rule.Grammar.Completeness

/-! # How deep a rule can be

    A chain gives its room back once it is read, so the chains of all levels
    around one operand have the same room, and so have the operators in front
    of it and the accesses behind it.  Their trees stand on top of each other
    nevertheless: one operand may carry seven times as many operators as there
    is room.  The bound that follows is far above the number of rooms, but it
    is a bound. -/

namespace Cohort.Rule

/-! ## Depth -/

mutual

/-- The number of nodes on the longest path from the root to a leaf. -/
def Expr.depth : Expr → Nat
  | .literal _ => 1
  | .variable _ => 1
  | .property base _ => base.depth + 1
  | .index base key => max base.depth key.depth + 1
  | .unary _ operand => operand.depth + 1
  | .binary _ left right => max left.depth right.depth + 1
  | .and left right => max left.depth right.depth + 1
  | .or left right => max left.depth right.depth + 1
  | .conditional condition yes no => max condition.depth (max yes.depth no.depth) + 1
  | .call _ arguments => Expr.depthAll arguments + 1

/-- The depth of the deepest of the expressions. -/
def Expr.depthAll : List Expr → Nat
  | [] => 0
  | e :: rest => max e.depth (Expr.depthAll rest)

end

theorem Joins.depth_eq {left right e : Expr} {level : Level} {o : Operator}
    (h : Joins left right level o e) : e.depth = max left.depth right.depth + 1 := by
  cases h <;> rw [Expr.depth]

theorem Means.depth_eq {name : String} {e : Expr} (h : Means name e) : e.depth = 1 := by
  cases h <;> rw [Expr.depth]

/-- The greatest depth that can be read in a room. -/
def deepest : Nat → Nat
  | 0 => 0
  | 1 => 1
  | room + 2 => deepest (room + 1) + 7 * (room + 1) + 2

/-- A room lower is so much less deep. -/
theorem deepest_add_le (room : Nat) : deepest room + 7 * room + 1 ≤ deepest (room + 1) := by
  cases room with
  | zero => exact Nat.le_refl 1
  | succ room =>
      rw [deepest]
      omega

/-! ## One room -/

/-- The depth of what the readers of a room read. -/
structure Bounded (room : Nat) : Prop where
  binary : ∀ {levels : List Level} {ts rest : List Token} {e : Expr},
    (readers room).binary levels ts = .ok (e, rest) →
    e.depth ≤ deepest room + 1 + room * (levels.length + 1)
  chain : ∀ {level : Level} {tighter : List Level} {left e : Expr} {ts rest : List Token}
      {d : Nat}, left.depth ≤ d → deepest room + 1 + room * (tighter.length + 1) ≤ d →
    (readers room).chain level tighter left ts = .ok (e, rest) → e.depth ≤ d + room
  prefixed : ∀ {ts rest : List Token} {e : Expr},
    (readers room).prefixed ts = .ok (e, rest) → e.depth ≤ deepest room + 1 + room
  access : ∀ {base e : Expr} {ts rest : List Token} {d : Nat},
    base.depth ≤ d → deepest room ≤ d →
    (readers room).access base ts = .ok (e, rest) → e.depth ≤ d + room
  conditional : ∀ {ts rest : List Token} {e : Expr},
    (readers room).conditional ts = .ok (e, rest) → e.depth ≤ deepest room

variable {room : Nat} (hbelow : ∀ m, room = m + 1 → Bounded m) {ts rest : List Token}
  {e : Expr}

include hbelow in
theorem depth_readConditional (h : readConditional (below room) ts = .ok (e, rest)) :
    e.depth ≤ deepest room := by
  obtain ⟨r, hr, h⟩ := conditionalRead h
  obtain ⟨m, rfl, rfl⟩ := exists_of_below hr
  have hbounded := hbelow m rfl
  have hstep := deepest_add_le m
  cases h with
  | single h =>
      have hle := hbounded.binary h
      rw [show Level.all.length = 6 from rfl] at hle
      omega
  | choice hcondition hyes hno =>
      have hcondition := hbounded.binary hcondition
      rw [show Level.all.length = 6 from rfl] at hcondition
      -- the branches need a room of their own
      cases m with
      | zero =>
          rw [conditional_zero] at hyes
          exact nomatch hyes
      | succ m =>
          have hyes := hbounded.conditional hyes
          have hno := hbounded.conditional hno
          rw [Expr.depth, deepest]
          omega

theorem ArgumentsRead.depth_le {conditional : List Token → Reading} {d : Nat}
    (hconditional : ∀ {ts rest : List Token} {e : Expr},
      conditional ts = .ok (e, rest) → e.depth ≤ d)
    {es : List Expr} (h : ArgumentsRead conditional ts es rest) :
    Expr.depthAll es ≤ d := by
  induction h with
  | last h =>
      rw [Expr.depthAll, Expr.depthAll]
      exact Nat.max_le.mpr ⟨hconditional h, Nat.zero_le d⟩
  | more h hothers ih =>
      rw [Expr.depthAll]
      exact Nat.max_le.mpr ⟨hconditional h, ih⟩

theorem PrimaryRead.depth_le {conditional : List Token → Reading} {d : Nat}
    (hconditional : ∀ {ts rest : List Token} {e : Expr},
      conditional ts = .ok (e, rest) → e.depth ≤ d)
    (h : PrimaryRead conditional ts e rest) : e.depth ≤ d + 1 := by
  cases h with
  | int | float | text =>
      rw [Expr.depth]
      omega
  | parenthesized h => exact Nat.le_succ_of_le (hconditional h)
  | name hname halone =>
      rw [hname.depth_eq]
      omega
  | constant hcall =>
      rw [Expr.depth, Expr.depthAll]
      omega
  | call hcall h =>
      rw [Expr.depth]
      exact Nat.succ_le_succ (h.depth_le hconditional)

include hbelow in
theorem AccessRead.depth_le {base : Expr} {d : Nat} (hbase : base.depth ≤ d)
    (hd : deepest room ≤ d) (h : AccessRead (below room) base ts e rest) :
    e.depth ≤ d + room := by
  cases h with
  | done => omega
  | property hr h =>
      obtain ⟨m, rfl, rfl⟩ := exists_of_below hr
      have hstep := deepest_add_le m
      have hle := (hbelow m rfl).access (d := d + 1)
        (by rw [Expr.depth]; omega) (by omega) h
      omega
  | index hr hkey h =>
      obtain ⟨m, rfl, rfl⟩ := exists_of_below hr
      have hstep := deepest_add_le m
      have hkey := (hbelow m rfl).conditional hkey
      have hle := (hbelow m rfl).access (d := d + 1)
        (by rw [Expr.depth]; omega) (by omega) h
      omega

include hbelow in
theorem depth_readPrefixed (h : readPrefixed (below room) ts = .ok (e, rest)) :
    e.depth ≤ deepest room + 1 + room := by
  cases prefixedRead h with
  | headed hr ho h =>
      obtain ⟨m, rfl, rfl⟩ := exists_of_below hr
      have hstep := deepest_add_le m
      have hle := (hbelow m rfl).prefixed h
      rw [Expr.depth]
      omega
  | accessed hbase h =>
      have hbase := hbase.depth_le (depth_readConditional hbelow)
      exact h.depth_le hbelow hbase (Nat.le_succ _)

include hbelow in
theorem depth_readChain {level : Level} {tighter : List Level} {left : Expr} {d : Nat}
    (hleft : left.depth ≤ d) (hd : deepest room + 1 + room * (tighter.length + 1) ≤ d)
    (h : readChain (below room) level tighter left ts = .ok (e, rest)) :
    e.depth ≤ d + room := by
  cases chainRead h with
  | done => omega
  | joined hr hright hnode h =>
      obtain ⟨m, rfl, rfl⟩ := exists_of_below hr
      have hstep := deepest_add_le m
      have hright := (hbelow m rfl).binary hright
      rw [Nat.succ_mul] at hd
      have hle := (hbelow m rfl).chain (d := d + 1)
        (by rw [hnode.depth_eq]; omega) (by omega) h
      omega

include hbelow in
theorem depth_readBinary {levels : List Level}
    (h : readBinary (below room) levels ts = .ok (e, rest)) :
    e.depth ≤ deepest room + 1 + room * (levels.length + 1) := by
  induction levels generalizing ts e rest with
  | nil =>
      have hle := depth_readPrefixed hbelow h
      rw [List.length_nil, Nat.zero_add, Nat.mul_one]
      exact hle
  | cons level tighter ih =>
      obtain ⟨⟨left, mid⟩, hleft, h⟩ := exists_ok_of_bind h
      rw [List.length_cons, Nat.mul_succ, ← Nat.add_assoc]
      exact depth_readChain hbelow (ih hleft) (Nat.le_refl _) h

include hbelow in
theorem bounded_above : Bounded room := by
  constructor <;> rw [readers_eq]
  · exact depth_readBinary hbelow
  · exact depth_readChain hbelow
  · exact depth_readPrefixed hbelow
  · exact fun hbase hd h => (accessRead h).depth_le hbelow hbase hd
  · exact depth_readConditional hbelow

/-! ## All rooms -/

/-- **A BOUND FOR EVERY ROOM**: what is read in a room is no deeper than that. -/
theorem bounded_readers (room : Nat) : Bounded room := by
  induction room with
  | zero => exact bounded_above nofun
  | succ room ih => exact bounded_above fun m hm => Nat.succ.inj hm ▸ ih

/-! ## Rules -/

theorem deepest_maxDepth : deepest maxDepth = 57151 := by
  decide +kernel

theorem depth_le_of_ofTokens (h : Expr.ofTokens ts = .ok e) : e.depth ≤ 57151 := by
  rw [← deepest_maxDepth]
  exact (bounded_readers maxDepth).conditional (ofTokens_eq_ok_iff.mp h)

/-- An accepted rule is empty, or it is read from the tokens of its body. -/
theorem ofTokens_of_parse {rule : String} (h : parse rule = .ok e) :
    e = .literal (.bool true) ∨ ∃ ts, Expr.ofTokens ts = .ok e := by
  rw [parse] at h
  cases hread : Expr.ofRule rule with
  | error m =>
      rw [hread] at h
      exact nomatch h
  | ok e' =>
      rw [hread] at h
      obtain rfl : e' = e := Except.ok.inj h
      rw [Expr.ofRule] at hread
      split at hread
      · exact nomatch hread
      · split at hread
        · exact Or.inl (Except.ok.inj hread).symm
        · obtain ⟨ts, -, hts⟩ := exists_ok_of_bind hread
          exact Or.inr ⟨ts, hts⟩

theorem depth_le_of_parse {rule : String} (h : parse rule = .ok e) : e.depth ≤ 57151 := by
  rcases ofTokens_of_parse h with rfl | ⟨ts, hts⟩
  · rw [Expr.depth]
    decide
  · exact depth_le_of_ofTokens hts

/-- What is derived from the tokens of a rule, and is deeper than any tree that is
    read, nests too deeply. -/
theorem parse_of_deeper {rule body : String} (hbody : body? rule = some body)
    (hts : Token.readAll body.toList = .ok ts) (he : Derives .conditional ts e [])
    (hdeep : 57151 < e.depth) : parse rule = .error ⟨rule, .malformed .tooDeep⟩ := by
  have hread : Expr.ofTokens ts = .error .tooDeep := by
    rcases unlessDeep_ofTokens he with hdeeper | hok
    · exact hdeeper
    · exact absurd (depth_le_of_ofTokens hok) (Nat.not_le_of_lt hdeep)
  have hnonempty : body.isEmpty = false := by
    rw [String.isEmpty_eq_false_iff]
    rintro rfl
    -- without tokens nothing is derived
    rw [String.toList_empty, Token.readAll] at hts
    cases hts
    exact absurd he.starts.length_lt (Nat.lt_irrefl 0)
  have hrule : Expr.ofRule rule = .error .tooDeep := by
    rw [Expr.ofRule, hbody]
    dsimp only
    rw [hnonempty, if_neg Bool.false_ne_true, hts]
    exact hread
  rw [parse, hrule]

/-- **A BOUND FOR RULES**: no accepted rule is deeper than 57151, and whatever is
    derived from the tokens of a rule and is deeper nests too deeply. -/
theorem parse_depth (rule : String) :
    (∀ e, parse rule = .ok e → e.depth ≤ 57151) ∧
    (∀ body ts e, body? rule = some body → Token.readAll body.toList = .ok ts →
      Derives .conditional ts e [] → 57151 < e.depth →
      parse rule = .error ⟨rule, .malformed .tooDeep⟩) :=
  ⟨fun _ h => depth_le_of_parse h,
    fun _ _ _ hbody hts he hdeep => parse_of_deeper hbody hts he hdeep⟩

/-- The tree of a small conditional, far below the bound. -/
theorem conditional_within_bound :
    ∃ e, parse "$\x7ba ? b : c\x7d" = .ok e ∧ e.depth = 2 ∧ e.depth ≤ 57151 := by
  have hparse : parse "$\x7ba ? b : c\x7d"
      = .ok (.conditional (.variable "a") (.variable "b") (.variable "c")) := by
    with_unfolding_all rfl
  exact ⟨_, hparse, rfl, (parse_depth _).1 _ hparse⟩

end Cohort.Rule
