import Cohort.Proofs.Rule.Grammar.Steps

/-! # What is read is derived

    The readers of a room go on in those of the room below, so soundness is
    carried up from room to room, one reader at a time.  A chain of operators
    and the accesses behind a base are read in the middle of a phrase: what is
    carried for them is that they complete a derivation that has begun. -/

namespace Cohort.Rule

variable {below : Option Readers} {ts mid rest : List Token} {e : Expr}

/-! ## One room -/

/-- The levels whose operands and operators a phrase is made of. -/
inductive Descends : List Level → Phrase → Prop where
  | prefixed : Descends [] .prefixed
  | binary (level : Level) {tighter : List Level} (h : Descends tighter level.operand) :
      Descends (level :: tighter) (.binary level)

theorem descends_all : Descends Level.all (.binary .or) :=
  .binary _ <| .binary _ <| .binary _ <| .binary _ <| .binary _ <| .binary _ .prefixed

/-- What the readers read is derived. -/
structure Sound (r : Readers) : Prop where
  binary : ∀ {levels : List Level} {c : Phrase} {ts rest : List Token} {e : Expr},
    Descends levels c → r.binary levels ts = .ok (e, rest) → Derives c ts e rest
  chain : ∀ {level : Level} {tighter : List Level} {left e : Expr}
      {ts mid rest : List Token}, Descends tighter level.operand →
    Derives (.binary level) ts left mid → r.chain level tighter left mid = .ok (e, rest) →
    Derives (.binary level) ts e rest
  prefixed : ∀ {ts rest : List Token} {e : Expr},
    r.prefixed ts = .ok (e, rest) → Derives .prefixed ts e rest
  access : ∀ {base e : Expr} {ts mid rest : List Token},
    Derives .access ts base mid → r.access base mid = .ok (e, rest) →
    Derives .access ts e rest
  conditional : ∀ {ts rest : List Token} {e : Expr},
    r.conditional ts = .ok (e, rest) → Derives .conditional ts e rest

variable (hbelow : ∀ r, below = some r → Sound r)

include hbelow in
theorem derives_of_readConditional (h : readConditional below ts = .ok (e, rest)) :
    Derives .conditional ts e rest := by
  obtain ⟨r, hr, h⟩ := conditionalRead h
  have hsound := hbelow r hr
  cases h with
  | choice hcondition hyes hno =>
      exact .choice (hsound.binary descends_all hcondition) (hsound.conditional hyes)
        (hsound.conditional hno)
  | single h => exact .single (hsound.binary descends_all h)

theorem ArgumentsRead.derives {conditional : List Token → Reading}
    (hconditional : ∀ {ts rest : List Token} {e : Expr},
      conditional ts = .ok (e, rest) → Derives .conditional ts e rest)
    {es : List Expr} (h : ArgumentsRead conditional ts es rest) :
    DerivesArguments ts es rest := by
  induction h with
  | last h => exact .last (hconditional h)
  | more h hothers ih => exact .more (hconditional h) ih

theorem PrimaryRead.derives {conditional : List Token → Reading}
    (hconditional : ∀ {ts rest : List Token} {e : Expr},
      conditional ts = .ok (e, rest) → Derives .conditional ts e rest)
    (h : PrimaryRead conditional ts e rest) : Derives .primary ts e rest := by
  cases h with
  | int => exact .int
  | float => exact .float
  | text => exact .text
  | parenthesized h => exact .parenthesized (hconditional h)
  | name hname halone => exact .name hname halone
  | constant hcall => exact .constant hcall
  | call hcall h => exact .call hcall (h.derives hconditional)

include hbelow in
theorem AccessRead.derives {base : Expr} (hbase : Derives .access ts base mid)
    (h : AccessRead below base mid e rest) : Derives .access ts e rest := by
  cases h with
  | done => exact hbase
  | property hr h => exact (hbelow _ hr).access (.property hbase) h
  | index hr hkey h =>
      have hsound := hbelow _ hr
      exact hsound.access (.index hbase (hsound.conditional hkey)) h

include hbelow in
theorem derives_of_readPrefixed (h : readPrefixed below ts = .ok (e, rest)) :
    Derives .prefixed ts e rest := by
  cases prefixedRead h with
  | headed hr ho h => exact .headed ho ((hbelow _ hr).prefixed h)
  | accessed hbase h =>
      have hbase := hbase.derives (derives_of_readConditional hbelow)
      exact .accessed (h.derives hbelow (.base hbase))

include hbelow in
theorem derives_of_readChain {level : Level} {tighter : List Level} {left : Expr}
    (htighter : Descends tighter level.operand)
    (hleft : Derives (.binary level) ts left mid)
    (h : readChain below level tighter left mid = .ok (e, rest)) :
    Derives (.binary level) ts e rest := by
  cases chainRead h with
  | done => exact hleft
  | joined hr hright hnode h =>
      have hright := (hbelow _ hr).binary htighter hright
      exact (hbelow _ hr).chain htighter (.joined hleft hright hnode) h

include hbelow in
theorem derives_of_readBinary {levels : List Level} {c : Phrase}
    (hlevels : Descends levels c) (h : readBinary below levels ts = .ok (e, rest)) :
    Derives c ts e rest := by
  induction hlevels generalizing ts e rest with
  | prefixed => exact derives_of_readPrefixed hbelow h
  | binary level htighter ih =>
      obtain ⟨⟨left, mid⟩, hleft, h⟩ := exists_ok_of_bind h
      exact derives_of_readChain hbelow htighter (.operand (ih hleft)) h

include hbelow in
theorem sound_above : Sound (Readers.above below) where
  binary := derives_of_readBinary hbelow
  chain := derives_of_readChain hbelow
  prefixed := derives_of_readPrefixed hbelow
  access := fun hbase h => (accessRead h).derives hbelow hbase
  conditional := derives_of_readConditional hbelow

/-! ## All rooms -/

/-- **SOUNDNESS**: the readers of every room read what the grammar derives. -/
theorem sound_readers (room : Nat) : Sound (readers room) := by
  induction room with
  | zero => exact sound_above fun r h => nomatch h
  | succ room ih => exact sound_above fun r h => Option.some.inj h ▸ ih

/-- The expression of a rule is read in the full room, and nothing stands behind
    it. -/
theorem ofTokens_eq_ok_iff :
    Expr.ofTokens ts = .ok e ↔ (readers maxDepth).conditional ts = .ok (e, []) := by
  rw [Expr.ofTokens]
  constructor
  · intro h
    obtain ⟨⟨e', rest⟩, hread, h⟩ := exists_ok_of_bind h
    dsimp only at h
    split at h
    · cases h
      exact hread
    · exact nomatch h
  · intro h
    rw [h]
    rfl

/-- A rule is derived from its first token to its last. -/
theorem derives_of_ofTokens (h : Expr.ofTokens ts = .ok e) :
    Derives .conditional ts e [] :=
  (sound_readers maxDepth).conditional (ofTokens_eq_ok_iff.mp h)

end Cohort.Rule
