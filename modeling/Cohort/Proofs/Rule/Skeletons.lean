import Cohort.Proofs.Rule.PartialAnalysis

/-! # Skeletons are faithful to their rules

    What is left of a rule that reads unknown variables is a tree of its
    connectives.  Places in it are places in the rule: at each of them stands
    what the tree keeps of the part of the rule in that place.  A part whose
    variables are all known is kept as a whole, and nothing above it is, so
    the known parts are as great as they can be; a part that misses a variable
    and is no connective is not kept at all.  With the parts put back in their
    places the tree is the rule again, and no other tree is faithful. -/

namespace Cohort.Rule

variable {known : NameSet} {e : Expr} {skeleton : Skeleton}

/-! ## Places -/

/-- An operand of a connective; that of `!` is the left one. -/
inductive Side where
  | left
  | right

/-- The operand of a connective on a side. -/
def Expr.connected? : Expr → Side → Option Expr
  | .and a _, .left => some a
  | .and _ b, .right => some b
  | .or a _, .left => some a
  | .or _ b, .right => some b
  | .unary .not a, .left => some a
  | _, _ => none

/-- The part of an expression in a place, reached through connectives. -/
def Expr.at? (e : Expr) : List Side → Option Expr
  | [] => some e
  | side :: place => (e.connected? side).bind fun operand => operand.at? place

/-- The operand of a connective of a skeleton on a side. -/
def Skeleton.connected? : Skeleton → Side → Option Skeleton
  | .and a _, .left => some a
  | .and _ b, .right => some b
  | .or a _, .left => some a
  | .or _ b, .right => some b
  | .not a, .left => some a
  | _, _ => none

/-- The part of a skeleton in a place. -/
def Skeleton.at? (skeleton : Skeleton) : List Side → Option Skeleton
  | [] => some skeleton
  | side :: place => (skeleton.connected? side).bind fun operand => operand.at? place

/-- The expression that a skeleton comes to, with what is not known put back in its place. -/
def Skeleton.putBack : Skeleton → (List Side → Expr) → Expr
  | .known e, _ => e
  | .unknown, parts => parts []
  | .and a b, parts =>
      .and (a.putBack fun place => parts (.left :: place))
        (b.putBack fun place => parts (.right :: place))
  | .or a b, parts =>
      .or (a.putBack fun place => parts (.left :: place))
        (b.putBack fun place => parts (.right :: place))
  | .not a, parts => .unary .not (a.putBack fun place => parts (.left :: place))

/-! ## Faithful skeletons -/

/-- Every variable of the expression is known. -/
def Expr.ReadsInside (known : NameSet) (e : Expr) : Prop :=
  ∀ name ∈ e.variableNames, name ∈ known

/-- Some variable of the expression is not known. -/
def Expr.ReadsOutside (known : NameSet) (e : Expr) : Prop :=
  ∃ name ∈ e.variableNames, name ∉ known

/-- One of the operators `&&`, `||` and `!`. -/
def Expr.IsConnective : Expr → Prop
  | .and _ _ => True
  | .or _ _ => True
  | .unary .not _ => True
  | _ => False

/-- What a skeleton keeps of an expression, at its root. -/
def Skeleton.Keeps (known : NameSet) (e : Expr) : Skeleton → Prop
  | .known part => part = e ∧ e.ReadsInside known
  | .unknown => e.ReadsOutside known ∧ ¬ e.IsConnective
  | .and _ _ => e.ReadsOutside known ∧ ∃ a b, e = .and a b
  | .or _ _ => e.ReadsOutside known ∧ ∃ a b, e = .or a b
  | .not _ => e.ReadsOutside known ∧ ∃ a, e = .unary .not a

/-- In every place of the skeleton stands what it keeps of the part of the expression in that
    place, and with the parts put back it is the expression. -/
structure Skeleton.Faithful (known : NameSet) (e : Expr) (skeleton : Skeleton) : Prop where
  keeps : ∀ place node, skeleton.at? place = some node →
    ∃ part, e.at? place = some part ∧ node.Keeps known part
  restores : skeleton.putBack (fun place => (e.at? place).getD default) = e

theorem readsInside_iff : e.ReadsInside known ↔ e.readsOnly known = true := by
  rw [readsOnly_iff, Expr.ReadsInside]
  simp only [Expr.variableNames, NameSet.mem_ofList]

theorem readsOutside_iff : e.ReadsOutside known ↔ ¬ e.readsOnly known = true := by
  rw [← readsInside_iff, Expr.ReadsInside, Expr.ReadsOutside]
  simp only [not_forall, exists_prop]

/-! ## One connective after the other

    The same, said along the tree: this is how skeletons are built, and what
    inductions run over. -/

/-- The skeleton stands for the expression. -/
inductive Stands (known : NameSet) : Expr → Skeleton → Prop where
  | known {e : Expr} : e.ReadsInside known → Stands known e (.known e)
  | unknown {e : Expr} : e.ReadsOutside known → ¬ e.IsConnective → Stands known e .unknown
  | and {a b : Expr} {left right : Skeleton} : (Expr.and a b).ReadsOutside known →
      Stands known a left → Stands known b right → Stands known (.and a b) (.and left right)
  | or {a b : Expr} {left right : Skeleton} : (Expr.or a b).ReadsOutside known →
      Stands known a left → Stands known b right → Stands known (.or a b) (.or left right)
  | not {a : Expr} {operand : Skeleton} : (Expr.unary .not a).ReadsOutside known →
      Stands known a operand → Stands known (.unary .not a) (.not operand)

/-- **THE SKELETON STANDS FOR THE RULE**, by the recursion that builds it. -/
theorem stands_ofExpr (known : NameSet) (e : Expr) :
    Stands known e (PartialRule.ofExpr known e).skeleton := by
  have hcomplete : ∀ {e : Expr}, e.readsOnly known = true →
      Stands known e (PartialRule.ofExpr known e).skeleton := by
    intro e he
    rw [ofExpr_of_readsOnly he]
    exact .known (readsInside_iff.mpr he)
  induction e using PartialRule.ofExpr.induct known with
  | case1 a b he => exact hcomplete he
  | case2 a b he iha ihb =>
      rw [PartialRule.ofExpr, if_neg he]
      exact .and (readsOutside_iff.mpr he) iha ihb
  | case3 a b he => exact hcomplete he
  | case4 a b he iha ihb =>
      rw [PartialRule.ofExpr, if_neg he]
      exact .or (readsOutside_iff.mpr he) iha ihb
  | case5 a he => exact hcomplete he
  | case6 a he iha =>
      rw [PartialRule.ofExpr, if_neg he]
      exact .not (readsOutside_iff.mpr he) iha
  | case7 e hand hor hnot he => exact hcomplete he
  | case8 e hand hor hnot he =>
      have hno : ¬ e.IsConnective := by
        intro hconnective
        unfold Expr.IsConnective at hconnective
        split at hconnective
        · next a b => exact hand a b rfl
        · next a b => exact hor a b rfl
        · next a => exact hnot a rfl
        · exact hconnective
      rw [PartialRule.ofExpr, if_neg he]
      · exact .unknown (readsOutside_iff.mpr he) hno
      · exact hand
      · exact hor
      · exact hnot

namespace Stands

/-- One skeleton stands for an expression. -/
theorem unique {skeleton' : Skeleton} (h : Stands known e skeleton)
    (h' : Stands known e skeleton') : skeleton = skeleton' := by
  have hapart : ∀ {e : Expr}, e.ReadsInside known → ¬ e.ReadsOutside known :=
    fun hin ⟨name, hname, hout⟩ => hout (hin name hname)
  induction h generalizing skeleton' with
  | known hin =>
      cases h' with
      | known _ => rfl
      | unknown hout _ => exact absurd hout (hapart hin)
      | and hout _ _ => exact absurd hout (hapart hin)
      | or hout _ _ => exact absurd hout (hapart hin)
      | not hout _ => exact absurd hout (hapart hin)
  | unknown hout hno =>
      cases h' with
      | known hin => exact absurd hout (hapart hin)
      | unknown _ _ => rfl
      | and _ _ _ => exact absurd trivial hno
      | or _ _ _ => exact absurd trivial hno
      | not _ _ => exact absurd trivial hno
  | and hout _ _ iha ihb =>
      cases h' with
      | known hin => exact absurd hout (hapart hin)
      | unknown _ hno => exact absurd trivial hno
      | and _ ha hb => rw [iha ha, ihb hb]
  | or hout _ _ iha ihb =>
      cases h' with
      | known hin => exact absurd hout (hapart hin)
      | unknown _ hno => exact absurd trivial hno
      | or _ ha hb => rw [iha ha, ihb hb]
  | not hout _ ih =>
      cases h' with
      | known hin => exact absurd hout (hapart hin)
      | unknown _ hno => exact absurd trivial hno
      | not _ ha => rw [ih ha]

theorem keeps (h : Stands known e skeleton) : skeleton.Keeps known e := by
  cases h with
  | known hin => exact ⟨rfl, hin⟩
  | unknown hout hno => exact ⟨hout, hno⟩
  | and hout _ _ => exact ⟨hout, _, _, rfl⟩
  | or hout _ _ => exact ⟨hout, _, _, rfl⟩
  | not hout _ => exact ⟨hout, _, rfl⟩

/-- On a side of the skeleton, it stands for the operand on that side. -/
theorem connected {side : Side} {node : Skeleton} (h : Stands known e skeleton)
    (hnode : skeleton.connected? side = some node) :
    ∃ part, e.connected? side = some part ∧ Stands known part node := by
  cases h with
  | known _ => cases side <;> exact nomatch hnode
  | unknown _ _ => cases side <;> exact nomatch hnode
  | and _ ha hb =>
      cases side with
      | left => exact ⟨_, rfl, Option.some.inj hnode ▸ ha⟩
      | right => exact ⟨_, rfl, Option.some.inj hnode ▸ hb⟩
  | or _ ha hb =>
      cases side with
      | left => exact ⟨_, rfl, Option.some.inj hnode ▸ ha⟩
      | right => exact ⟨_, rfl, Option.some.inj hnode ▸ hb⟩
  | not _ ha =>
      cases side with
      | left => exact ⟨_, rfl, Option.some.inj hnode ▸ ha⟩
      | right => exact nomatch hnode

/-- The skeleton in a place stands for the part in that place. -/
theorem at? {place : List Side} {node : Skeleton} (h : Stands known e skeleton)
    (hnode : skeleton.at? place = some node) :
    ∃ part, e.at? place = some part ∧ Stands known part node := by
  induction place generalizing e skeleton with
  | nil =>
      obtain rfl : skeleton = node := Option.some.inj hnode
      exact ⟨e, rfl, h⟩
  | cons side place ih =>
      obtain ⟨operand, hoperand, hnode⟩ := Option.bind_eq_some_iff.mp hnode
      obtain ⟨part, hpart, hstands⟩ := h.connected hoperand
      obtain ⟨deeper, hdeeper, hdeep⟩ := ih hstands hnode
      refine ⟨deeper, ?_, hdeep⟩
      rw [Expr.at?, hpart]
      exact hdeeper

/-- The parts put back in their places make up the expression. -/
theorem putBack (h : Stands known e skeleton) :
    skeleton.putBack (fun place => (e.at? place).getD default) = e := by
  induction h with
  | known _ => rfl
  | unknown _ _ => rfl
  | and _ _ _ iha ihb => exact congrArg₂ Expr.and iha ihb
  | or _ _ _ iha ihb => exact congrArg₂ Expr.or iha ihb
  | not _ _ ih => exact congrArg (Expr.unary .not) ih

theorem faithful (h : Stands known e skeleton) : skeleton.Faithful known e := by
  refine ⟨?_, h.putBack⟩
  intro place node hnode
  obtain ⟨part, hpart, hstands⟩ := h.at? hnode
  exact ⟨part, hpart, hstands.keeps⟩

end Stands

/-! ## Faithful means built -/

/-- A side of a faithful skeleton is faithful to the operand on that side. -/
theorem Skeleton.Faithful.connected {part : Expr} {node : Skeleton}
    (h : skeleton.Faithful known e) (side : Side) (hpart : e.connected? side = some part)
    (hnode : skeleton.connected? side = some node)
    (hrestores : node.putBack (fun place => (part.at? place).getD default) = part) :
    node.Faithful known part := by
  refine ⟨?_, hrestores⟩
  intro place deep hdeep
  obtain ⟨x, hx, hkeeps⟩ := h.keeps (side :: place) deep (by
    rw [Skeleton.at?, hnode]
    exact hdeep)
  rw [Expr.at?, hpart] at hx
  exact ⟨x, hx, hkeeps⟩

/-- A skeleton is faithful only if it stands for the expression. -/
theorem Skeleton.Faithful.stands (h : skeleton.Faithful known e) : Stands known e skeleton := by
  induction skeleton generalizing e with
  | known part =>
      obtain ⟨x, hx, rfl, hin⟩ := h.keeps [] _ rfl
      obtain rfl := Option.some.inj hx
      exact .known hin
  | unknown =>
      obtain ⟨x, hx, hout, hno⟩ := h.keeps [] _ rfl
      obtain rfl := Option.some.inj hx
      exact .unknown hout hno
  | and left right ihl ihr =>
      obtain ⟨x, hx, hout, a, b, rfl⟩ := h.keeps [] _ rfl
      obtain rfl := Option.some.inj hx
      obtain ⟨hl, hr⟩ := Expr.and.inj h.restores
      exact .and hout (ihl (h.connected .left rfl rfl hl))
        (ihr (h.connected .right rfl rfl hr))
  | or left right ihl ihr =>
      obtain ⟨x, hx, hout, a, b, rfl⟩ := h.keeps [] _ rfl
      obtain rfl := Option.some.inj hx
      obtain ⟨hl, hr⟩ := Expr.or.inj h.restores
      exact .or hout (ihl (h.connected .left rfl rfl hl))
        (ihr (h.connected .right rfl rfl hr))
  | not operand ih =>
      obtain ⟨x, hx, hout, a, rfl⟩ := h.keeps [] _ rfl
      obtain rfl := Option.some.inj hx
      obtain ⟨-, ha⟩ := Expr.unary.inj h.restores
      exact .not hout (ih (h.connected .left rfl rfl ha))

/-! ## Rules -/

/-- Where a variable is unknown, a skeleton is left. -/
theorem ofExpr_of_readsOutside (h : e.ReadsOutside known) :
    PartialRule.ofExpr known e = .notFalse (PartialRule.ofExpr known e).skeleton := by
  have hno := readsOutside_iff.mp h
  fun_cases PartialRule.ofExpr known e with
  | case1 a b he => exact absurd he hno
  | case2 a b _ => rfl
  | case3 a b he => exact absurd he hno
  | case4 a b _ => rfl
  | case5 a he => exact absurd he hno
  | case6 a _ => rfl
  | case7 => next he => exact absurd he hno
  | case8 => rfl

theorem ofExpr_of_readsInside (h : e.ReadsInside known) :
    PartialRule.ofExpr known e = .complete e :=
  ofExpr_of_readsOnly (readsInside_iff.mp h)

/-- **FAITHFUL TO THE RULE**: a rule is left as it is exactly if all its variables are known.
    Otherwise a skeleton is left.  Its inner nodes are the connectives of the rule in their own
    places, each over some unknown variable; its leaves are parts of the rule that read known
    variables only, and gaps for parts that read an unknown one and are no connectives; with all
    parts put back it is the rule.  No other skeleton is like that. -/
theorem ofExpr_is_faithful (known : NameSet) (e : Expr) :
    (PartialRule.ofExpr known e = .complete e ↔ e.ReadsInside known) ∧
    ((PartialRule.ofExpr known e).hasUnknowns = true ↔ e.ReadsOutside known) ∧
    (e.ReadsOutside known → ∃ skeleton, PartialRule.ofExpr known e = .notFalse skeleton ∧
      skeleton.Faithful known e ∧
      ∀ skeleton', skeleton'.Faithful known e → skeleton' = skeleton) := by
  have hstands := stands_ofExpr known e
  by_cases hread : e.readsOnly known = true
  · have hin := readsInside_iff.mpr hread
    have hout : ¬ e.ReadsOutside known := fun hout => readsOutside_iff.mp hout hread
    rw [ofExpr_of_readsInside hin]
    exact ⟨iff_of_true rfl hin, iff_of_false nofun hout, fun h => absurd h hout⟩
  · have hout := readsOutside_iff.mpr hread
    have hin : ¬ e.ReadsInside known := fun hin => hread (readsInside_iff.mp hin)
    rw [ofExpr_of_readsOutside hout]
    refine ⟨iff_of_false nofun hin, iff_of_true rfl hout, fun _ => ?_⟩
    exact ⟨_, rfl, hstands.faithful, fun _ h => h.stands.unique hstands⟩

/-- With the country known, of a rule for those who are neither favoured nor from a country, in
    some language, the negation and the comparison of the country are kept. -/
theorem comparison_in_its_place :
    let known := NameSet.ofList ["country"]
    let american := Expr.binary .equal (.variable "country") (.literal (.string "US"))
    let rule := Expr.and (.unary .not (.or (.variable "vip") american))
      (.binary .equal (.variable "lang") (.literal (.string "en")))
    rule.ReadsOutside known ∧
    ∃ skeleton, PartialRule.ofExpr known rule = .notFalse skeleton ∧
      skeleton = .and (.not (.or .unknown (.known american))) .unknown ∧
      skeleton.Faithful known rule ∧
      ∀ skeleton', skeleton'.Faithful known rule → skeleton' = skeleton := by
  intro known american rule
  have hout : rule.ReadsOutside known := ⟨"vip", by decide, by decide⟩
  obtain ⟨skeleton, hskeleton, hfaithful, honly⟩ := (ofExpr_is_faithful known rule).2.2 hout
  refine ⟨hout, skeleton, hskeleton, ?_, hfaithful, honly⟩
  have hbuilt : PartialRule.ofExpr known rule
      = .notFalse (.and (.not (.or .unknown (.known american))) .unknown) := rfl
  exact PartialRule.notFalse.inj (hskeleton.symm.trans hbuilt)

end Cohort.Rule
