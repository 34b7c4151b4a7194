import Cohort.Rule.Evaluation

/-! # Parsing each rule once

A cache keeps the first rule it is asked for together with what parsing it gave, an error included.
It stands beside one rule of a test, so it is asked for that rule again and again; asked for another
text it parses that text anew and keeps what it has.

What a cache holds is always the parse of the text it holds it for. This is part of its type, so
that no cache, however it was filled, can change an answer. -/

namespace Cohort.Rule

/-- At most one rule with its parse. -/
structure Cache where
  kept : Option (String × Except Error Expr)
  kept_eq : ∀ rule parsed, kept = some (rule, parsed) → parsed = parse rule

namespace Cache

/-- A cache that was not used yet. -/
def empty : Cache := ⟨none, fun _ _ h => nomatch h⟩

instance : Inhabited Cache := ⟨empty⟩

/-- The cache of one rule. -/
def filledWith (rule : String) : Cache :=
  ⟨some (rule, parse rule), fun _ _ h => by cases h; rfl⟩

/-- The cache was used. -/
def isFilled (c : Cache) : Bool :=
  c.kept.isSome

/-- The parse of a rule, and the cache after asking for it. -/
def parsed (c : Cache) (rule : String) : Except Error Expr × Cache :=
  match c.kept with
  | none => let filled := filledWith rule; (parse rule, filled)
  | some (known, p) => if known = rule then (p, c) else (parse rule, c)

/-- The cache answers from what it keeps; a cache that is filled for another text does not. -/
def serves (c : Cache) (rule : String) : Bool :=
  match c.kept with
  | none => true
  | some (known, _) => known == rule

/-- Whatever the cache keeps, it answers with the parse of the text it is asked for. -/
theorem parsed_fst (c : Cache) (rule : String) : (c.parsed rule).1 = parse rule := by
  unfold parsed
  split
  · rfl
  · next known p hk =>
      split
      · next he => exact (c.kept_eq known p hk).trans (congrArg parse he)
      · rfl

/-- The answer to a rule parsed through a cache, and the cache afterwards. Blank rules do not reach
the cache. -/
def evaluate (c : Cache) (l : Library) (rule : Option String) (s : Scope) : Answer Bool × Cache :=
  match rule with
  | none => (pure true, c)
  | some rule =>
      if Text.isBlankText rule then (pure true, c)
      else
        let (parsed, c) := c.parsed rule
        (answerParsed l s rule parsed, c)

end Cache

end Cohort.Rule
