import Cohort.Text.Class

/-! # Searching texts

    A text that stands in another one is found where it stands first: what
    precedes it, the text and what follows it are the whole, and it does not
    start at any character before. -/

namespace Cohort.Text

/-! ## The start of a text -/

theorem stripStart?_eq_some_iff {p cs rest : List Char} :
    stripStart? p cs = some rest ↔ cs = p ++ rest := by
  induction p generalizing cs with
  | nil =>
      rw [stripStart?, List.nil_append]
      exact Option.some_inj
  | cons d p ih =>
      cases cs with
      | nil => exact ⟨nofun, nofun⟩
      | cons c cs =>
          rw [stripStart?, List.cons_append]
          by_cases hd : d = c
          · rw [if_pos hd, ih, hd]
            exact (List.cons_inj_right c).symm
          · rw [if_neg hd]
            exact ⟨nofun, fun h => absurd (List.cons.inj h).1.symm hd⟩

theorem stripStart?_eq_none_iff {p cs : List Char} : stripStart? p cs = none ↔ ¬ p <+: cs := by
  rw [Option.eq_none_iff_forall_ne_some]
  constructor
  · rintro h ⟨rest, rfl⟩
    exact h rest (stripStart?_eq_some_iff.mpr rfl)
  · intro h rest hrest
    exact h ⟨rest, (stripStart?_eq_some_iff.mp hrest).symm⟩

theorem startsWith_iff {p cs : List Char} : startsWith p cs = true ↔ p <+: cs := by
  rw [startsWith, Option.isSome_iff_exists]
  constructor
  · rintro ⟨rest, hrest⟩
    exact ⟨rest, (stripStart?_eq_some_iff.mp hrest).symm⟩
  · rintro ⟨rest, rfl⟩
    exact ⟨rest, stripStart?_eq_some_iff.mpr rfl⟩

/-! ## The first occurrence -/

/-- The first occurrence of `x` in `s` is between `before` and `after`. -/
structure FirstBetween (x s before after : List Char) : Prop where
  whole : s = before ++ (x ++ after)
  first : ∀ j < before.length, ¬ x <+: s.drop j

theorem FirstBetween.eq_append {x s before after : String}
    (h : FirstBetween x.toList s.toList before.toList after.toList) : s = before ++ x ++ after := by
  rw [← String.toList_inj, String.toList_append, String.toList_append, List.append_assoc]
  exact h.whole

theorem FirstBetween.cons {x s before after : List Char} {c : Char} (hc : ¬ x <+: c :: s)
    (h : FirstBetween x s before after) : FirstBetween x (c :: s) (c :: before) after := by
  refine ⟨congrArg (List.cons c) h.whole, ?_⟩
  intro j hj
  cases j with
  | zero => exact hc
  | succ j => exact h.first j (Nat.lt_of_succ_lt_succ hj)

/-- What a search finds is the first occurrence. -/
theorem firstBetween_of_splitFirst? {x s before after : List Char}
    (h : splitFirst? x s = some (before, after)) : FirstBetween x s before after := by
  induction s generalizing before with
  | nil =>
      cases x with
      | nil =>
          obtain ⟨rfl, rfl⟩ := Prod.mk.inj (Option.some.inj h)
          exact ⟨rfl, nofun⟩
      | cons d x => exact nomatch h
  | cons c s ih =>
      rw [splitFirst?] at h
      cases hstrip : stripStart? x (c :: s) with
      | some rest =>
          rw [hstrip] at h
          obtain ⟨rfl, rfl⟩ := Prod.mk.inj (Option.some.inj h)
          exact ⟨(stripStart?_eq_some_iff.mp hstrip : c :: s = x ++ rest), nofun⟩
      | none =>
          rw [hstrip] at h
          obtain ⟨⟨b, a⟩, hsplit, heq⟩ := Option.map_eq_some_iff.mp h
          obtain ⟨rfl, rfl⟩ := Prod.mk.inj heq
          exact (ih hsplit).cons (stripStart?_eq_none_iff.mp hstrip)

/-- Where a search finds nothing there is nothing. -/
theorem not_infix_of_splitFirst? {x s : List Char} (h : splitFirst? x s = none) : ¬ x <:+: s := by
  induction s with
  | nil =>
      cases x with
      | nil => exact nomatch h
      | cons d x => exact fun hinfix => nomatch List.infix_nil.mp hinfix
  | cons c s ih =>
      rw [splitFirst?] at h
      cases hstrip : stripStart? x (c :: s) with
      | some rest =>
          rw [hstrip] at h
          exact nomatch h
      | none =>
          rw [hstrip] at h
          rw [List.infix_cons_iff, not_or]
          exact ⟨stripStart?_eq_none_iff.mp hstrip, ih (Option.map_eq_none_iff.mp h)⟩

end Cohort.Text
