import Cohort.Text.Ranges

/-! # Pieces between separators

    Texts are taken apart at separators in many places: at commas, at points,
    at slashes.  Nothing is lost by it but the separators: the pieces joined
    again are the text, and texts without separators are the pieces of what
    they are joined to. -/

namespace Cohort.Text

variable {α : Type} {p : α → Bool}

/-- The list library splits lists into the same pieces. -/
theorem pieces_eq_splitOnP (p : α → Bool) (xs : List α) : pieces p xs = xs.splitOnP p := by
  induction xs with
  | nil => rfl
  | cons c cs ih =>
      rw [pieces, List.splitOnP_cons_eq_if_modifyHead, ih]
      by_cases hc : p c = true
      · rw [if_pos hc, if_pos hc]
      · rw [if_neg hc, if_neg hc]
        cases hpieces : cs.splitOnP p with
        | nil => exact absurd hpieces (List.splitOnP_ne_nil p cs)
        | cons w ws => rfl

/-- There is one piece at least. -/
theorem pieces_ne_nil (p : α → Bool) (xs : List α) : pieces p xs ≠ [] := by
  rw [pieces_eq_splitOnP]
  exact List.splitOnP_ne_nil p xs

/-- A separator ends a piece. -/
theorem pieces_append_cons {a : α} (ha : p a = true) (xs ys : List α) :
    pieces p (xs ++ a :: ys) = pieces p xs ++ pieces p ys := by
  rw [pieces_eq_splitOnP, pieces_eq_splitOnP, pieces_eq_splitOnP]
  exact List.splitOnP_append_cons xs ys ha

/-- Without a separator there is one piece only. -/
theorem pieces_eq_singleton {xs : List α} (h : ∀ x ∈ xs, p x = false) : pieces p xs = [xs] := by
  rw [pieces_eq_splitOnP]
  exact List.splitOnP_eq_singleton h

variable [BEq α] [LawfulBEq α]

/-- **SPLITTING UNDOES JOINING**: texts that are joined by a separator that is in none of them
    are the pieces. -/
theorem pieces_intercalate {a : α} {parts : List (List α)} (h : ∀ part ∈ parts, a ∉ part)
    (hsome : parts ≠ []) : pieces (· == a) ([a].intercalate parts) = parts := by
  rw [pieces_eq_splitOnP]
  exact List.splitOn_intercalate a h hsome

end Cohort.Text
