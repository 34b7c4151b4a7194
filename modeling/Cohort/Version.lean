import Cohort.Text.Class
import Cohort.Text.Ranges
import Cohort.Decimal.Reader

/-! # Dotted versions

A version is a list of numbers between points. Versions are compared number by number from the
left, and a version that ends early goes on with zeros. What follows the digits of a component is
not looked at. -/

namespace Cohort

/-- The numbers of a version. -/
abbrev Version := List Nat

namespace Version

/-- Components are numbers of sixty-four bits. -/
def componentLimit : Nat := Nat.pow 2 64

/-- The number that the leading digits of a component write: zero without digits, and zero also for
a number that does not fit. -/
def component (cs : List Char) : Nat :=
  let n := Decimal.natural (cs.takeWhile Decimal.isDigit)
  if n < componentLimit then n else 0

/-- The version that a text writes. -/
def ofText (s : String) : Version :=
  (Text.pieces (· == '.') (Text.trimChars s.toList)).map component

/-- A version beside nothing but zeros. -/
def orderToZero : Version → Ordering
  | [] => .eq
  | n :: rest => match compare n 0 with
    | .eq => orderToZero rest
    | o => o

/-- The order of two versions. -/
def order : Version → Version → Ordering
  | [], w => (orderToZero w).swap
  | v, [] => orderToZero v
  | m :: v, n :: w => match compare m n with
    | .eq => order v w
    | o => o

end Version

end Cohort
