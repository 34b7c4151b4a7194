import Cohort.Decimal.Binary

/-! # The shortest decimal that reads back

Every decimal between the midpoints to the two neighbours of a floating-point number reads back
as that number. Among these decimals the ones with the fewest digits are shortest, and of them the
nearest is chosen. For a given count of digits only the two grid points around the number can be
the nearest ones inside, so the search tries one digit, two digits, and so on; seventeen always
suffice. -/

namespace Cohort.Decimal

/-- The digits `0.d₁d₂…` of a positive number and the power of ten they are scaled by. -/
structure Digits where
  digits : List Nat
  point : Int
deriving Repr, DecidableEq

/-- A positive number `value` with the bounds of the decimals that read back as it, all three as
numerators over one denominator. -/
structure Interval where
  low : Nat
  value : Nat
  high : Nat
  denominator : Nat
  /-- The bounds themselves read back: they are ties, which go to an even mantissa. -/
  closed : Bool

/-- The interval of `mantissa * 2 ^ exponent`; below a power of two the neighbour is half as far. -/
def Interval.ofParts (mantissa : Nat) (exponent : Int) : Interval :=
  let below :=
    if mantissa = Binary.leastNormal ∧ Binary.leastExponent < exponent then 1 else 2
  let scale := Nat.pow 2 (exponent - 2).toNat
  { low := (4 * mantissa - below) * scale
    value := 4 * mantissa * scale
    high := (4 * mantissa + 2) * scale
    denominator := Nat.pow 2 (2 - exponent).toNat
    closed := mantissa % 2 == 0 }

/-- The least `k` with `value < 10 ^ k * denominator`, for a number of at least one. -/
def Interval.wholeDigits (i : Interval) : Nat :=
  (Nat.toDigits 10 (i.value / i.denominator)).length

/-- The number of zeros between the point and the first digit of a number below one. -/
def Interval.leadingZeros (i : Interval) : Nat → Nat → Nat
  | 0, found => found
  | room + 1, found =>
      if i.denominator ≤ i.value * Nat.pow 10 (found + 1) then found
      else i.leadingZeros room (found + 1)

/-- The position of the point before the first digit. -/
def Interval.point (i : Interval) : Int :=
  if i.denominator ≤ i.value then i.wholeDigits else -(i.leadingZeros 400 0 : Int)

/-- The digits of a whole number without the zeros at its end. -/
def significantDigits (n : Nat) : List Nat :=
  (((Nat.toDigits 10 n).map fun c => c.toNat - '0'.toNat).reverse.dropWhile (· == 0)).reverse

/-- The nearest decimal of `count` digits inside the interval, if there is one; `tieUp` says which
way a decimal grid point exactly between goes. -/
def Interval.nearest? (i : Interval) (tieUp : Bool) (point : Int) (count : Nat) :
    Option Nat :=
  let grow := Nat.pow 10 ((count : Int) - point).toNat
  let unit := i.denominator * Nat.pow 10 (point - count).toNat
  let value := i.value * grow
  let floor := value / unit
  let rest := value % unit
  let within (n : Nat) : Bool :=
    if i.closed then i.low * grow ≤ n && n ≤ i.high * grow
    else i.low * grow < n && n < i.high * grow
  let downOk := within (floor * unit)
  let upOk := within ((floor + 1) * unit)
  if downOk && upOk then
    if 2 * rest < unit then some floor
    else if unit < 2 * rest then some (floor + 1)
    else if tieUp || floor % 2 == 1 then some (floor + 1) else some floor
  else if downOk then some floor
  else if upOk then some (floor + 1)
  else none

/-- The first count of digits, from `count` on, for which a decimal lies inside. -/
def Interval.search (i : Interval) (tieUp : Bool) (point : Int) : Nat → Nat → Digits
  | 0, _ => ⟨[], 0⟩
  | room + 1, count =>
      match i.nearest? tieUp point count with
      | some n =>
          let written := (Nat.toDigits 10 n).length
          ⟨significantDigits n, point + (written : Int) - (count : Int)⟩
      | none => i.search tieUp point room (count + 1)

/-- The shortest digits of the positive number `mantissa * 2 ^ exponent`. -/
def shortest (tieUp : Bool) (mantissa : Nat) (exponent : Int) : Digits :=
  let i := Interval.ofParts mantissa exponent
  i.search tieUp i.point 20 1

end Cohort.Decimal
