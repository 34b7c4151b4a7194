import Cohort.Decimal.Shortest

/-! # How a floating-point number is written

All printed numbers carry the shortest digits; the formats differ in when they change to an
exponent and in whether a whole number keeps its `.0`. A `Layout` records these decisions, and the
three layouts of the library stand at the end. -/

namespace Cohort.Decimal

/-- The decisions of one number format. The point of a number is the power of ten that its digits
`0.d₁d₂…` are scaled by. -/
structure Layout where
  /-- Numbers with a lesser point get an exponent. -/
  lowestPoint : Option Int
  /-- Numbers with a greater point get an exponent. -/
  highestPoint : Option Int
  /-- A whole number written without exponent ends in `.0`. -/
  keepsFraction : Bool
  /-- A tie between two shortest decimals goes up; otherwise to the even digit. -/
  tieUp : Bool

/-- A digit. -/
def digitChar (n : Nat) : Char :=
  Char.ofNat ('0'.toNat + n)

/-- The digits with the point among, before or behind them. -/
def positional (keepsFraction : Bool) (d : Digits) : List Char :=
  let digits := d.digits.map digitChar
  let count : Int := digits.length
  if d.point ≤ 0 then ['0', '.'] ++ List.replicate (-d.point).toNat '0' ++ digits
  else if d.point < count then digits.take d.point.toNat ++ '.' :: digits.drop d.point.toNat
  else digits ++ List.replicate (d.point - count).toNat '0' ++
    if keepsFraction then ['.', '0'] else []

/-- One digit before the point and a power of ten behind. -/
def scientific (d : Digits) : List Char :=
  let head := match d.digits with
    | [] => ['0']
    | [a] => [digitChar a]
    | a :: rest => digitChar a :: '.' :: rest.map digitChar
  head ++ 'e' :: (toString (d.point - 1)).toList

/-- The number needs no exponent. -/
def Layout.isPositional (l : Layout) (d : Digits) : Bool :=
  (match l.lowestPoint with
    | some k => decide (k ≤ d.point)
    | none => true) &&
  (match l.highestPoint with
    | some k => decide (d.point ≤ k)
    | none => true)

/-- The sign in front. -/
def signed (negative : Bool) (cs : List Char) : String :=
  String.ofList (if negative then '-' :: cs else cs)

/-- A number as the layout writes it. -/
def Layout.text (l : Layout) (x : Float) : String :=
  match Binary.ofFloat x with
  | .nan => "NaN"
  | .infinite negative => signed negative "inf".toList
  | .finite negative m q =>
      if m = 0 then signed negative (if l.keepsFraction then ['0', '.', '0'] else ['0'])
      else
        let d := shortest l.tieUp m q
        signed negative (if l.isPositional d then positional l.keepsFraction d else scientific d)

/-- In messages a number never has an exponent, and a whole one no fraction. -/
def messageLayout : Layout := ⟨none, none, false, true⟩

/-- In a token shown for diagnosis, numbers from `0.0001` to below `1e16` have no exponent. -/
def tokenLayout : Layout := ⟨some (-3), some 16, true, true⟩

/-- In documents, numbers from `0.00001` to below `1e16` have no exponent. -/
def documentLayout : Layout := ⟨some (-4), some 16, true, false⟩

end Cohort.Decimal
