import Cohort.Decimal.Binary

/-! # Reading numbers

Whole numbers are an optional sign and ASCII digits; they are read exactly and then have to fit
the word they are meant for. Floating-point numbers are rounded once, from the exact decimal. -/

namespace Cohort.Decimal

/-- ASCII digits, the only ones that numbers are written in. -/
def isDigit (c : Char) : Bool :=
  '0' ≤ c && c ≤ '9'

/-- The value of a digit. -/
def digitValue (c : Char) : Nat :=
  c.toNat - '0'.toNat

/-- The number written by a run of digits, after the digits of `start`. -/
def naturalFrom (start : Nat) (cs : List Char) : Nat :=
  cs.foldl (fun n c => 10 * n + digitValue c) start

/-- The number written by a run of digits. -/
def natural (cs : List Char) : Nat :=
  naturalFrom 0 cs

/-- A non-empty run of digits. -/
def natural? (cs : List Char) : Option Nat :=
  if cs.isEmpty || !cs.all isDigit then none else some (natural cs)

/-- Digits with an optional sign. -/
def integer? : List Char → Option Int
  | '-' :: cs => (natural? cs).map fun n => -(n : Int)
  | '+' :: cs => (natural? cs).map fun n => (n : Int)
  | cs => (natural? cs).map fun n => (n : Int)

/-- The number as a signed word of sixty-four bits, if it fits. -/
def fit64? (n : Int) : Option Int64 :=
  if -Int.pow 2 63 ≤ n ∧ n < Int.pow 2 63 then some (Int64.ofInt n) else none

/-- The number as a signed word of thirty-two bits, if it fits. -/
def fit32? (n : Int) : Option Int32 :=
  if -Int.pow 2 31 ≤ n ∧ n < Int.pow 2 31 then some (Int32.ofInt n) else none

/-- A signed whole number of sixty-four bits. -/
def int64? (cs : List Char) : Option Int64 :=
  (integer? cs).bind fit64?

/-- A signed whole number of thirty-two bits. -/
def int32? (cs : List Char) : Option Int32 :=
  (integer? cs).bind fit32?

/-- The word as a floating-point number. -/
def floatOf64 (n : Int64) : Float :=
  Float.ofInt n.toInt

/-! ## Floating-point numbers -/

/-- Infinity. -/
def infinity : Float := 1.0 / 0.0

/-- The floating-point number nearest to `mantissa * 10 ^ exponent`. -/
def nearestFloat (mantissa : Nat) (exponent : Int) : Float :=
  if mantissa = 0 then 0.0
  else
    let size : Int := (Nat.toDigits 10 mantissa).length + exponent
    if 400 < size then infinity
    else if size < -400 then 0.0
    else Float.ofScientific mantissa (exponent < 0) exponent.natAbs

/-- A decimal taken apart: all digits before the exponent, and the power of ten. -/
structure Scaled where
  mantissa : Nat
  exponent : Int

/-- The exponent that may follow the digits, to the end of the text. -/
def exponent? : List Char → Option Int
  | [] => some 0
  | c :: cs => if c = 'e' ∨ c = 'E' then integer? cs else none

/-- Digits with an optional point and exponent; one digit at least stands before or behind the
point. -/
def scaled? (cs : List Char) : Option Scaled :=
  let whole := cs.takeWhile isDigit
  match cs.dropWhile isDigit with
  | '.' :: rest =>
      let fraction := rest.takeWhile isDigit
      if whole.isEmpty && fraction.isEmpty then none
      else (exponent? (rest.dropWhile isDigit)).map fun e =>
        ⟨naturalFrom (natural whole) fraction, e - fraction.length⟩
  | rest =>
      if whole.isEmpty then none
      else (exponent? rest).map fun e => ⟨natural whole, e⟩

/-- A floating-point number without sign. -/
def unsignedFloat? (cs : List Char) : Option Float :=
  let word := cs.map Char.toLower
  if word = ['i', 'n', 'f'] ∨ word = ['i', 'n', 'f', 'i', 'n', 'i', 't', 'y'] then some infinity
  else if word = ['n', 'a', 'n'] then some notANumber
  else (scaled? cs).map fun s => nearestFloat s.mantissa s.exponent

/-- A floating-point number with an optional sign. -/
def float? : List Char → Option Float
  | '-' :: cs => (unsignedFloat? cs).map fun x => -x
  | '+' :: cs => unsignedFloat? cs
  | cs => unsignedFloat? cs

end Cohort.Decimal
