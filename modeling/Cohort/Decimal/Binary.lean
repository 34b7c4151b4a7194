/-! # Floating-point numbers taken apart

A finite number is a sign, a mantissa and a power of two. Exact work on floating-point numbers
(their shortest decimal, their remainder) is done on these parts in whole numbers, where nothing
rounds, and only the result is put together again. -/

namespace Cohort.Decimal

/-- What the sixty-four bits of a number say. -/
inductive Binary where
  | nan
  | infinite (negative : Bool)
  /-- The number `mantissa * 2 ^ exponent`, with its sign. -/
  | finite (negative : Bool) (mantissa : Nat) (exponent : Int)
deriving Repr, DecidableEq

namespace Binary

/-- The least exponent, that of the numbers nearest to zero. -/
def leastExponent : Int := -1074

/-- The mantissas below this one belong to the numbers nearest to zero alone. -/
def leastNormal : Nat := Nat.pow 2 52

/-- Takes a number apart. -/
def ofFloat (x : Float) : Binary :=
  let bits := x.toBits.toNat
  let negative := decide (Nat.pow 2 63 ≤ bits)
  let biased := bits / Nat.pow 2 52 % Nat.pow 2 11
  let fraction := bits % Nat.pow 2 52
  if biased = 2047 then if fraction = 0 then infinite negative else nan
  else if biased = 0 then finite negative fraction leastExponent
  else finite negative (leastNormal + fraction) (leastExponent + (biased - 1 : Nat))

/-- The sign bit. -/
def signBit (negative : Bool) : Nat :=
  if negative then Nat.pow 2 63 else 0

/-- Puts together a number whose mantissa has at most 53 bits: the mantissa is doubled, at most
`room` times, until it is normal or its exponent is the least one. -/
def assemble (negative : Bool) (exponent : Int) : Nat → Nat → Float
  | 0, mantissa => Float.ofBits (signBit negative + mantissa).toUInt64
  | room + 1, mantissa =>
      if leastNormal ≤ mantissa then
        let biased := (exponent - leastExponent).toNat + 1
        Float.ofBits (signBit negative + biased * Nat.pow 2 52 + (mantissa - leastNormal)).toUInt64
      else if exponent ≤ leastExponent then
        Float.ofBits (signBit negative + mantissa).toUInt64
      else assemble negative (exponent - 1) room (2 * mantissa)

/-- The number with the given sign, mantissa (of at most 53 bits) and exponent. -/
def toFloat (negative : Bool) (mantissa : Nat) (exponent : Int) : Float :=
  if mantissa = 0 then Float.ofBits (signBit negative).toUInt64
  else assemble negative exponent 2100 mantissa

end Binary

/-- The quiet not-a-number. -/
def notANumber : Float := 0.0 / 0.0

/-- The remainder of a division truncated toward zero: exact, with the sign of the dividend. -/
def remainder (x y : Float) : Float :=
  match Binary.ofFloat x, Binary.ofFloat y with
  | .finite negative m q, .finite _ n r =>
      if n = 0 then notANumber
      else
        let common := min q r
        Binary.toFloat negative
          ((m * Nat.pow 2 (q - common).toNat) % (n * Nat.pow 2 (r - common).toNat)) common
  | .finite _ _ _, .infinite _ => x
  | _, _ => notANumber

end Cohort.Decimal
