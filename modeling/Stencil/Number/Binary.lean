/-!
# Binary numbers

A finite floating point number is `mantissa · 2 ^ exponent` with a sign.  Decimal forms are computed from this in exact
natural number arithmetic.
-/

namespace Stencil.Number

/-- The parts of a floating point number. -/
inductive Parts where
  | nan
  | infinite (negative : Bool)
  | finite (negative : Bool) (mantissa : Nat) (exponent : Int)
  deriving DecidableEq, Repr

/-- The parts that the 64 bits of a number encode. -/
def parts (x : Float) : Parts :=
  let bits : Nat := x.toBits.toNat
  let negative : Bool := bits / Nat.pow 2 63 == 1
  let field : Nat := bits / Nat.pow 2 52 % Nat.pow 2 11
  let fraction : Nat := bits % Nat.pow 2 52
  if field = 2047 then (if fraction = 0 then .infinite negative else .nan)
  else if field = 0 then .finite negative fraction (-1074)
  else .finite negative (Nat.pow 2 52 + fraction) ((field : Int) - 1075)

/-- Numerator and denominator of `mantissa · 2 ^ exponent`. -/
def ratio (mantissa : Nat) (exponent : Int) : Nat × Nat :=
  if exponent < 0 then (mantissa, Nat.pow 2 exponent.natAbs) else (mantissa * Nat.pow 2 exponent.natAbs, 1)

/-- A quotient rounded to the nearest whole number, a half to the even one. -/
def roundDiv (num den : Nat) : Nat :=
  let q := num / den
  let r := num % den
  if 2 * r < den then q else if den < 2 * r then q + 1 else q + q % 2

/-- The floating point number nearest to `digits · 10 ^ exponent`. -/
def ofDecimal (digits : Nat) (exponent : Int) : Float :=
  let size : Int := (Nat.toDigits 10 digits).length + exponent
  if digits = 0 then 0.0
  else if size > 400 then 1.0 / 0.0
  else if size < -400 then 0.0
  else Float.ofScientific digits (exponent < 0) exponent.natAbs

/-- The least exponent of a mantissa. -/
def leastExponent : Int := -1074

/-- A quotient in units of `2 ^ exponent`, rounded. -/
def quotientIn (num den : Nat) (exponent : Int) : Nat :=
  if exponent < 0 then roundDiv (num * Nat.pow 2 exponent.natAbs) den
  else roundDiv num (den * Nat.pow 2 exponent.natAbs)

/-- The floating point number nearest to `num / den`. -/
def ofRatio (negative : Bool) (num den : Nat) : Float :=
  let close : Int := max ((num.log2 : Int) - den.log2 - 53) leastExponent
  let exponent := if quotientIn num den close ≥ Nat.pow 2 53 then close + 1 else close
  let x := if num = 0 then 0.0 else (Float.ofNat (quotientIn num den exponent)).scaleB exponent
  if negative then -x else x

end Stencil.Number
