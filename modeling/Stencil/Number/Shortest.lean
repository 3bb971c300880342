import Stencil.Number.Binary
import Stencil.Text.Basic

/-!
# Shortest decimal form

A floating point number is written with the fewest digits that read back as the same number, and of those with the ones
nearest to it.  The reals that read back as `m · 2 ^ q` form an interval around it that includes its ends when `m` is
even.  For one, two, … digits the two neighbours of the number on that decimal grid are tested.
-/

namespace Stencil.Number

/-- Digits `n` and exponent `e` of a decimal number `n · 10 ^ e`. -/
structure Decimal where
  digits : Nat
  exponent : Int
  deriving DecidableEq, Repr

/-- The interval of reals around `m · 2 ^ q` over the common denominator `4 · 2 ^ -q` or 4: low end, value, high end and
denominator. -/
def interval (m : Nat) (q : Int) : Nat × Nat × Nat × Nat :=
  let (num, den) := ratio m q
  let unit := num / m
  let below := if m = Nat.pow 2 52 ∧ q > -1074 then unit else 2 * unit
  (4 * num - below, 4 * num, 4 * num + 2 * unit, 4 * den)

/-- `n · 10 ^ e` lies in an interval of numerators over a denominator, ends included or not. -/
def within (low high den : Nat) (ends : Bool) (d : Decimal) : Bool :=
  let (x, scale) :=
    if d.exponent < 0 then (d.digits * den, Nat.pow 10 d.exponent.natAbs)
    else (d.digits * Nat.pow 10 d.exponent.natAbs * den, 1)
  if ends then low * scale ≤ x && x ≤ high * scale else low * scale < x && x < high * scale

/-- Twice the distance of `num / den` from the middle between `d` and `d + 1` on the grid of a step, as its sign. -/
def nearerBelow (num den : Nat) (e : Int) (d : Nat) : Ordering :=
  if e < 0 then compare (2 * num * Nat.pow 10 e.natAbs) ((2 * d + 1) * den)
  else compare (2 * num) ((2 * d + 1) * den * Nat.pow 10 e.natAbs)

/-- The greatest `d` with `d · 10 ^ e` at most `num / den`. -/
def floorOn (num den : Nat) (e : Int) : Nat :=
  if e < 0 then num * Nat.pow 10 e.natAbs / den else num / (den * Nat.pow 10 e.natAbs)

/-- The exponent of the leading decimal digit of `num / den`. -/
def leading (num den : Nat) : Int :=
  let guess : Int := (Nat.toDigits 10 num).length - (Nat.toDigits 10 den).length
  if floorOn num den guess = 0 then guess - 1 else guess

/-- The nearest number of `count` digits that reads back. -/
def onGrid (low num high den : Nat) (ends : Bool) (top : Int) (count : Nat) : Option Decimal :=
  let e := top - (count - 1)
  let d := floorOn num den e
  let lower := within low high den ends ⟨d, e⟩
  let upper := within low high den ends ⟨d + 1, e⟩
  match lower, upper with
  | true, true =>
    match nearerBelow num den e d with
    | .lt => some ⟨d, e⟩
    | .gt => some ⟨d + 1, e⟩
    | .eq => some ⟨d + d % 2, e⟩
  | true, false => some ⟨d, e⟩
  | false, true => some ⟨d + 1, e⟩
  | false, false => none

/-- The shortest decimal number that reads back as `m · 2 ^ q`, for a positive `m`. -/
def shortest (m : Nat) (q : Int) : Decimal :=
  let (low, num, high, den) := interval m q
  let top := leading num den
  ((List.range 18).findSome? fun k => onGrid low num high den (m % 2 == 0) top (k + 1)).getD ⟨num, 0⟩

/-- Where the positional form of a number begins and ends, by the exponent of its leading digit. -/
structure Form where
  least : Int
  most : Int
  deriving DecidableEq, Repr

/-- Numbers from a ten-thousandth up to ten to the sixteenth are written positionally. -/
def Form.plain : Form := ⟨-4, 15⟩

/-- Without trailing zeros. -/
def trimZeros (s : Text) : Text := (s.reverse.dropWhile (· == '0')).reverse

/-- The text of a positive decimal number: positional with at least one place, or with an exponent of two digits. -/
def Decimal.text (form : Form) (d : Decimal) : Text :=
  let digits := trimZeros (Text.ofNat d.digits)
  let point : Int := (Text.ofNat d.digits).length + d.exponent - 1
  if form.least ≤ point ∧ point ≤ form.most then
    if point < 0 then "0." ++ List.replicate (point.natAbs - 1) '0' ++ digits
    else
      let whole := point.toNat + 1
      Text.padRight whole '0' (digits.take whole) ++ "." ++
        (if digits.length ≤ whole then "0" else digits.drop whole : Text)
  else
    let rest := digits.drop 1
    digits.take 1 ++ (if rest.isEmpty then [] else '.' :: rest) ++ "e" ++ (if point < 0 then "-" else "+" : Text) ++
      Text.padLeft 2 '0' (Text.ofNat point.natAbs)

/-- The shortest text of a floating point number. -/
def floatText (x : Float) : Text :=
  match parts x with
  | .nan => "nan"
  | .infinite negative => if negative then "-inf" else "inf"
  | .finite negative m q =>
    (if negative then "-" else [] : Text) ++ (if m = 0 then "0.0" else (shortest m q).text .plain : Text)

end Stencil.Number
