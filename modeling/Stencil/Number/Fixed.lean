import Stencil.Number.Shortest
import Stencil.Text.Basic

/-!
# Fixed places and significant digits

A number with a fixed count of decimal places is its exact value rounded at the last place, a half to the even digit.
The whole part may be grouped in threes.

A number with a fixed count of significant digits is its exact value rounded at the last digit, a half to the even one.
It is written with an exponent, or in the *general* form: positionally unless it is very small or has more digits before
the point than are significant.
-/

namespace Stencil.Number

/-- Groups of three digits from the right, given least significant first. -/
def groupReversed (mark : Char) : Text → Text
  | a :: b :: c :: d :: s => a :: b :: c :: mark :: groupReversed mark (d :: s)
  | s => s

/-- A text of digits with a mark between groups of three. -/
def grouped (mark : Char) (digits : Text) : Text := (groupReversed mark digits.reverse).reverse

/-- The digits before and after the point of `num / den` with a count of places. -/
def placesOf (num den places : Nat) : Text × Text :=
  let n := roundDiv (num * Nat.pow 10 places) den
  let unit := Nat.pow 10 places
  (Text.ofNat (n / unit), if places = 0 then [] else Text.padLeft places '0' (Text.ofNat (n % unit)))

/-- A floating point number with a fixed count of places, the whole part grouped by a comma if asked for. -/
def fixed (group : Bool) (places : Nat) (x : Float) : Text :=
  match parts x with
  | .nan => "nan"
  | .infinite negative => if negative then "-inf" else "inf"
  | .finite negative m q =>
    let (num, den) := ratio m q
    let (whole, rest) := placesOf num den places
    (if negative then "-" else [] : Text) ++ (if group then grouped ',' whole else whole) ++
      if places = 0 then [] else '.' :: rest

/-! ## Significant digits -/

/-- The significant digits of a positive `num / den`, so many behind the first, and the exponent of the first. -/
def significant (num den places : Nat) : Nat × Int :=
  let top := leading num den
  let shift : Int := places - top
  let n := if shift < 0 then roundDiv num (den * Nat.pow 10 shift.natAbs) else roundDiv (num * Nat.pow 10 shift.natAbs) den
  if n ≥ Nat.pow 10 (places + 1) then (n / 10, top + 1) else (n, top)

/-- An exponent of at least two digits behind its mark. -/
def exponentText (e : Int) : Text :=
  "e" ++ (if e < 0 then "-" else "+" : Text) ++ Text.padLeft 2 '0' (Text.ofNat e.natAbs)

/-- Digits with a point behind the first `whole` of them; the point stays without places if asked for. -/
def pointed (whole : Nat) (keepPoint : Bool) (digits : Text) : Text :=
  let places := digits.drop whole
  digits.take whole ++ (if places.isEmpty && !keepPoint then [] else '.' :: places)

/-- Without trailing zeros, unless they are to be kept. -/
def trimmed (keep : Bool) (s : Text) : Text := if keep then s else trimZeros s

/-- A number without sign with an exponent and so many places. -/
def exponential (places : Nat) (keepPoint : Bool) (num den : Nat) : Text :=
  let (n, e) := if num = 0 then (0, 0) else significant num den places
  pointed 1 keepPoint (Text.padLeft (places + 1) '0' (Text.ofNat n)) ++ exponentText e

/-- A number without sign with so many significant digits in the general form; without trailing zeros unless they are to
be kept. -/
def general (count : Nat) (keep : Bool) (num den : Nat) : Text :=
  let count := max count 1
  let (n, e) := if num = 0 then (0, 0) else significant num den (count - 1)
  let digits := Text.padLeft count '0' (Text.ofNat n)
  if e < -4 ∨ e ≥ count then pointed 1 keep (digits.take 1 ++ trimmed keep (digits.drop 1)) ++ exponentText e
  else if e < 0 then "0." ++ List.replicate (e.natAbs - 1) '0' ++ trimmed keep digits
  else
    let whole := e.toNat + 1
    pointed whole keep (digits.take whole ++ trimmed keep (digits.drop whole))

end Stencil.Number
