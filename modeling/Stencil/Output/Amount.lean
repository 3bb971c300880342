import Stencil.Number.Fixed
import Stencil.Number.Reading
import Stencil.Time.Stamp
import Stencil.Value.Show

/-!
# Amounts

Numbers with a fixed count of decimal places, the digits of the whole part in groups of three.
-/

namespace Stencil.Output

/-- How an amount is written. -/
structure AmountFormat where
  places : Nat := 2
  point : Text := ","
  group : Text := " "
  deriving DecidableEq, Repr

/-- The floating point number of a whole number, if there is one. -/
def floatOfInt (n : Int) : Except Fault Float :=
  let x := Float.ofInt n
  if x.isInf then .error (.overflow "int too large to convert to float") else .ok x

/-- A value as a floating point number. -/
def toFloat : Value → Except Fault Float
  | .bool b => .ok (if b then 1.0 else 0.0)
  | .int n => floatOfInt n
  | .float x => .ok x
  | .str s | .markup s =>
    match Number.readFloat? s with
    | some x => .ok x
    | none => .error (.wrongValue ("could not convert string to float: " ++ Text.quoted s))
  | v => .error (.wrongType ("float() argument must be a string or a real number, not " ++
      Text.quoted v.kind))

/-- The number of characters that a message shows of a text that writes no whole number. -/
def shownLength : Nat := 200

/-- A value as a whole number, fractions cut off. -/
def toWhole : Value → Except Fault Int
  | .bool b => .ok (if b then 1 else 0)
  | .int n => .ok n
  | .float x =>
    match Number.parts x with
    | .nan => .error (.wrongValue "cannot convert float NaN to integer")
    | .infinite _ => .error (.overflow "cannot convert float infinity to integer")
    | .finite .. => .ok (Time.truncate x)
  | .str s | .markup s =>
    match Number.readInt s with
    | .ok n => .ok n
    | .error (.overlong digits) => .error (.overlong (some digits))
    | .error .malformed =>
      .error (.wrongValue ("invalid literal for int() with base 10: " ++ (Text.quoted s).take shownLength))
  | v => .error (.wrongType ("int() argument must be a string, a bytes-like object or a real number, not " ++
      Text.quoted v.kind))

/-- The most decimal places, and the most that can be named at all. -/
def placesLimit : Int := Nat.pow 2 31 - 1

/-- A count of decimal places. -/
def toPlaces (n : Int) : Except Fault Nat :=
  if n < 0 then .error (.wrongValue "Format specifier missing precision")
  else if n ≥ Nat.pow 2 63 then .error (.wrongValue "Too many decimal digits in format string")
  else if n > placesLimit then .error (.wrongValue "precision too big")
  else .ok n.toNat

/-- The text of a number in a format.  The marks are put in place of a comma and a point one after the other: the group
mark last, so that a comma as decimal point is not taken for one. -/
def amount (f : AmountFormat) (x : Float) : Text :=
  let s := Number.fixed true f.places x
  Text.replace "\x00" f.group (Text.replace "." f.point (Text.replace "," "\x00" s))

end Stencil.Output
