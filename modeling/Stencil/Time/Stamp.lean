import Stencil.Number.Binary
import Stencil.Time.Calendar

/-!
# Timestamps

Seconds since the beginning of 1970 in universal time, whole or with a fraction that is rounded to microseconds, a half
to the even one.
-/

namespace Stencil.Time

/-- The largest count of seconds that a timestamp may hold. -/
def stampLimit : Int := Nat.pow 2 63

/-- The most seconds whose year can be told at all. -/
def yearLimit : Int := 67768036191676799

/-- The fault of a timestamp that is too large. -/
def stampOverflow : Fault := .overflow "timestamp out of range for platform time_t"

/-- The moment that seconds and microseconds name. -/
def ofSeconds (seconds : Int) (micro : Nat) : Except Fault Moment :=
  if seconds < -stampLimit ∨ stampLimit ≤ seconds then .error stampOverflow
  else if seconds > yearLimit ∨ seconds < -67768040609740800 then
    .error (.raised "OSError" "[Errno 75] Value too large for defined data type")
  else
    let days := seconds / 86400 + 719163
    let rest := (seconds % 86400).toNat
    let year : Int :=
      if 1 ≤ days ∧ days ≤ 3652059 then (Day.ofOrdinal days.toNat).year
      else
        -- the calendar repeats every 400 years of 146097 days
        let cycle := (days - 1) / 146097
        (Day.ofOrdinal ((days - 1) % 146097 + 1).toNat).year + 400 * cycle
    if year < 1 ∨ year > maxYear then .error (.wrongValue ("year " ++ Text.ofInt year ++ " is out of range"))
    else .ok ⟨Day.ofOrdinal days.toNat, rest / 3600, rest / 60 % 60, rest % 60, micro, some 0⟩

/-- The whole number nearest to a floating point number, a half to the even one. -/
def nearest (x : Float) : Int :=
  match Number.parts x with
  | .finite negative m q =>
    let (num, den) := Number.ratio m q
    let n : Int := Number.roundDiv num den
    if negative then -n else n
  | _ => 0

/-- A floating point number without its fraction, exactly. -/
def truncate (x : Float) : Int :=
  match Number.parts x with
  | .finite negative m q =>
    let (num, den) := Number.ratio m q
    let n : Int := (num / den : Nat)
    if negative then -n else n
  | _ => 0

/-- The moment that a count of seconds with a fraction names. -/
def ofFloat (x : Float) : Except Fault Moment :=
  match Number.parts x with
  | .nan => .error (.wrongValue "Invalid value NaN (not a number)")
  | .infinite _ => .error stampOverflow
  | .finite .. =>
    let whole := truncate x
    let fraction := x - Float.ofInt whole
    let micro := nearest (fraction * 1000000.0)
    if whole.natAbs ≥ Nat.pow 2 63 then .error stampOverflow
    else if micro ≥ 1000000 then ofSeconds (whole + 1) 0
    else if micro < 0 then ofSeconds (whole - 1) (micro + 1000000).toNat
    else ofSeconds whole micro.toNat

end Stencil.Time
