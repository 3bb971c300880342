import Stencil.Number.Reading
import Stencil.Text.Case
import Stencil.Time.Iso
import Stencil.Value.Basic
import Stencil.Yaml.Tag

/-!
# Values of scalars

What a scalar with a tag is worth.  Truth values may be written as yes and no or on and off; whole numbers may be binary,
octal, hexadecimal or in base sixty; underscores are skipped.  A scalar that does not fit its tag is a fault.
-/

namespace Stencil.Yaml

/-- Nothing stands where a character is wanted. -/
def nothingThere : Fault := .indexRange "string"

/-- The number that digits of a base write; the letter that names the base may stand in front. -/
def digitsOf (base : Nat) (letter : Char) (s : Text) : Except Fault Int :=
  let (negative, body) := Number.sign (Text.trim Number.isMargin s)
  let body := match body with
    | '0' :: c :: rest => if c.toLower == letter then rest else body
    | body => body
  let digits := body.map fun c => ((Text.hexDigit? c) <|> Number.digit? c).filter (· < base)
  if body.isEmpty || digits.any Option.isNone then
    .error (.wrongValue ("invalid literal for int() with base " ++ Text.ofNat base ++ ": " ++ Text.quoted s))
  else
    let n : Int := Text.ofDigits base (digits.filterMap id)
    .ok (if negative then -n else n)

/-- A decimal number. -/
def decimal (s : Text) : Except Fault Int :=
  match Number.readInt s with
  | .ok n => .ok n
  | .error .malformed => .error (.wrongValue ("invalid literal for int() with base 10: " ++ Text.quoted s))
  | .error (.overlong n) => .error (.overlong (some n))

/-- A whole number without its sign. -/
def natural (s : Text) : Except Fault Int :=
  match s with
  | [] => .error nothingThere
  | ['0'] => .ok 0
  | '0' :: 'b' :: digits => digitsOf 2 'b' digits
  | '0' :: 'x' :: digits => digitsOf 16 'x' digits
  | '0' :: _ => digitsOf 8 'o' s
  | s =>
    if ':' ∈ s then do return (← (Text.splitOn ':' s).mapM decimal).foldl (fun n d => n * 60 + d) 0
    else decimal s

/-- A sign and what stands behind it; something must stand there. -/
def signed (s : Text) : Except Fault (Bool × Text) :=
  match s with
  | [] => .error nothingThere
  | s => .ok (Number.sign s)

/-- A whole number. -/
def whole (s : Text) : Except Fault Value := do
  let (negative, body) ← signed (s.filter (· != '_'))
  let n ← natural body
  return .int (if negative then -n else n)

/-- A number with a point. -/
def floating (s : Text) : Except Fault Float :=
  match Number.readFloat? s with
  | some x => .ok x
  | none => .error (.wrongValue ("could not convert string to float: " ++ Text.quoted s))

/-- The sum of parts in base sixty, the last one first. -/
def sumOfSixties (base : Nat) (sum : Float) : List Float → Float
  | [] => sum
  | x :: xs => sumOfSixties (base * 60) (sum + x * Float.ofNat base) xs

/-- A number with a point, infinity, or what is no number. -/
def fraction (s : Text) : Except Fault Value := do
  let (negative, body) ← signed (Text.lower (s.filter (· != '_')))
  let opposite (x : Float) : Float := if negative then -1.0 * x else x
  if body = ".inf" then return .float (opposite (1.0 / 0.0))
  if body = ".nan" then return .float (0.0 / 0.0)
  if ':' ∈ body then
    return .float (opposite (sumOfSixties 1 0.0 (← (Text.splitOn ':' body).mapM floating).reverse))
  return .float (opposite (← floating body))

/-- The number that decimal digits write. -/
def numberOf (digits : Text) : Nat := Text.ofDigits 10 (digits.filterMap Text.digit?)

/-- An offset from universal time in microseconds. -/
def offsetOf : Option (Char × Text × Text) → Option Int
  | none => none
  | some ('Z', _, _) => some 0
  | some (sign, hour, minute) =>
    let n : Int := (numberOf hour * 3600 + numberOf minute * 60) * 1000000
    some (if sign == '-' then -n else n)

/-- A day or a moment. -/
def moment (s : Text) : Except Fault Value :=
  match momentParts? s with
  | none => .error (.noAttribute "'NoneType' object has no attribute 'groupdict'")
  | some p =>
    let day := Day.check (numberOf p.year) (numberOf p.month) (numberOf p.day)
    if p.hour.isEmpty then day.map .day
    else do
      let offset := offsetOf p.zone
      Time.checkOffset offset
      let micro := numberOf (Text.padRight 6 '0' (p.fraction.take 6))
      return .moment (← Moment.check ⟨← day, numberOf p.hour, numberOf p.minute, numberOf p.second, micro, offset⟩)

/-- A truth value. -/
def truth (s : Text) : Except Fault Value :=
  let word := Text.lower s
  if word ∈ trueWords then .ok (.bool true)
  else if word ∈ falseWords then .ok (.bool false)
  else .error (.missingKey (Text.quoted word))

/-- The value of a scalar by its tag; nothing if no scalar has this tag. -/
def scalar? (tag s : Text) : Option (Except Fault Value) :=
  if tag = coreTag "null" then some (.ok .null)
  else if tag = coreTag "bool" then some (truth s)
  else if tag = coreTag "int" then some (whole s)
  else if tag = coreTag "float" then some (fraction s)
  else if tag = coreTag "timestamp" then some (moment s)
  else if tag = coreTag "str" then some (.ok (.str s))
  else if tag = coreTag "binary" then some (.error .unsupported)
  else none

end Stencil.Yaml
