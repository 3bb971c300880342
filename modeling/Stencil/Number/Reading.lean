import Stencil.Number.Binary
import Stencil.Text.Blank

/-!
# Reading numbers

Numbers that people write: blanks around them, digits of any script, and single underscores between digits.  A fraction
may also be infinite or no number, spelled out in any case.  Whole numbers are read and written only up to a number of
digits.
-/

namespace Stencil.Number

/-- The zeros of the decimal digits beyond ASCII (Unicode 14); the other nine follow each of them. -/
def zeros : List Nat := [
  0x660, 0x6F0, 0x7C0, 0x966, 0x9E6, 0xA66, 0xAE6, 0xB66, 0xBE6, 0xC66, 0xCE6, 0xD66, 0xDE6, 0xE50, 0xED0, 0xF20,
  0x1040, 0x1090, 0x17E0, 0x1810, 0x1946, 0x19D0, 0x1A80, 0x1A90, 0x1B50, 0x1BB0, 0x1C40, 0x1C50, 0xA620, 0xA8D0,
  0xA900, 0xA9D0, 0xA9F0, 0xAA50, 0xABF0, 0xFF10, 0x104A0, 0x10D30, 0x11066, 0x110F0, 0x11136, 0x111D0, 0x112F0,
  0x11450, 0x114D0, 0x11650, 0x116C0, 0x11730, 0x118E0, 0x11950, 0x11C50, 0x11D50, 0x11DA0, 0x16A60, 0x16AC0, 0x16B50,
  0x1D7CE, 0x1D7D8, 0x1D7E2, 0x1D7EC, 0x1D7F6, 0x1E140, 0x1E2F0, 0x1E950, 0x1FBF0]

/-- The value of a decimal digit of any script. -/
def digit? (c : Char) : Option Nat :=
  match Text.digit? c with
  | some d => some d
  | none =>
    if c.toNat < 128 then none
    else (zeros.find? fun z => z ≤ c.toNat && c.toNat < z + 10).map (c.toNat - ·)

/-- Digits at the head of a text, with single underscores between them, and the rest; `inside` says that a digit stands
before. -/
def digitsFrom (inside : Bool) : Text → List Nat × Text
  | [] => ([], [])
  | '_' :: c :: s =>
    match (if inside then digit? c else none) with
    | some d => let (ds, rest) := digitsFrom true s; (d :: ds, rest)
    | none => ([], '_' :: c :: s)
  | c :: s =>
    match digit? c with
    | some d => let (ds, rest) := digitsFrom true s; (d :: ds, rest)
    | none => ([], c :: s)

/-- A sign at the head of a text, and the rest. -/
def sign (s : Text) : Bool × Text :=
  match s with
  | '-' :: r => (true, r)
  | '+' :: r => (false, r)
  | r => (false, r)

/-- Blank around a number: white space, without the separators U+001C to U+001F. -/
def isMargin (c : Char) : Bool := c == ' ' || ('\t' ≤ c && c ≤ '\r') || (c.toNat > 126 && Text.isBlank c)

/-- The most digits of a whole number that is read or written. -/
def digitLimit : Nat := 4300

/-- A whole number has more digits than are written. -/
def isOverlong (n : Int) : Bool := n.natAbs ≥ Nat.pow 10 digitLimit

/-- Why a text writes no whole number. -/
inductive Misread where
  | malformed
  /-- It has this many digits. -/
  | overlong (digits : Nat)
  deriving DecidableEq, Repr

/-- The whole number that a text writes. -/
def readInt (s : Text) : Except Misread Int :=
  let (negative, body) := sign (Text.trim isMargin s)
  match digitsFrom false body with
  | ([], _) | (_, '_' :: _) => .error .malformed
  | (digits, rest) =>
    if digits.length > digitLimit then .error (.overlong digits.length)
    else if !rest.isEmpty then .error .malformed
    else
      let n : Int := Text.ofDigits 10 digits
      .ok (if negative then -n else n)

/-- The exponent behind the digits of a fraction; nothing else may follow. -/
def readExponent? (s : Text) : Option Int :=
  match s with
  | [] => some 0
  | c :: rest =>
    if c = 'e' ∨ c = 'E' then
      let (negative, body) := sign rest
      match digitsFrom false body with
      | ([], _) => none
      | (digits, []) =>
        let n : Int := Text.ofDigits 10 digits
        some (if negative then -n else n)
      | _ => none
    else none

/-- The number without sign that a text writes. -/
def readUnsigned? (s : Text) : Option Float :=
  let lower := s.map Char.toLower
  if lower = "inf" ∨ lower = "infinity" then some (1.0 / 0.0)
  else if lower = "nan" then some (0.0 / 0.0)
  else
    let (whole, rest) := digitsFrom false s
    let (places, rest) := match rest with
      | '.' :: r => digitsFrom false r
      | r => ([], r)
    if whole.isEmpty ∧ places.isEmpty then none
    else (readExponent? rest).map fun e => ofDecimal (Text.ofDigits 10 (whole ++ places)) (e - places.length)

/-- The floating point number that a text writes. -/
def readFloat? (s : Text) : Option Float :=
  let (negative, body) := sign (Text.trim isMargin s)
  (readUnsigned? body).map fun x => if negative then -x else x

end Stencil.Number
