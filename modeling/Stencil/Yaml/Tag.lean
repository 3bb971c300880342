import Stencil.Text.Basic

/-!
# Tags of scalars

A tag says what a node is.  A scalar without quotes and without a tag of its own gets one by its form: it means nothing,
a truth value, a number or a moment if it looks like one, and is a text otherwise.
-/

namespace Stencil.Yaml

/-- A tag of the core language. -/
def coreTag (name : Text) : Text := "tag:yaml.org,2002:" ++ name

/-- Words that mean nothing. -/
def nothingWords : List Text := [[], "~", "null", "Null", "NULL"]

/-- Words that mean true. -/
def trueWords : List Text := ["yes", "Yes", "YES", "true", "True", "TRUE", "on", "On", "ON"]

/-- Words that mean false. -/
def falseWords : List Text := ["no", "No", "NO", "false", "False", "FALSE", "off", "Off", "OFF"]

/-- A decimal digit. -/
def isDigit (c : Char) : Bool := '0' ≤ c && c ≤ '9'

/-- A decimal digit or an underscore. -/
def isPlace (c : Char) : Bool := isDigit c || c == '_'

/-- At least one character, and only such for which a test holds. -/
def many (test : Char → Bool) (s : Text) : Bool := !s.isEmpty && s.all test

/-- Without a sign at the head. -/
def unsigned : Text → Text
  | '-' :: s | '+' :: s => s
  | s => s

/-- A part of a number in base sixty behind the first one. -/
def isSixty : Text → Bool
  | [c] => isDigit c
  | [c, d] => '0' ≤ c && c ≤ '5' && isDigit d
  | _ => false

/-- A digit that is not zero, and perhaps more. -/
def isPositive (s : Text) : Bool := s.head? != some '0' && (s.head?.map isDigit).getD false && s.all isPlace

/-- A whole number without its sign. -/
def isNatural (s : Text) : Bool :=
  (match s with
    | '0' :: 'b' :: digits => many (fun c => c == '0' || c == '1' || c == '_') digits
    | '0' :: 'x' :: digits => many (fun c => (Text.hexDigit? c).isSome || c == '_') digits
    | ['0'] => true
    | '0' :: digits => digits.all fun c => ('0' ≤ c && c ≤ '7') || c == '_'
    | s => isPositive s) ||
  match Text.splitOn ':' s with
  | first :: part :: parts => isPositive first && (part :: parts).all isSixty
  | _ => false

/-- Nothing, or an exponent with its sign. -/
def isExponent : Text → Bool
  | [] => true
  | e :: sign :: digits => (e == 'e' || e == 'E') && (sign == '-' || sign == '+') && many isDigit digits
  | _ => false

/-- Digits and underscores, a digit first. -/
def isPlaces (s : Text) : Bool := (s.head?.map isDigit).getD false && s.all isPlace

/-- A number with a point, without its sign. -/
def isFraction (signed : Bool) (s : Text) : Bool :=
  match s.span (· != '.') with
  | (_, []) => false
  | ([], _ :: places) =>
    places ∈ (["inf", "Inf", "INF"] : List Text) ||
      (!signed && (places ∈ (["nan", "NaN", "NAN"] : List Text) ||
        ((places.head?.map isDigit).getD false && isExponent (places.dropWhile isPlace))))
  | (whole, _ :: places) =>
    match Text.splitOn ':' whole with
    | [whole] => isPlaces whole && isExponent (places.dropWhile isPlace)
    | first :: parts => isPlaces first && parts.all isSixty && places.all isPlace
    | [] => false

/-- A day: four digits, two and two. -/
def isDay (s : Text) : Bool :=
  s.length == 10 && s.zipIdx.all fun (c, i) => if i = 4 ∨ i = 7 then c == '-' else isDigit c

/-- The parts of a moment as they are written. -/
structure MomentParts where
  year : Text
  month : Text
  day : Text
  hour : Text := []
  minute : Text := []
  second : Text := []
  fraction : Text := []
  /-- The sign of the offset, if there is one, and its hours and minutes; a sign of `Z` for none. -/
  zone : Option (Char × Text × Text) := none
  deriving DecidableEq, Repr

/-- At least `least` and at most `most` digits at the head of a text, and the rest. -/
def takeDigits (least most : Nat) (s : Text) : Option (Text × Text) :=
  let digits := (s.take most).takeWhile isDigit
  if digits.length < least then none else some (digits, s.drop digits.length)

/-- The rest of a text behind a character. -/
def behind (c : Char) : Text → Option Text
  | d :: s => if d = c then some s else none
  | [] => none

/-- The offset of a moment. -/
def zone? (s : Text) : Option (Option (Char × Text × Text)) :=
  match s.dropWhile fun c => c == ' ' || c == '\t' with
  | [] => if s.isEmpty then some none else none
  | ['Z'] => some (some ('Z', [], []))
  | sign :: rest => do
    if sign != '-' && sign != '+' then none
    let (hour, rest) ← takeDigits 1 2 rest
    if rest.isEmpty then return some (sign, hour, [])
    let (minute, rest) ← takeDigits 2 2 (← behind ':' rest)
    if rest.isEmpty then some (some (sign, hour, minute)) else none

/-- The parts of a moment: a day, or a day and a time of day with seconds. -/
def momentParts? (s : Text) : Option MomentParts := do
  let (year, rest) ← takeDigits 4 4 s
  let (month, rest) ← takeDigits 1 2 (← behind '-' rest)
  let (day, rest) ← takeDigits 1 2 (← behind '-' rest)
  match rest with
  | [] => return { year, month, day }
  | c :: more =>
    let clock ←
      if c == 'T' || c == 't' then some more
      else if c == ' ' || c == '\t' then some (more.dropWhile fun c => c == ' ' || c == '\t')
      else none
    let (hour, rest) ← takeDigits 1 2 clock
    let (minute, rest) ← takeDigits 2 2 (← behind ':' rest)
    let (second, rest) ← takeDigits 2 2 (← behind ':' rest)
    let (fraction, rest) : Text × Text := match rest with
      | '.' :: more => (more.takeWhile isDigit, more.dropWhile isDigit)
      | rest => ([], rest)
    return { year, month, day, hour, minute, second, fraction, zone := ← zone? rest }

/-- A moment. -/
def isMoment (s : Text) : Bool := isDay s || ((momentParts? s).map fun p => !p.hour.isEmpty).getD false

/-- The tag of a scalar by its form. -/
def tagOf (s : Text) : Text :=
  let signed := (unsigned s).length < s.length
  if s ∈ trueWords || s ∈ falseWords then coreTag "bool"
  else if isFraction signed (unsigned s) then coreTag "float"
  else if isNatural (unsigned s) then coreTag "int"
  else if s = "<<" then coreTag "merge"
  else if s ∈ nothingWords then coreTag "null"
  else if isMoment s then coreTag "timestamp"
  else if s = "=" then coreTag "value"
  else coreTag "str"

end Stencil.Yaml
