import Stencil.Time.Calendar

/-!
# Reading dates and times

A date is a year of four digits with month and day, or with a week (`W`) and perhaps a day of the week; hyphens stand
everywhere or nowhere.  A time may follow behind any one character: hours, perhaps minutes, seconds and a fraction, with
colons everywhere or nowhere, and an offset or `Z`.  Digits of a fraction beyond the sixth are skipped.
-/

namespace Stencil.Time

/-- A number of exactly `n` digits at the head of a text, and the rest. -/
def digits? : Nat → Text → Option (Nat × Text)
  | 0, s => some (0, s)
  | n + 1, c :: s =>
    match Text.digit? c with
    | none => none
    | some d => (digits? n s).map fun (m, rest) => (d * Nat.pow 10 n + m, rest)
  | _ + 1, [] => none

/-- A digit. -/
def isDigit (c : Char) : Bool := '0' ≤ c && c ≤ '9'

/-- A character at an offset is a given one. -/
def has (s : Text) (n : Nat) (c : Char) : Bool := s[n]? == some c

/-- The length of the date at the head of a text of at least seven characters; `none` if its form is ambiguous. -/
def dateLength? (s : Text) : Option Nat :=
  if s.length = 7 then some 7
  else if has s 4 '-' then
    if has s 5 'W' then
      if s.length < 8 then none
      else if has s 8 '-' then
        if s.length = 9 then none
        else if (s[10]?).any isDigit then some 8
        else some 10
      else some 8
    else some 10
  else if has s 4 'W' then
    let stop := 7 + ((s.drop 7).takeWhile isDigit).length
    if stop < 9 then some stop else if stop % 2 = 0 then some 7 else some 8
  else some 8

/-- The day of a week date. -/
def ofWeek? (year week day : Nat) : Option Day :=
  if year < 1 ∨ week < 1 ∨ (week > 52 ∧ ¬ (week = 53 ∧ Day.hasLongWeeks year)) ∨ day < 1 ∨ day > 7 then none
  else
    let n := Day.firstMonday year + ((week : Int) - 1) * 7 + day - 1
    if n < 1 ∨ n > 3652059 then none else some (Day.ofOrdinal n.toNat)

/-- Year, month and day numbers of the date at the head of a text, which is `length` characters long. -/
def date? (length : Nat) (s : Text) : Option (Nat × Nat × Nat) := do
  let (year, rest) ← digits? 4 s
  let (hyphens, rest) := match rest with
    | '-' :: r => (true, r)
    | r => (false, r)
  match rest with
  | 'W' :: rest =>
    let (week, rest) ← digits? 2 rest
    let day ←
      if s.length - rest.length < length then do
        let rest ← if hyphens then (match rest with
          | '-' :: r => some r
          | _ => none) else some rest
        (·.1) <$> digits? 1 rest
      else pure 1
    let d ← ofWeek? year week day
    return (d.year, d.month, d.day)
  | _ =>
    let (month, rest) ← digits? 2 rest
    let rest ← if hyphens then (match rest with
      | '-' :: r => some r
      | _ => none) else some rest
    let (day, _) ← digits? 2 rest
    return (year, month, day)

/-- Hours, minutes, seconds and microseconds. -/
structure Clock where
  hour : Nat := 0
  minute : Nat := 0
  second : Nat := 0
  micro : Nat := 0
  deriving DecidableEq, Repr

/-- Sets the `i`-th of hours, minutes and seconds. -/
def Clock.set (i n : Nat) (c : Clock) : Clock :=
  if i = 0 then { c with hour := n } else if i = 1 then { c with minute := n } else { c with second := n }

/-- The fraction of a second at the head of a text of which `left` characters belong to the time: the clock and whether
anything follows. -/
def fraction? (left : Nat) (s : Text) (c : Clock) : Option (Clock × Bool) :=
  let count := min left 6
  match digits? count s with
  | none => none
  | some (n, rest) =>
    some ({ c with micro := n * Nat.pow 10 (6 - count) }, !(rest.dropWhile isDigit).isEmpty)

/-- Reads the `i`-th part of a time from a text of which `left` characters belong to the time: the clock and whether
anything follows it. -/
def clockFrom (colons : Bool) (i left : Nat) (s : Text) (c : Clock) : Option (Clock × Bool) :=
  match digits? 2 s with
  | none => none
  | some (n, rest) =>
    let c := c.set i n
    let colons := if i = 0 then has rest 0 ':' else colons
    if left ≤ 3 then some (c, !rest.isEmpty)
    else match rest with
      | [] => some (c, false)
      | d :: more =>
        if colons && d == ':' then
          if i < 2 then clockFrom colons (i + 1) (left - 3) more c else fraction? (left - 3) more c
        else if d == '.' || d == ',' then fraction? (left - 3) more c
        else if !colons then
          if i < 2 then clockFrom colons (i + 1) (left - 2) rest c else fraction? (left - 2) rest c
        else none
termination_by 3 - i

/-- A time and its offset in microseconds, if there is one. -/
def time? (s : Text) : Option (Clock × Option Int) :=
  let isZone (c : Char) : Bool := c == '+' || c == '-' || c == 'Z'
  let left := (s.takeWhile (!isZone ·)).length
  match clockFrom true 0 left s {} with
  | none => none
  | some (clock, more) =>
    match s.drop left with
    | [] => if more then none else some (clock, none)
    | ['Z'] => some (clock, some 0)
    | 'Z' :: _ => none
    | sign :: zone =>
      match clockFrom true 0 zone.length zone {} with
      | some (z, false) =>
        let seconds : Int := z.hour * 3600 + z.minute * 60 + z.second
        let factor : Int := if sign = '-' then -1 else 1
        some (clock, some (if seconds = 0 then 0 else factor * (seconds * 1000000 + z.micro)))
      | _ => none

/-- The fault of a text that is no date. -/
def invalid (s : Text) : Fault := .wrongValue ("Invalid isoformat string: " ++ Text.quoted s)

/-- A span of time as it is shown in messages. -/
def spanText (micro : Int) : Text :=
  let day : Int := 86400000000
  let parts : List (Text × Int) :=
    [("days", micro / day), ("seconds", micro % day / 1000000), ("microseconds", micro % 1000000)]
  let shown := (parts.filter fun (_, n) => n ≠ 0).map fun (name, n) => name ++ "=" ++ Text.ofInt n
  "datetime.timedelta(" ++ (if shown.isEmpty then "0" else Text.join ", " shown : Text) ++ ")"

/-- Refuses offsets of a day and more. -/
def checkOffset : Option Int → Except Fault Unit
  | none => .ok ()
  | some offset =>
    if offset.natAbs < 86400000000 then .ok ()
    else .error (.wrongValue ("offset must be a timedelta strictly between -timedelta(hours=24) and " ++
      "timedelta(hours=24), not " ++ spanText offset ++ "."))

/-- The date and time, or only the date, that a text writes. -/
def read (s : Text) : Except Fault Moment :=
  if s.length < 7 then .error (invalid s)
  else match dateLength? s with
    | none => .error (invalid s)
    | some length =>
      match date? length s with
      | none => .error (invalid s)
      | some (year, month, day) =>
        match (if s.length ≤ length then some ({}, none)
            else if s.length = length + 1 then none
            else time? (s.drop (length + 1))) with
        | none => .error (invalid s)
        | some (clock, offset) => do
          checkOffset offset
          let d ← Day.check year month day
          Moment.check ⟨d, clock.hour, clock.minute, clock.second, clock.micro, offset⟩

end Stencil.Time
