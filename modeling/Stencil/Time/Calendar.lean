import Stencil.Value.Basic

/-!
# The calendar

Days of the proleptic Gregorian calendar from year 1 to 9999, counted from 1 January of year 1 as day one.
-/

namespace Stencil

/-- The year has a 29th of February. -/
def isLeap (year : Nat) : Bool := year % 4 == 0 && (year % 100 != 0 || year % 400 == 0)

/-- The number of days in a month. -/
def daysInMonth (year month : Nat) : Nat :=
  if month = 2 then (if isLeap year then 29 else 28)
  else if month = 4 ∨ month = 6 ∨ month = 9 ∨ month = 11 then 30
  else 31

/-- The number of days before a year. -/
def daysBeforeYear (year : Nat) : Nat :=
  let y := year - 1
  y * 365 + y / 4 - y / 100 + y / 400

/-- The number of days of a year before a month. -/
def daysBeforeMonth (year month : Nat) : Nat :=
  (List.range (month - 1)).foldl (fun days m => days + daysInMonth year (m + 1)) 0

/-- The first and the last year. -/
def maxYear : Nat := 9999

namespace Day

/-- The number of the day of the year, from one. -/
def ofYear (d : Day) : Nat := daysBeforeMonth d.year d.month + d.day

/-- The number of the day, from one. -/
def ordinal (d : Day) : Nat := daysBeforeYear d.year + d.ofYear

/-- The day of the week, Monday being zero. -/
def weekday (d : Day) : Nat := (d.ordinal + 6) % 7

/-- The month and day of the `n`-th day of a year, counted from zero. -/
def inYear (year : Nat) : Nat → Nat → Nat → Day
  | 0, month, n => ⟨year, month, n + 1⟩
  | rounds + 1, month, n =>
    let size := daysInMonth year month
    if n < size then ⟨year, month, n + 1⟩ else inYear year rounds (month + 1) (n - size)

/-- The day with a number, from one. -/
def ofOrdinal (ordinal : Nat) : Day :=
  let n := ordinal - 1
  let guess := n / 366 + 1
  let year := ((List.range 30).map (guess + ·)).foldl (fun year y => if daysBeforeYear y ≤ n then y else year) guess
  inYear year 12 1 (n - daysBeforeYear year)

/-- The number of the day on which the first week of a year begins. -/
def firstMonday (year : Nat) : Int :=
  let first : Int := daysBeforeYear year + 1
  let weekday := (first + 6) % 7
  if weekday > 3 then first - weekday + 7 else first - weekday

/-- The year has 53 weeks. -/
def hasLongWeeks (year : Nat) : Bool :=
  let first := (Day.mk year 1 1).weekday
  first == 3 || (first == 2 && isLeap year)

/-- Year, week and day of the week, from one, of the week calendar. -/
def week (d : Day) : Nat × Nat × Nat :=
  let n : Int := d.ordinal
  let count := (n - firstMonday d.year) / 7
  let day := d.weekday + 1
  if count < 0 then (d.year - 1, ((n - firstMonday (d.year - 1)) / 7).toNat + 1, day)
  else if count ≥ 52 ∧ n ≥ firstMonday (d.year + 1) then (d.year + 1, 1, day)
  else (d.year, count.toNat + 1, day)

/-- The text of a day. -/
def text (d : Day) : Text :=
  Text.padLeft 4 '0' (Text.ofNat d.year) ++ "-" ++ Text.padLeft 2 '0' (Text.ofNat d.month) ++ "-" ++
    Text.padLeft 2 '0' (Text.ofNat d.day)

/-- What is wrong with year, month and day numbers, if anything. -/
def check (year : Int) (month day : Nat) : Except Fault Day :=
  if year < 1 ∨ year > maxYear then .error (.wrongValue ("year " ++ Text.ofInt year ++ " is out of range"))
  else if month < 1 ∨ month > 12 then .error (.wrongValue "month must be in 1..12")
  else if day < 1 ∨ day > daysInMonth year.toNat month then .error (.wrongValue "day is out of range for month")
  else .ok ⟨year.toNat, month, day⟩

end Day

namespace Moment

/-- What is wrong with the numbers of a time of day, if anything. -/
def check (m : Moment) : Except Fault Moment :=
  if m.hour > 23 then .error (.wrongValue "hour must be in 0..23")
  else if m.minute > 59 then .error (.wrongValue "minute must be in 0..59")
  else if m.second > 59 then .error (.wrongValue "second must be in 0..59")
  else if m.micro > 999999 then .error (.wrongValue "microsecond must be in 0..999999")
  else .ok m

/-- A number of two digits. -/
def two (n : Nat) : Text := Text.padLeft 2 '0' (Text.ofNat n)

/-- An offset from universal time with a separator between its parts; seconds and fractions only if there are any. -/
def offsetText (separator : Text) (offset : Int) : Text :=
  let n := offset.natAbs
  let seconds := n / 1000000
  let micro := n % 1000000
  (if offset < 0 then "-" else "+" : Text) ++ two (seconds / 3600) ++ separator ++ two (seconds / 60 % 60) ++
    (if seconds % 60 = 0 ∧ micro = 0 then [] else separator ++ two (seconds % 60) ++
      (if micro = 0 then [] else "." ++ Text.padLeft 6 '0' (Text.ofNat micro) : Text))

/-- The text of a moment with a separator between day and time. -/
def text (separator : Text) (m : Moment) : Text :=
  m.day.text ++ separator ++ two m.hour ++ ":" ++ two m.minute ++ ":" ++ two m.second ++
    (if m.micro = 0 then [] else "." ++ Text.padLeft 6 '0' (Text.ofNat m.micro) : Text) ++
    (m.offset.map (offsetText ":")).getD []

/-- Seconds from the beginning of 1970, the offset left out. -/
def seconds (m : Moment) : Int :=
  ((m.day.ordinal : Int) - 719163) * 86400 + m.hour * 3600 + m.minute * 60 + m.second

end Moment
end Stencil
