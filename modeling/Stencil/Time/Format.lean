import Stencil.Text.Case
import Stencil.Time.Calendar

/-!
# Formatting dates and times

In a format a percent sign begins a field: optional flags, an optional width, an optional variant (`E`, `O`) and a
letter.  The flags say how a number is filled (`0`, `_`, `-`) and whether letters are raised (`^`) or swapped (`#`).
What is no field stands for itself, filled to its width.  Names are English; the year is written without leading zeros.
-/

namespace Stencil.Time

/-- The names of the days, Sunday first. -/
def dayNames : List Text := ["Sunday", "Monday", "Tuesday", "Wednesday", "Thursday", "Friday", "Saturday"]

/-- The names of the months. -/
def monthNames : List Text := [
  "January", "February", "March", "April", "May", "June", "July", "August", "September", "October", "November",
  "December"]

/-- How a field is written. -/
structure Style where
  /-- What a number is filled with: `0`, `_` for blanks, `-` for nothing. -/
  fill : Option Char := none
  raise : Bool := false
  swap : Bool := false
  width : Nat := 0
  /-- A letter, `E` or `O`, that asks for another form. -/
  variant : Option Char := none
  deriving DecidableEq, Repr

/-- The raised form of a letter, as far as it is one letter. -/
def raised (c : Char) : Char :=
  match Text.upper [c] with
  | [d] => d
  | _ => c

/-- Fills a text to the width of its field. -/
def Style.put (f : Style) (s : Text) : Text := Text.padLeft f.width (if f.fill = some '0' then '0' else ' ') s

/-- Fills a text, with its letters raised if asked for. -/
def Style.string (f : Style) (s : Text) : Text := f.put (if f.raise then s.map raised else s)

/-- Fills a name; swapping its letters raises them. -/
def Style.name (f : Style) (s : Text) : Text := { f with raise := f.raise || f.swap }.string s

/-- Fills a number from a least width, with `default` unless the field says something else. -/
def Style.number (f : Style) (least : Nat) (default : Char) (n : Nat) : Text :=
  let digits := Text.ofNat n
  match f.fill.getD default with
  | '-' => f.put digits
  | '_' => Text.padLeft (max f.width least) ' ' digits
  | c => Text.padLeft (max f.width least) c digits

/-- The number of the week of the year when weeks begin on a given day of the week. -/
def weekOfYear (d : Day) (fromBegin : Nat) : Nat := (d.ofYear + 6 - fromBegin) / 7

/-- The hour on a clock of twelve. -/
def twelve (hour : Nat) : Nat := if hour % 12 = 0 then 12 else hour % 12

/-- A field that is a format of its own. -/
def compound? : Char → Option Text
  | 'c' => some "%a %b %e %H:%M:%S %Y"
  | 'D' => some "%m/%d/%y"
  | 'x' => some "%m/%d/%y"
  | 'F' => some "%Y-%m-%d"
  | 'R' => some "%H:%M"
  | 'r' => some "%I:%M:%S %p"
  | 'T' => some "%H:%M:%S"
  | 'X' => some "%H:%M:%S"
  | _ => none

/-- The letters that have no form of the variant `E`. -/
def withoutE : Text := "%aAbhBDFdeHIkljMmSUVgGWw"

/-- The letters that have no form of the variant `O`. -/
def withoutO : Text := "%aAcxXDFY"

/-- A letter has no form of a variant. -/
def lacks (c : Char) : Option Char → Bool
  | none => false
  | some v => c ∈ (if v = 'E' then withoutE else withoutO)

/-- The half of the day; swapping its letters lowers them. -/
def half (m : Moment) (f : Style) (lowered : Bool) : Text :=
  if lowered || f.swap then f.put (if m.hour < 12 then "am" else "pm")
  else f.put (if m.hour < 12 then "AM" else "PM")

/-- The text of a simple field. -/
def simple? (m : Moment) (f : Style) (c : Char) : Option Text :=
  let d := m.day
  let sunday := (d.weekday + 1) % 7
  let dayName := dayNames.getD sunday []
  let monthName := monthNames.getD (d.month - 1) []
  let (weekYear, week, weekDay) := d.week
  match c with
  | 'a' => some (f.name (dayName.take 3))
  | 'A' => some (f.name dayName)
  | 'b' | 'h' => some (f.name (monthName.take 3))
  | 'B' => some (f.name monthName)
  | 'C' => some (f.number 1 '0' (d.year / 100))
  | 'd' => some (f.number 2 '0' d.day)
  | 'e' => some (f.number 2 '_' d.day)
  | 'g' => some (f.number 2 '0' (weekYear % 100))
  | 'G' => some (f.number 1 '0' weekYear)
  | 'H' => some (f.number 2 '0' m.hour)
  | 'I' => some (f.number 2 '0' (twelve m.hour))
  | 'j' => some (f.number 3 '0' d.ofYear)
  | 'k' => some (f.number 2 '_' m.hour)
  | 'l' => some (f.number 2 '_' (twelve m.hour))
  | 'm' => some (f.number 2 '0' d.month)
  | 'M' => some (f.number 2 '0' m.minute)
  | 'n' => some (f.put ['\n'])
  | 'p' => some (half m f false)
  | 'P' => some (half m f true)
  | 's' => some (f.put (Text.ofInt m.seconds))
  | 'S' => some (f.number 2 '0' m.second)
  | 't' => some (f.put ['\t'])
  | 'u' => some (f.number 1 '0' weekDay)
  | 'U' => some (f.number 2 '0' (weekOfYear d sunday))
  | 'V' => some (f.number 2 '0' week)
  | 'w' => some (f.number 1 '0' sunday)
  | 'W' => some (f.number 2 '0' (weekOfYear d d.weekday))
  | 'y' => some (f.number 2 '0' (d.year % 100))
  | 'Y' => some (f.number 1 '0' d.year)
  | 'z' => some []
  | 'Z' => some (if f.fill = some '-' then [] else f.put [])
  | '%' => some (f.put ['%'])
  | _ => none

/-- The name of a moment's zone. -/
def zoneName : Option Int → Text
  | none => []
  | some offset => if offset = 0 then "UTC" else "UTC" ++ Moment.offsetText ":" offset

/-- The flags at the head of a text, and the rest. -/
def flagsOf : Style → Text → Style × Text
  | f, c :: s =>
    if c = '_' ∨ c = '-' ∨ c = '0' then flagsOf { f with fill := some c } s
    else if c = '^' then flagsOf { f with raise := true } s
    else if c = '#' then flagsOf { f with swap := true } s
    else (f, c :: s)
  | f, [] => (f, [])

/-- A width at the head of a text, at most `room`, and the rest. -/
def widthOf (room : Nat) (f : Style) (s : Text) : Style × Text :=
  let digits := s.takeWhile fun c => '0' ≤ c && c ≤ '9'
  ({ f with width := min room (Text.ofDigits 10 (digits.filterMap Text.digit?)) }, s.drop digits.length)

/-- A variant at the head of a text, and the rest. -/
def variantOf (f : Style) (s : Text) : Style × Text :=
  match s with
  | c :: rest => if c = 'E' ∨ c = 'O' then ({ f with variant := some c }, rest) else (f, s)
  | [] => (f, s)

/-- The style at the head of a text behind a percent sign, and the rest. -/
def styleOf (room : Nat) (s : Text) : Style × Text :=
  let (f, rest) := flagsOf {} s
  let (f, rest) := widthOf room f rest
  variantOf f rest

/-- The field behind a percent sign, and the number of characters it takes; what is no field stands for itself, from its
last percent sign on. -/
def field (expand : Text → Text) (room : Nat) (m : Moment) (s : Text) : Text × Nat :=
  let (f, rest) := styleOf room s
  let taken := s.length - rest.length + min 1 rest.length
  let itself := f.string (if rest.head? = some '%' then ['%'] else '%' :: s.take taken)
  match rest with
  | [] => (itself, taken)
  | c :: _ =>
    if lacks c f.variant then (if c = 'b' ∨ c = 'h' then f.name ('%' :: s.take taken) else itself, taken)
    else match compound? c with
      | some format => (f.string (expand format), taken)
      | none => ((simple? m f c).getD itself, taken)

/-- Writes a moment, `skip` characters still belonging to the last field; compound fields only at the outer level. -/
def writeFrom (expand : Text → Text) (room : Nat) (m : Moment) : Nat → Text → Text
  | _, [] => []
  | skip + 1, _ :: s => writeFrom expand room m skip s
  | 0, c :: s =>
    if c = '%' then
      let (text, taken) := field expand room m s
      text ++ writeFrom expand room m taken s
    else c :: writeFrom expand room m 0 s

/-- A format with the fields for fractions and zones filled in. -/
def fillZones (m : Moment) : Text → Text
  | '%' :: 'z' :: s => (m.offset.map (Moment.offsetText [])).getD [] ++ fillZones m s
  | '%' :: 'Z' :: s => Text.replace ['%'] "%%" (zoneName m.offset) ++ fillZones m s
  | '%' :: 'f' :: s => Text.padLeft 6 '0' (Text.ofNat m.micro) ++ fillZones m s
  | '%' :: c :: s => '%' :: c :: fillZones m s
  | c :: s => c :: fillZones m s
  | [] => []

/-- The room for what a format of a length gives: 1024 characters doubled until there are 256 for each of its own. -/
def roomFor (length : Nat) : Nat :=
  let blocks := (length + 3) / 4
  1024 * (if blocks ≤ 1 then 1 else Nat.pow 2 ((blocks - 1).log2 + 1))

/-- A moment in a format; nothing if there is no room for it. -/
def write (format : Text) (m : Moment) : Text :=
  let format := fillZones m format
  let room := roomFor format.length
  let s := writeFrom (writeFrom id room m 0) room m 0 format
  if s.length < room then s else []

end Stencil.Time
