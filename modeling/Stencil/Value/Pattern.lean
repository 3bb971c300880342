import Stencil.Number.Fixed
import Stencil.Output.Amount
import Stencil.Text.Html
import Stencil.Value.Access

/-!
# Percent patterns

A pattern is a text with fields that values fill in turn.  A field is a percent sign, perhaps a name in parentheses,
flags (`-` left, `+` and blank sign, `0` zeros, `#` alternate form), a width, a precision, a size that means nothing and
a letter: `s`, `r` and `a` for text and display, `d` for whole numbers, `f`, `e` and `g` for fractions, `x`, `X` and `o`
for other bases, `c` for a character; two percent signs stand for one.  In a pattern that is markup the texts of values
are escaped, and values that are no numbers are read as such.
-/

namespace Stencil.Value

/-- The parts of a field before its letter. -/
structure FieldFormat where
  left : Bool := false
  plus : Bool := false
  space : Bool := false
  zero : Bool := false
  alternate : Bool := false
  width : Nat := 0
  precision : Option Nat := none
  deriving DecidableEq, Repr

/-- The values that are still to be filled in, and the value in which names are looked up. -/
structure Fillers where
  values : List Value
  named : Option Value

/-- How values fill a pattern: how their texts are escaped, the name of a value's kind, and their numbers. -/
structure Filling where
  shown : Value → Text
  escape : Value → Text → Text
  kind : Value → Text
  /-- A whole number, fractions cut off; `none` if the value is no number. -/
  whole : Value → Except Fault (Option Int)
  /-- A whole number that is one already. -/
  exact : Value → Option Int
  fraction : Value → Except Fault Float
  /-- A single character that the value is. -/
  char? : Value → Option Char

/-- How values fill a pattern that is plain text. -/
def fillPlain (shown : Value → Text) : Filling where
  shown
  escape _ s := s
  kind := kind
  whole
    | v@(.bool _) | v@(.int _) | v@(.float _) => (Output.toWhole v).map some
    | _ => .ok none
  exact := position?
  fraction
    | v@(.bool _) | v@(.int _) | v@(.float _) => Output.toFloat v
    | v => .error (.wrongType ("must be real number, not " ++ kind v))
  char?
    | .str [c] | .markup [c] => some c
    | _ => none

/-- How values fill a pattern that is markup. -/
def fillMarkup (shown : Value → Text) : Filling where
  shown
  escape
    | .markup _, s => s
    | _, s => Text.html s
  kind _ := "_MarkupEscapeHelper"
  whole v :=
    match Output.toWhole v with
    | .ok n => .ok (some n)
    | .error (.wrongType _) => .ok none
    | .error f => .error f
  exact _ := none
  fraction := Output.toFloat
  char? _ := none

/-- The flags at the head of a text. -/
def fieldFlags : FieldFormat → Text → FieldFormat × Text
  | f, [] => (f, [])
  | f, c :: s =>
    if c = '-' then fieldFlags { f with left := true } s
    else if c = '+' then fieldFlags { f with plus := true } s
    else if c = ' ' then fieldFlags { f with space := true } s
    else if c = '0' then fieldFlags { f with zero := true } s
    else if c = '#' then fieldFlags { f with alternate := true } s
    else (f, c :: s)

/-- A number at the head of a text, zero if there is none, and the rest. -/
def leadingNumber (s : Text) : Nat × Text :=
  let digits := s.takeWhile fun c => '0' ≤ c && c ≤ '9'
  (Text.ofDigits 10 (digits.filterMap Text.digit?), s.drop digits.length)

/-- The next value that fills a field. -/
def nextFiller (fs : Fillers) : Except Fault (Value × Fillers) :=
  match fs.values with
  | [] => .error (.wrongType "not enough arguments for format string")
  | v :: values => .ok (v, { fs with values })

/-- A width or precision at the head of a text: a number up to a limit, or a star for the next value. -/
def measure (g : Filling) (what : Text) (limit : Nat) (fs : Fillers) (s : Text) : Except Fault (Int × Fillers × Text) :=
  match s with
  | '*' :: rest => do
    let (v, fs) ← nextFiller fs
    match g.exact v with
    | none => throw (.wrongType "* wants int")
    | some n =>
      if n.natAbs > limit then throw (.overflow "Python int too large to convert to C ssize_t")
      return (n, fs, rest)
  | s =>
    let (n, rest) := leadingNumber s
    if n > limit then .error (.wrongValue (what ++ " too big")) else .ok (n, fs, rest)

/-- The name in parentheses that a field begins with, parentheses inside it paired, and the rest; `open_` counts the
parentheses that are open. -/
def fieldName? : Nat → Text → Option (Text × Text)
  | _, [] => none
  | open_, c :: s =>
    if c = ')' ∧ open_ = 0 then some ([], s)
    else
      let open_ := if c = '(' then open_ + 1 else if c = ')' then open_ - 1 else open_
      (fieldName? open_ s).map fun (name, rest) => (c :: name, rest)

/-- The value under the name of a field is the only one left. -/
def byName (g : Filling) (fs : Fillers) (name : Text) : Except Fault Fillers :=
  match fs.named with
  | none => .error (.wrongType "format requires a mapping")
  | some v => do return { fs with values := [← item g.shown v (.str name)] }

/-- Everything before the letter of a field. -/
def fieldFormat (g : Filling) (fs : Fillers) (s : Text) : Except Fault (FieldFormat × Fillers × Text) := do
  let (fs, s) ← match s with
    | '(' :: rest =>
      match fieldName? 0 rest with
      | none => .error (.wrongValue "incomplete format key")
      | some (name, rest) => do pure (← byName g fs name, rest)
    | s => pure (fs, s)
  let (f, s) := fieldFlags {} s
  let (width, fs, s) ← measure g "width" (Nat.pow 2 63 - 1) fs s
  let f := { f with left := f.left || width < 0, width := width.natAbs }
  let (f, fs, s) ← match s with
    | '.' :: rest => do
      let (precision, fs, rest) ← measure g "precision" (Nat.pow 2 31 - 1) fs rest
      pure ({ f with precision := some precision.toNat }, fs, rest)
    | s => pure (f, fs, s)
  match s with
  | [] => throw (.wrongValue "incomplete format")
  | c :: rest =>
    if c = 'h' ∨ c = 'l' ∨ c = 'L' then
      if rest.isEmpty then throw (.wrongValue "incomplete format")
      return (f, fs, rest)
    return (f, fs, s)

/-- Fills a text to the width of its field. -/
def FieldFormat.pad (f : FieldFormat) (s : Text) : Text :=
  if f.left then Text.padRight f.width ' ' s else Text.padLeft f.width ' ' s

/-- Fills a number to the width of its field, zeros going between what stands before the digits and the digits. -/
def FieldFormat.padNumber (f : FieldFormat) (negative : Bool) (opening digits : Text) : Text :=
  let sign : Text := if negative then "-" else if f.plus then "+" else if f.space then " " else []
  let front := sign ++ opening
  if f.zero && !f.left then front ++ Text.padLeft (f.width - front.length) '0' digits
  else f.pad (front ++ digits)

/-- A whole number in a base. -/
def FieldFormat.whole (f : FieldFormat) (base : Nat) (opening : Text) (n : Int) : Text :=
  f.padNumber (n < 0) (if f.alternate then opening else [])
    (Text.padLeft (f.precision.getD 0) '0' (Nat.toDigits base n.natAbs))

/-- A fraction in fixed places, with an exponent, or in the general form. -/
def FieldFormat.fraction (f : FieldFormat) (letter : Char) (x : Float) : Text :=
  let places := f.precision.getD 6
  match Number.parts x with
  | .nan => f.padNumber false [] "nan"
  | .infinite negative => f.padNumber negative [] "inf"
  | .finite negative m q =>
    let (num, den) := Number.ratio m q
    f.padNumber negative [] <|
      if letter = 'f' then
        let (whole, rest) := Number.placesOf num den places
        Number.pointed whole.length f.alternate (whole ++ rest)
      else if letter = 'e' then Number.exponential places f.alternate num den
      else Number.general places f.alternate num den

/-- A text in its field, cut to the precision. -/
def FieldFormat.text (f : FieldFormat) (s : Text) : Text :=
  f.pad (match f.precision with
    | none => s
    | some n => s.take n)

/-- A text with everything beyond ASCII escaped by its number. -/
def asciiOnly (s : Text) : Text := s.flatMap fun c => if c.toNat < 128 then [c] else Text.numberEscape c

/-- The text of a whole number may be asked for. -/
def checkDigits (n : Int) : Except Fault Unit := if Number.isOverlong n then .error (.overlong none) else .ok ()

/-- A character by its number, or a value that is one. -/
def fillChar (g : Filling) (v : Value) : Except Fault Char :=
  match g.char? v, g.exact v with
  | some c, _ => .ok c
  | none, some n =>
    if 0 ≤ n ∧ n < 0x110000 then .ok (Char.ofNat n.toNat) else .error (.overflow "%c arg not in range(0x110000)")
  | none, none => .error (.wrongType "%c requires int or char")

/-- A value in a field with a letter; `index` is the letter's place in the pattern. -/
def fillField (g : Filling) (f : FieldFormat) (letter : Char) (index : Nat) (v : Value) : Except Fault Text :=
  let lower := letter.toLower
  let raised (s : Text) : Text := if letter = lower then s else s.map Char.toUpper
  let number (what : Text) : Except Fault Text :=
    .error (.wrongType ("%" ++ [letter] ++ " format: " ++ what ++ " is required, not " ++ g.kind v))
  if letter = 's' then do return f.text (g.escape v (← write g.shown v))
  else if letter = 'r' then do return f.text (g.escape .null (← writeDisplay g.shown v))
  else if letter = 'a' then do return f.text (asciiOnly (g.escape .null (← writeDisplay g.shown v)))
  else if letter = 'd' ∨ letter = 'i' ∨ letter = 'u' then do
    match ← g.whole v with
    | some n =>
      checkDigits n
      return f.whole 10 [] n
    | none => number "a real number"
  else if lower = 'x' ∨ letter = 'o' then
    match g.exact v with
    | some n => .ok (raised (if letter = 'o' then f.whole 8 "0o" n else f.whole 16 "0x" n))
    | none => number "an integer"
  else if lower = 'f' ∨ lower = 'e' ∨ lower = 'g' then do return raised (f.fraction lower (← g.fraction v))
  else if letter = 'c' then do return f.pad [← fillChar g v]
  else
    let shownLetter := if 30 < letter.toNat ∧ letter.toNat < 127 then letter else '?'
    .error (.wrongValue ("unsupported format character '" ++ [shownLetter] ++ "' (0x" ++ Nat.toDigits 16 letter.toNat ++
      ") at index " ++ Text.ofNat index))

/-- Fills a pattern from an index on, `skip` characters still belonging to the last field. -/
def fillFrom (g : Filling) : Nat → Nat → Fillers → Text → Except Fault Text
  | _, _, fs, [] =>
    if fs.named.isSome || fs.values.isEmpty then .ok []
    else .error (.wrongType "not all arguments converted during string formatting")
  | skip + 1, index, fs, _ :: s => fillFrom g skip (index + 1) fs s
  | 0, index, fs, c :: s =>
    if c = '%' ∧ s.head? = some '%' then (fillFrom g 1 (index + 1) fs s).map ('%' :: ·)
    else if c = '%' then do
      let (f, fs, rest) ← fieldFormat g fs s
      let taken := s.length - rest.length + 1
      let (v, fs) ← nextFiller fs
      let filled ← fillField g f (rest.headD '%') (index + taken) v
      return filled ++ (← fillFrom g taken (index + 1) fs s)
    else (fillFrom g 0 (index + 1) fs s).map (c :: ·)

/-- The values that fill a pattern: the items of a tuple, or one value, in which names may be looked up if it has
parts. -/
def fillersOf : Value → Fillers
  | .tuple items => ⟨items, none⟩
  | v@(.list ..) | v@(.dict ..) | v@(.range ..) => ⟨[v], some v⟩
  | v => ⟨[v], none⟩

/-- A pattern with its fields filled by a value. -/
def fill (g : Filling) (pattern : Text) (v : Value) : Except Fault Text := fillFrom g 0 0 (fillersOf v) pattern

end Stencil.Value
