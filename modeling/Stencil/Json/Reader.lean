import Stencil.Error
import Stencil.Json.Basic
import Stencil.Number.Reading
import Stencil.Table

/-!
# Reading JSON

A document is one value with blanks around it.  Besides the standard's values the words `NaN`, `Infinity` and
`-Infinity` are numbers.  A key that occurs twice keeps its first place and its last value.  What cannot be read is
reported with its line, column and offset.
-/

namespace Stencil.Json

/-- What is wrong with a document. -/
inductive Flaw where
  | value
  | key
  | colon
  | comma
  | openString
  | control
  | badEscape
  | badUnit
  | extra
  | byteOrderMark
  /-- A whole number has so many digits, more than are read. -/
  | overlong (digits : Nat)
  deriving DecidableEq, Repr

/-- The wording of a flaw. -/
def Flaw.message : Flaw → Text
  | .value => "Expecting value"
  | .key => "Expecting property name enclosed in double quotes"
  | .colon => "Expecting ':' delimiter"
  | .comma => "Expecting ',' delimiter"
  | .openString => "Unterminated string starting at"
  | .control => "Invalid control character at"
  | .badEscape => "Invalid \\escape"
  | .badUnit => "Invalid \\uXXXX escape"
  | .extra => "Extra data"
  | .byteOrderMark => "Unexpected UTF-8 BOM (decode using utf-8-sig)"
  | .overlong digits => (Fault.overlong (some digits)).message

/-- A flaw and the number of characters from its place to the end of the document. -/
structure Defect where
  flaw : Flaw
  left : Nat
  deriving DecidableEq, Repr

/-- The report of a defect of a document; that of a number which is too long names no place. -/
def Defect.message (document : Text) (d : Defect) : Text :=
  if let .overlong _ := d.flaw then d.flaw.message else
  let offset := document.length - d.left
  let before := document.take offset
  let column := (before.reverse.takeWhile (· ≠ '\n')).length + 1
  d.flaw.message ++ ": line " ++ Text.ofNat (Text.newlines before + 1) ++ " column " ++ Text.ofNat column ++
    " (char " ++ Text.ofNat offset ++ ")"

/-- A blank between the parts of a document. -/
def isSpace (c : Char) : Bool := c == ' ' || c == '\t' || c == '\n' || c == '\r'

/-- A text without leading blanks. -/
def skip (s : Text) : Text := s.dropWhile isSpace

/-- The character of an escape of one letter. -/
def letterEscape? : Char → Option Char
  | '"' => some '"'
  | '\\' => some '\\'
  | '/' => some '/'
  | 'b' => some '\x08'
  | 'f' => some '\x0c'
  | 'n' => some '\n'
  | 'r' => some '\r'
  | 't' => some '\t'
  | _ => none

/-- The 16-bit unit that four digits write. -/
def unit? (s : Text) : Option Nat :=
  let digits := (s.take 4).filterMap Text.hexDigit?
  if digits.length = 4 ∧ s.length > 4 then some (Text.ofDigits 16 digits) else none

/-- The second unit of a pair, written as an escape. -/
def lowUnit? (s : Text) : Option Nat :=
  match Text.after? "\\u" s with
  | none => none
  | some digits =>
    match unit? digits with
    | none => none
    | some n => if 0xDC00 ≤ n ∧ n < 0xE000 then some n else none

/-- The character that digits behind a backslash and a `u` stand for, and how many characters it takes behind the
backslash. -/
def unicodeEscape (digits : Text) : Except Defect (Char × Nat) :=
  match unit? digits with
  | none => .error ⟨.badUnit, digits.length + 1⟩
  | some high =>
    if 0xD800 ≤ high ∧ high < 0xDC00 then
      match lowUnit? (digits.drop 4) with
      | some low => .ok (Char.ofNat (0x10000 + (high - 0xD800) * 0x400 + (low - 0xDC00)), 11)
      | none => .ok (Char.ofNat high, 5)
    else .ok (Char.ofNat high, 5)

/-- The character that an escape behind a backslash stands for, and how many characters it takes; `left` is the number
of characters from the string's opening quote on. -/
def escape (left : Nat) : Text → Except Defect (Char × Nat)
  | [] => .error ⟨.openString, left⟩
  | c :: s =>
    if c = 'u' then unicodeEscape s
    else match letterEscape? c with
      | some d => .ok (d, 1)
      | none => .error ⟨.badEscape, s.length + 2⟩

/-- The rest of a string behind its opening quote, of which `skip` characters belong to an escape already read; `left`
is the number of characters from the opening quote on. -/
def stringFrom (left : Nat) : Nat → Text → Except Defect (Text × Text)
  | _, [] => .error ⟨.openString, left⟩
  | skip + 1, _ :: s => stringFrom left skip s
  | 0, c :: s =>
    if c = '"' then .ok ([], s)
    else if c = '\\' then
      match escape left s with
      | .error e => .error e
      | .ok (d, taken) => (stringFrom left taken s).map fun (t, rest) => (d :: t, rest)
    else if c.toNat < 32 then .error ⟨.control, s.length + 1⟩
    else (stringFrom left 0 s).map fun (t, rest) => (c :: t, rest)

/-- Digits at the head of a text and the rest. -/
def digits (s : Text) : Text × Text := s.span fun c => '0' ≤ c && c ≤ '9'

/-- The places behind a point, if any. -/
def places (s : Text) : Option Text × Text :=
  match s with
  | '.' :: rest =>
    match digits rest with
    | ([], _) => (none, s)
    | (found, rest) => (some found, rest)
  | _ => (none, s)

/-- The exponent, if any. -/
def exponent (s : Text) : Option Int × Text :=
  match s with
  | c :: rest =>
    if c = 'e' ∨ c = 'E' then
      let (sign, rest) : Int × Text := match rest with
        | '-' :: r => (-1, r)
        | '+' :: r => (1, r)
        | r => (1, r)
      match digits rest with
      | ([], _) => (none, s)
      | (found, rest) => (some (sign * Text.ofDigits 10 (found.filterMap Text.digit?)), rest)
    else (none, s)
  | [] => (none, s)

/-- The number at the head of a text. -/
def number? (s : Text) : Option (Json × Text) :=
  let (negative, body) : Bool × Text := match s with
    | '-' :: r => (true, r)
    | r => (false, r)
  let (whole, rest) : Text × Text := match body with
    | '0' :: r => (['0'], r)
    | r => digits r
  if whole.isEmpty then none
  else
    let (fraction, rest) := places rest
    let (power, rest) := exponent rest
    let value := Text.ofDigits 10 ((whole ++ fraction.getD []).filterMap Text.digit?)
    if fraction.isNone ∧ power.isNone then some (.int (if negative then -(value : Int) else value), rest)
    else
      let x := Number.ofDecimal value (power.getD 0 - (fraction.getD []).length)
      some (.float (if negative then -x else x), rest)

/-- A number from the head of a text, unless it is a whole one with too many digits. -/
def checkedNumber (s : Text) (value : Json) (rest : Text) : Except Defect (Json × Text) :=
  let count := (s.length - rest.length) - (if s.head? = some '-' then 1 else 0)
  match value with
  | .int _ => if count > Number.digitLimit then .error ⟨.overlong count, s.length⟩ else .ok (value, rest)
  | value => .ok (value, rest)

/-- A word with a value at the head of a text. -/
def word? (s : Text) : Option (Json × Text) :=
  let words : List (Text × Json) := [
    ("null", .null), ("true", .bool true), ("false", .bool false), ("NaN", .float (0.0 / 0.0)),
    ("Infinity", .float (1.0 / 0.0)), ("-Infinity", .float (-1.0 / 0.0))]
  words.findSome? fun (word, value) => (Text.after? word s).map fun rest => (value, rest)

/-- Reads a value, the items of an array behind a comma, or the members of an object behind a comma.  Every round
consumes a character, so the length of the text bounds their number. -/
def valueFrom : Nat → Text → Except Defect (Json × Text)
  | 0, s => .error ⟨.value, s.length⟩
  | rounds + 1, s =>
    match s with
    | '"' :: rest => (stringFrom s.length 0 rest).map fun (t, rest) => (.str t, rest)
    | '[' :: rest =>
      match skip rest with
      | ']' :: rest => .ok (.arr [], rest)
      | rest => itemsFrom rounds [] rest
    | '\x7b' :: rest =>
      match skip rest with
      | '\x7d' :: rest => .ok (.obj [], rest)
      | rest => membersFrom rounds [] rest
    | _ =>
      match word? s with
      | some found => .ok found
      | none =>
        match number? s with
        | some (value, rest) => checkedNumber s value rest
        | none => .error ⟨.value, s.length⟩
where
  /-- The items of an array behind those already read. -/
  itemsFrom : Nat → List Json → Text → Except Defect (Json × Text)
    | 0, _, s => .error ⟨.value, s.length⟩
    | rounds + 1, items, s => do
      let (item, rest) ← valueFrom rounds s
      match skip rest with
      | ']' :: rest => return (.arr (items ++ [item]), rest)
      | ',' :: rest => itemsFrom rounds (items ++ [item]) (skip rest)
      | rest => .error ⟨.comma, rest.length⟩
  /-- The members of an object behind those already read. -/
  membersFrom : Nat → Table Json → Text → Except Defect (Json × Text)
    | 0, _, s => .error ⟨.value, s.length⟩
    | rounds + 1, members, s =>
      match s with
      | '"' :: inside => do
        let (key, rest) ← stringFrom s.length 0 inside
        match skip rest with
        | ':' :: rest =>
          let (value, rest) ← valueFrom rounds (skip rest)
          match skip rest with
          | '\x7d' :: rest => return (.obj (members.put key value), rest)
          | ',' :: rest => membersFrom rounds (members.put key value) (skip rest)
          | rest => .error ⟨.comma, rest.length⟩
        | rest => .error ⟨.colon, rest.length⟩
      | _ => .error ⟨.key, s.length⟩

/-- Reads a document. -/
def read (s : Text) : Except Defect Json :=
  if s.head? = some '\ufeff' then .error ⟨.byteOrderMark, s.length⟩
  else do
    let start := skip s
    let (value, rest) ← valueFrom (start.length + 1) start
    match skip rest with
    | [] => return value
    | rest => .error ⟨.extra, rest.length⟩

end Stencil.Json
