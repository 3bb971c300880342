import Stencil.Yaml.Flaw

/-!
# Tokens of YAML documents

A document is read as tokens: indicators, scalars and their properties, and the begins and ends of blocks, which follow
from indentation.  A simple key is noticed only at its colon; until then its place is kept as a *pending* key.

* `Cursor` — what is still to be read, and where it begins.
* `Token` — a lexeme with its begin and end.
* `Scanner` — the state of scanning: the cursor, tokens not taken yet, indentations and pending keys.
-/

namespace Stencil.Yaml

/-- What stands behind the end of a document. -/
def sentinel : Char := '\x00'

/-- A line break. -/
def isBreak (c : Char) : Bool := c == '\r' || c == '\n' || c == '\x85' || c == '\u2028' || c == '\u2029'

/-- A line break or the end. -/
def endsLine (c : Char) : Bool := c == sentinel || isBreak c

/-- A space, a line break or the end. -/
def endsWord (c : Char) : Bool := c == ' ' || endsLine c

/-- A space, a tab, a line break or the end. -/
def isGap (c : Char) : Bool := c == '\t' || endsWord c

/-- A space or a tab. -/
def isSpace (c : Char) : Bool := c == ' ' || c == '\t'

/-- A character of a name: a letter of the basic alphabet, a digit, a hyphen or an underscore. -/
def isNameChar (c : Char) : Bool :=
  ('0' ≤ c && c ≤ '9') || ('A' ≤ c && c ≤ 'Z') || ('a' ≤ c && c ≤ 'z') || c == '-' || c == '_'

/-- A hexadecimal digit. -/
def isHex (c : Char) : Bool := (Text.hexDigit? c).isSome

/-! ## The cursor -/

/-- What is still to be read, and where it begins. -/
structure Cursor where
  rest : Text
  index : Nat := 0
  mark : Mark := ⟨0, 0⟩
  deriving Repr

namespace Cursor

/-- The character at a distance. -/
def peek (c : Cursor) (n : Nat := 0) : Char := (c.rest[n]?).getD sentinel

/-- One character on: behind a line break a new line begins; the byte order mark has no width. -/
def step (c : Cursor) : Cursor :=
  match c.rest with
  | [] => c
  | d :: rest =>
    let mark : Mark :=
      if isBreak d && !(d == '\r' && rest.head? == some '\n') then ⟨c.mark.line + 1, 0⟩
      else if d == '\ufeff' then c.mark
      else { c.mark with column := c.mark.column + 1 }
    ⟨rest, c.index + 1, mark⟩

/-- Several characters on. -/
def skip : Nat → Cursor → Cursor
  | 0, c => c
  | n + 1, c => skip n c.step

/-- The characters at the head for which a test holds, and the cursor behind them. -/
def takeWhile (test : Char → Bool) (c : Cursor) : Text × Cursor :=
  let taken := c.rest.takeWhile test
  (taken, c.skip taken.length)

/-- The cursor behind the characters at the head for which a test holds. -/
def dropWhile (test : Char → Bool) (c : Cursor) : Cursor := (c.takeWhile test).2

/-- A line break at the head as it counts in a text, empty if there is none, and the cursor behind it. -/
def lineBreak (c : Cursor) : Text × Cursor :=
  let d := c.peek
  if d == '\r' && c.peek 1 == '\n' then (['\n'], c.skip 2)
  else if d == '\r' || d == '\n' || d == '\x85' then (['\n'], c.step)
  else if isBreak d then ([d], c.step)
  else ([], c)

/-- Three characters at the head that stand alone. -/
def hasMarker (c : Cursor) (marker : Text) : Bool := c.rest.take 3 == marker && isGap (c.peek 3)

/-- A document begins or ends here, if this is the head of a line. -/
def atSeparator (c : Cursor) : Bool := c.hasMarker "---" || c.hasMarker "..."

/-- Behind a remark at the head, if there is one. -/
def skipRemark (c : Cursor) : Cursor := if c.peek == '#' then c.dropWhile (!endsLine ·) else c

end Cursor

/-! ## Tokens -/

/-- How a scalar is written. -/
inductive Style where
  | plain
  | quoted
  | block
  deriving DecidableEq, Repr

/-- What a token says. -/
inductive Lexeme where
  /-- A directive: a version, a handle for tags, or one that is not known. -/
  | version (major : Nat)
  | handle (name value : Text)
  | unknownDirective
  | documentStart
  | documentEnd
  | streamEnd
  | blockSequence
  | blockMapping
  | blockEnd
  | flowSequence
  | flowMapping
  | flowSequenceEnd
  | flowMappingEnd
  | key
  | value
  | blockEntry
  | flowEntry
  | alias (name : Text)
  | anchor (name : Text)
  | tag (handle : Option Text) (suffix : Text)
  | scalar (style : Style) (s : Text)
  deriving DecidableEq, Repr

/-- The name of a lexeme in messages. -/
def Lexeme.name : Lexeme → Text
  | version _ | handle .. | unknownDirective => "<directive>"
  | documentStart => "<document start>"
  | documentEnd => "<document end>"
  | streamEnd => "<stream end>"
  | blockSequence => "<block sequence start>"
  | blockMapping => "<block mapping start>"
  | blockEnd => "<block end>"
  | flowSequence => "["
  | flowMapping => "\x7b"
  | flowSequenceEnd => "]"
  | flowMappingEnd => "\x7d"
  | key => "?"
  | value => ":"
  | blockEntry => "-"
  | flowEntry => ","
  | .alias _ => "<alias>"
  | anchor _ => "<anchor>"
  | tag .. => "<tag>"
  | scalar .. => "<scalar>"

/-- A directive. -/
def Lexeme.isDirective : Lexeme → Bool
  | version _ | handle .. | unknownDirective => true
  | _ => false

/-- A lexeme with its begin and end. -/
structure Token where
  lexeme : Lexeme
  start : Mark
  stop : Mark
  deriving DecidableEq, Repr

/-! ## The scanner -/

/-- A token that is a simple key if a colon follows: its number, where it begins, and whether it must be one. -/
structure PendingKey where
  number : Nat
  required : Bool
  index : Nat
  mark : Mark
  deriving Repr

/-- The state of scanning. -/
structure Scanner where
  cursor : Cursor
  /-- How many brackets are open; closers without an opener make it negative. -/
  depth : Int := 0
  /-- Tokens that are not taken yet, and how many have been. -/
  queue : List Token := []
  taken : Nat := 0
  /-- The indentation of the innermost block, and those of the blocks around it. -/
  indent : Int := -1
  indents : List Int := []
  keyAllowed : Bool := true
  /-- Pending keys by the number of open brackets around them. -/
  pending : List (Int × PendingKey) := []
  finished : Bool := false

/-- A step of scanning. -/
abbrev Scan := StateT Scanner (Except Flaw)

namespace Scan

/-- Fails at a place while something is scanned that began at another one. -/
def fail {α : Type} (what : Text) (start : Mark) (problem : Text) (place : Mark) : Scan α :=
  throw (.marked .scanning (some (what, some start)) problem place)

/-- Where scanning stands. -/
def cursor : Scan Cursor := return (← get).cursor

/-- Goes on elsewhere. -/
def goTo (c : Cursor) : Scan Unit := modify fun s => { s with cursor := c }

/-- Fails at the cursor. -/
def failHere {α : Type} (what : Text) (start : Mark) (problem : Text) : Scan α := do
  fail what start problem (← cursor).mark

/-- Fails because of the character at the cursor. -/
def unexpected {α : Type} (what : Text) (start : Mark) (wanted : Text) : Scan α := do
  failHere what start (wanted ++ ", but found " ++ Text.quoted [(← cursor).peek])

/-- The characters at the cursor for which a test holds; goes on behind them. -/
def takeWhile (test : Char → Bool) : Scan Text := modifyGet fun s =>
  let (taken, cursor) := s.cursor.takeWhile test
  (taken, { s with cursor })

/-- Goes on behind several characters. -/
def skip (n : Nat) : Scan Unit := modify fun s => { s with cursor := s.cursor.skip n }

/-- A line break at the cursor; goes on behind it. -/
def lineBreak : Scan Text := modifyGet fun s =>
  let (taken, cursor) := s.cursor.lineBreak
  (taken, { s with cursor })

/-- The rest of a line, on which only a remark may stand. -/
def restOfLine (what : Text) (start : Mark) : Scan Unit := do
  let c := ((← cursor).dropWhile (· == ' ')).skipRemark
  goTo c
  if !endsLine c.peek then unexpected what start "expected a comment or a line break"
  let _ ← lineBreak

end Scan
end Stencil.Yaml
