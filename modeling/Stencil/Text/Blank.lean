import Stencil.Text.Basic

/-!
# Blank characters and lines

Blank are the Unicode white space characters together with the four separators U+001C to U+001F; the zero width space
and the byte order mark are not.  Stripping removes blanks from both ends.

Two notions of line meet here.  A *line break* is the character U+000A; template lines and margins are counted by it.
A *line end* is any of the ten characters that end a line of text, the pair CR LF counting once; program text is stored
by these.  `dedent` removes the margin that all lines with content share.
-/

namespace Stencil.Text

/-- Where membership among the blank characters changes. -/
def blankFlips : List Nat := [
  0x9, 0xE, 0x1C, 0x21, 0x85, 0x86, 0xA0, 0xA1, 0x1680, 0x1681, 0x2000, 0x200B, 0x2028, 0x202A, 0x202F, 0x2030, 0x205F,
  0x2060, 0x3000, 0x3001]

/-- A white space character of any kind. -/
def isBlank (c : Char) : Bool := inFlips blankFlips c.toNat

/-- A white space character that is no separator. -/
def isWhite (c : Char) : Bool := isBlank c && !('\x1c' ≤ c && c ≤ '\x1f')

/-- Only blank characters. -/
def blank (s : Text) : Bool := s.all isBlank

/-- Without leading blanks. -/
def stripLeft (s : Text) : Text := s.dropWhile isBlank

/-- Without trailing blanks. -/
def stripRight (s : Text) : Text := (s.reverse.dropWhile isBlank).reverse

/-- Without blanks at either end. -/
def strip (s : Text) : Text := stripRight (stripLeft s)

/-- Without given characters at either end. -/
def trim (p : Char → Bool) (s : Text) : Text := ((s.dropWhile p).reverse.dropWhile p).reverse

/-- The words between blanks. -/
def words (s : Text) : List Text := (s.splitBy fun a b => isBlank a == isBlank b).filter fun part => !blank part

/-! ## Lines -/

/-- A character that ends a line of text. -/
def isLineEnd (c : Char) : Bool :=
  c ∈ ['\n', '\r', '\x0b', '\x0c', '\x1c', '\x1d', '\x1e', '\u0085', '\u2028', '\u2029']

/-- The lines of a text without their ends; a final line end begins no further line. -/
def lines : Text → List Text
  | [] => []
  | '\r' :: '\n' :: s => [] :: lines s
  | c :: s =>
    if isLineEnd c then [] :: lines s
    else match lines s with
      | [] => [[c]]
      | line :: more => (c :: line) :: more

/-- A space or a tab. -/
def isIndent (c : Char) : Bool := c == ' ' || c == '\t'

/-- The longest text with which both begin. -/
def commonStart : Text → Text → Text
  | c :: s, d :: t => if c = d then c :: commonStart s t else []
  | _, _ => []

/-- The spaces and tabs before the content of a line; `none` when the line has no content. -/
def indentOf? (line : Text) : Option Text :=
  if line.all isIndent then none else some (line.takeWhile isIndent)

/-- The longest indentation that all given ones begin with. -/
def sharedMargin : List Text → Text
  | [] => []
  | indent :: indents => indents.foldl commonStart indent

/-- Lines without content are emptied, and the margin that the others share is removed. -/
def dedent (s : Text) : Text :=
  let parts := (splitOn '\n' s).map fun line => if line.all isIndent then [] else line
  let margin := sharedMargin (parts.filterMap indentOf?)
  join ['\n'] (parts.map fun line => (after? margin line).getD line)

end Stencil.Text
