import Stencil.Text.Basic
import Stencil.Text.Quoted

/-!
# Texts inside pages and addresses

In HTML the five characters that could open markup or end an attribute are written as references.

A value inside a query string: letters, digits and `_.-~` stand for themselves, a space becomes a plus sign, and every
byte of any other character's UTF-8 form is written as a percent sign and two upper case hexadecimal digits.
-/

namespace Stencil.Text

/-- One character, safe in the text of an element and in an attribute. -/
def htmlChar : Char → Text
  | '&' => "&amp;"
  | '<' => "&lt;"
  | '>' => "&gt;"
  | '\'' => "&#39;"
  | '"' => "&#34;"
  | c => [c]

/-- A text, safe in the text of an element and in an attribute. -/
def html (s : Text) : Text := s.flatMap htmlChar

/-! ## Query strings -/

/-- The bytes of a character in UTF-8. -/
def utf8 (c : Char) : List Nat :=
  let n := c.toNat
  if n < 0x80 then [n]
  else if n < 0x800 then [0xC0 + n / 0x40, 0x80 + n % 0x40]
  else if n < 0x10000 then [0xE0 + n / 0x1000, 0x80 + n / 0x40 % 0x40, 0x80 + n % 0x40]
  else [0xF0 + n / 0x40000, 0x80 + n / 0x1000 % 0x40, 0x80 + n / 0x40 % 0x40, 0x80 + n % 0x40]

/-- A character that a query shows as it is. -/
def isUnreserved (c : Char) : Bool :=
  ('a' ≤ c && c ≤ 'z') || ('A' ≤ c && c ≤ 'Z') || ('0' ≤ c && c ≤ '9') || c ∈ ['_', '.', '-', '~']

/-- The form of a text inside a query string. -/
def query (s : Text) : Text :=
  s.flatMap fun c =>
    if isUnreserved c then [c]
    else if c = ' ' then ['+']
    else (utf8 c).flatMap fun byte => '%' :: (hex 2 byte).map Char.toUpper

/-- The number of bytes of a text in UTF-8. -/
def utf8Size (s : Text) : Nat := (s.map fun c => (utf8 c).length).foldl (· + ·) 0

end Stencil.Text
