import Stencil.Text.Printable

/-!
# Quoted texts

The quoted form of a text stands for it inside a program and inside messages.  It uses single quotes unless the text
holds a single quote and no double quote.  The backslash, the chosen quote, tab and line breaks are escaped by a letter,
other characters that are not printable by their number in two, four or eight hexadecimal digits.
-/

namespace Stencil.Text

/-- A number in hexadecimal, filled with zeros to a width. -/
def hex (width n : Nat) : Text := padLeft width '0' (Nat.toDigits 16 n)

/-- The number escape of a character in the shortest width that holds it. -/
def numberEscape (c : Char) : Text :=
  if c.toNat ≤ 0xFF then '\\' :: 'x' :: hex 2 c.toNat
  else if c.toNat ≤ 0xFFFF then '\\' :: 'u' :: hex 4 c.toNat
  else '\\' :: 'U' :: hex 8 c.toNat

/-- One character as it stands between the quotes. -/
def escapeChar (quote c : Char) : Text :=
  if c = quote ∨ c = '\\' then ['\\', c]
  else if c = '\t' then ['\\', 't']
  else if c = '\n' then ['\\', 'n']
  else if c = '\r' then ['\\', 'r']
  else if isPrintable c then [c]
  else numberEscape c

/-- The quote that the quoted form of a text uses. -/
def quoteFor (s : Text) : Char := if '\'' ∈ s ∧ '"' ∉ s then '"' else '\''

/-- The quoted form of a text. -/
def quoted (s : Text) : Text := quoteFor s :: s.flatMap (escapeChar (quoteFor s)) ++ [quoteFor s]

end Stencil.Text
