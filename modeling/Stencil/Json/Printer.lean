import Stencil.Json.Basic
import Stencil.Number.Shortest
import Stencil.Text.Quoted

/-!
# Writing JSON

A document is written on one line, or with every item and member on a line of its own behind an indentation.  Strings
escape quotes, backslashes and control characters; on request everything beyond ASCII too, characters of the upper
planes as two surrogate units.
-/

namespace Stencil.Json

/-- How a document is laid out. -/
structure Layout where
  /-- Everything beyond printable ASCII is escaped. -/
  ascii : Bool := false
  /-- The text of one step of indentation; without one the document has one line. -/
  step : Option Text := none
  deriving DecidableEq, Repr

/-- An escape of one 16-bit unit. -/
def unitEscape (n : Nat) : Text := '\\' :: 'u' :: Text.hex 4 n

/-- The escapes of a character's 16-bit units. -/
def unitsOf (c : Char) : Text :=
  let n := c.toNat
  if n < 0x10000 then unitEscape n
  else unitEscape (0xD800 + (n - 0x10000) / 0x400) ++ unitEscape (0xDC00 + (n - 0x10000) % 0x400)

/-- One character inside a string. -/
def stringChar (ascii : Bool) (c : Char) : Text :=
  if c = '"' then ['\\', '"']
  else if c = '\\' then ['\\', '\\']
  else if c = '\n' then ['\\', 'n']
  else if c = '\r' then ['\\', 'r']
  else if c = '\t' then ['\\', 't']
  else if c = '\x08' then ['\\', 'b']
  else if c = '\x0c' then ['\\', 'f']
  else if c.toNat < 32 ∨ (ascii ∧ 127 ≤ c.toNat) then unitsOf c
  else [c]

/-- A string with its quotes. -/
def string (ascii : Bool) (s : Text) : Text := '"' :: s.flatMap (stringChar ascii) ++ ['"']

/-- A fractional number. -/
def number (x : Float) : Text :=
  match Number.parts x with
  | .nan => "NaN"
  | .infinite negative => if negative then "-Infinity" else "Infinity"
  | .finite .. => Number.floatText x

/-- Items between brackets, given as they are written one level deeper. -/
def bracketed (layout : Layout) (level : Nat) (opener closer : Char) (items : List Text) : Text :=
  if items.isEmpty then [opener, closer]
  else match layout.step with
    | none => opener :: Text.join ", " items ++ [closer]
    | some step =>
      let margin (n : Nat) : Text := '\n' :: (List.replicate n step).flatten
      opener :: margin (level + 1) ++ Text.join (',' :: margin (level + 1)) items ++ margin level ++ [closer]

mutual

/-- A document inside a number of open brackets. -/
def printAt (layout : Layout) (level : Nat) : Json → Text
  | .null => "null"
  | .bool b => if b then "true" else "false"
  | .int n => Text.ofInt n
  | .float x => number x
  | .str s => string layout.ascii s
  | .arr items => bracketed layout level '[' ']' (printItems layout (level + 1) items)
  | .obj members => bracketed layout level '\x7b' '\x7d' (printMembers layout (level + 1) members)

/-- The items of an array. -/
def printItems (layout : Layout) (level : Nat) : List Json → List Text
  | [] => []
  | item :: items => printAt layout level item :: printItems layout level items

/-- The members of an object. -/
def printMembers (layout : Layout) (level : Nat) : List (Text × Json) → List Text
  | [] => []
  | (key, value) :: members =>
    (string layout.ascii key ++ ": " ++ printAt layout level value) :: printMembers layout level members

end

/-- The text of a document. -/
def print (layout : Layout) (j : Json) : Text := printAt layout 0 j

end Stencil.Json
