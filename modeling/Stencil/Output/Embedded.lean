import Stencil.Value.Access
import Stencil.Value.Serial

/-!
# JSON inside a page

JSON text that may stand inside a script element: the characters that markup is made of are written as escapes.
-/

namespace Stencil.Output

/-- One character of JSON text inside a page. -/
def embeddedChar (c : Char) : Text :=
  if c = '<' then "\\u003c" else if c = '>' then "\\u003e" else if c = '&' then "\\u0026" else [c]

/-- JSON text inside a page. -/
def embed (s : Text) : Text := s.flatMap embeddedChar

/-- The most blanks of one step of indentation. -/
def stepLimit : Nat := Nat.pow 2 32

/-- A step of indentation of so many blanks. -/
def blanks (n : Int) : Except Fault Json.Layout :=
  if !Value.isIndex n then .error (.overflow "cannot fit 'int' into an index-sized integer")
  else if n > stepLimit then .error (.raised "MemoryError" [])
  else .ok { step := some (List.replicate n.toNat ' ') }

/-- The layout that an indentation asks for: a count of blanks, or a text; `none` if it is neither. -/
def layout? (indent : Value) : Except Fault (Option Json.Layout) :=
  match indent, Value.position? indent with
  | .null, _ => .ok (some {})
  | .str s, _ | .markup s, _ => .ok (some { step := some s })
  | _, some n => (blanks n).map some
  | _, none => .ok none

/-- The JSON text of a value; what has none is written as nothing.  The indentation of a bare string is not looked
at. -/
def serial (value indent : Value) : Except Fault Text := do
  match value with
  | .str s | .markup s => return Json.print {} (.str s)
  | value =>
    match ← layout? indent, value.toJson? with
    | some layout, some j => return Json.print layout j
    | _, _ => return "null"

/-- The JSON text of a value inside a page. -/
def json (value indent : Value) : Except Fault Text := (serial value indent).map embed

end Stencil.Output
