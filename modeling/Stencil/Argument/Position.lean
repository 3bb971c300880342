import Stencil.Argument.Group
import Stencil.Error

/-!
# Groups at positions

A position in a text counts characters from its head or, if it is negative, from its end.  The group at a position of a
text and the position behind it.  A reader that starts at a position counted from the end goes on at the head where the
text ends; so the position behind a group may count from the head although the first one counts from the end.
-/

namespace Stencil.Text

/-- How many characters stand before a position; one outside of the text is moved to its nearer end. -/
def place (s : Text) (position : Int) : Nat :=
  let p := if position < 0 then position + s.length else position
  min p.toNat s.length

/-- The characters from one position to another. -/
def between (s : Text) (start stop : Int) : Text := (s.take (s.place stop)).drop (s.place start)

/-- The line of a position in a text that begins on a line. -/
def lineAt (line : Int) (s : Text) (position : Int) : Int := line + newlines (s.take (s.place position))

/-- What a reader sees that starts at a position and goes on to the end: behind the last character of a position that
counts from the end comes the first.  There is none before the text. -/
def viewFrom (s : Text) (position : Int) : Option Text :=
  if 0 ≤ position then some (s.drop position.toNat)
  else if position.natAbs ≤ s.length then some (s.drop (s.place position) ++ s)
  else none

end Stencil.Text

namespace Stencil.Argument

/-- What a reader sees from a position on. -/
def viewAt (s : Text) (position : Int) : Except Stencil.Fault Text :=
  (s.viewFrom position).elim (.error (.indexRange "string")) .ok

/-- The group at the head of a view of a text, and the position behind it. -/
def groupIn (s view : Text) : Except Stencil.Fault (Text × Int) :=
  match group? view with
  | .error f => .error (.raised "ScanError" f.message)
  | .ok (_, rest) =>
    let opened : Int := s.length - view.length
    let behind : Int := s.length - rest.length
    .ok (s.between (opened + 1) (behind - 1), behind)

/-- The inside of the group at a position, and the position behind it. -/
def groupAt (s : Text) (position : Int) : Except Stencil.Fault (Text × Int) := do
  groupIn s (← viewAt s position)

/-- The optional group behind a directive's name that ends at a position, and the position behind it; without a group
it is the one given. -/
def afterAt (use : Use) (s : Text) (position : Int) : Except Stencil.Fault (Option Text × Int) := do
  if use = .bare then return (none, position)
  match (← viewAt s position).dropWhile isGap with
  | '(' :: view =>
    let (inner, behind) ← groupIn s ('(' :: view)
    return (some inner, behind)
  | _ => return (none, position)

end Stencil.Argument
