import Stencil.Markup.Name
import Stencil.Markup.Piece
import Stencil.Text.Blank

/-!
# Regions

Three kinds of region are taken out before any other markup is read: verbatim text, program text, and comments, which
vanish.  A region without an end is no region.
-/

namespace Stencil.Markup

/-- What stands before and after the first whole word `@name` in a text. -/
def untilWord (name : Text) : Text → Option (Text × Text)
  | [] => none
  | c :: s =>
    match Text.after? ('@' :: name) (c :: s) with
    | some rest =>
      if Text.boundary name.getLast? rest.head? then some ([], rest)
      else (untilWord name s).map fun (body, rest) => (c :: body, rest)
    | none => (untilWord name s).map fun (body, rest) => (c :: body, rest)

/-- The body of the region `@name … @endname` at a place, and the text behind it. -/
def region? (opener closer : Text) (p : Place) : Option (Text × Text) :=
  match directiveAt? [opener] p.previous p.rest with
  | none => none
  | some (_, rest) => untilWord closer rest

/-- Verbatim regions print what stands in them. -/
def verbatim : Rule (List Node) := fun p =>
  (region? "verbatim" "endverbatim" p).map fun (body, rest) =>
    .accepted (p.rest.length - rest.length) (.ok [.verbatim p.line body])

/-- The program text of a region: stripped when it is one line, otherwise without its margin. -/
def programText (body : Text) : Text :=
  let stripped := Text.strip body
  if '\n' ∈ stripped then Text.dedent (Text.trim (· == '\n') body) else stripped

/-- Program regions become statements; blank ones vanish. -/
def program : Rule (List Node) := fun p =>
  (region? "python" "endpython" p).map fun (body, rest) =>
    let code := programText body
    .accepted (p.rest.length - rest.length) (.ok (if Text.blank code then [] else [.statement p.line code]))

/-- Comments vanish. -/
def comment : Rule (List Node) := fun p =>
  match Text.after? "\x7b\x7b--" p.rest with
  | none => none
  | some inside =>
    (Text.cut? "--\x7d\x7d" inside).map fun (_, rest) => .accepted (p.rest.length - rest.length) (.ok [])

/-- Takes verbatim regions, then program regions, out of a template. -/
def extractRegions (source : Text) : Except Error (List Node) := do
  rewrite program (← rewrite verbatim [.text 1 source])

end Stencil.Markup
