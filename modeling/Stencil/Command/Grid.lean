import Stencil.Text.Blank
import Stencil.Text.Places

/-!
# Grids

A grid shows rows of texts in ruled columns.  Columns are as wide as their texts, and one blank stands on either side.
If that is wider than the screen, the widest columns give way, and their texts are broken between words; a word that is
still too long is cut and ends in an ellipsis.
-/

namespace Stencil.Command

/-- A column: its heading, and whether its texts go to the right. -/
structure Column where
  heading : Text
  right : Bool := false
  deriving DecidableEq, Repr

namespace Grid

/-! ## Breaking texts -/

/-- A line with blanks in the places of its tabs, which reach to every eighth place; `at_` places stand before it. -/
def untabbed (at_ : Nat) : List Text → Text
  | [] => []
  | [last] => last
  | part :: more =>
    let behind := at_ + Text.width (part ++ [' '])
    let fill := (8 - behind % 8) % 8
    part ++ List.replicate (fill + 1) ' ' ++ untabbed (behind + fill) more

/-- The words of a text with the blanks behind them, from the beginning of one on. -/
def wordsFrom (word : Text) : Text → List Text
  | [] => if word.isEmpty then [] else [word]
  | c :: s =>
    let ended := !Text.blank word && (word.getLast?.map Text.isBlank).getD false
    if ended && !Text.isBlank c then word :: wordsFrom [c] s else wordsFrom (word ++ [c]) s

/-- The words of a text with the blanks behind them; blanks at the head belong to the first. -/
def words (s : Text) : List Text := wordsFrom [] s

/-- Puts words into lines of a width; `line` is the line so far and takes `used` places. -/
def breakFrom (n : Nat) (line : Text) (used : Nat) : List Text → List Text
  | [] => [line]
  | word :: more =>
    let wanted := Text.width (Text.stripRight word)
    if used + wanted ≤ n then breakFrom n (line ++ word) (used + Text.width word) more
    else if line.isEmpty then breakFrom n word (Text.width word) more
    else line :: breakFrom n word (Text.width word) more

/-- The mark at the end of a text that was cut. -/
def ellipsis : Text := ['…']

/-- A line without the blanks at its end that reach over a number of characters. -/
def trimmed (n : Nat) (line : Text) : Text :=
  line.take (line.length - min (line.length - n) (line.length - (Text.stripRight line).length))

/-- A line cut to a width. -/
def fitted (n : Nat) (line : Text) : Text :=
  if Text.width line > n then Text.sized (n - 1) line ++ ellipsis else line

/-- A line filled with blanks up to a width. -/
def filled (right : Bool) (n : Nat) (s : Text) : Text :=
  let blanks := List.replicate (n - Text.width s) ' '
  if right then blanks ++ s else s ++ blanks

/-- A line filled on its side, and again behind it where a joiner at its end took a blank. -/
def settled (right : Bool) (n : Nat) (s : Text) : Text := filled false n (filled right n s)

/-- The lines of a text in a column of a width. -/
def cell (right : Bool) (n : Nat) (s : Text) : List Text :=
  (Text.splitOn '\n' s).flatMap fun line =>
    (breakFrom n [] 0 (words (untabbed 0 (Text.splitOn '\t' line)))).map fun part =>
      let part := trimmed n part
      settled right n (fitted n (if right then Text.stripRight part else part))

/-! ## Widths of columns -/

/-- A quotient rounded to the nearest whole number, a half to the even one. -/
def roundedQuotient (a b : Nat) : Nat :=
  let q := a / b
  let r := a % b
  if 2 * r < b then q else if b < 2 * r then q + 1 else if q % 2 = 0 then q else q + 1

/-- Takes `excess` places from the marked columns, as evenly as possible and at most `most` from each. -/
def reduce (most excess : Nat) : List (Nat × Bool) → List Nat
  | [] => []
  | (w, false) :: more => w :: reduce most excess more
  | (w, true) :: more =>
    let part := min most (roundedQuotient excess (1 + (more.filter Prod.snd).length))
    (w - part) :: reduce most (excess - part) more

/-- Makes the widest columns narrower until all fit into so many places, in at most `rounds` rounds. -/
def squeeze (limit : Nat) : Nat → List Nat → List Nat
  | 0, widths => widths
  | rounds + 1, widths =>
    let wanted := widths.foldl (· + ·) 0
    if wanted ≤ limit then widths
    else
      let widest := widths.foldl max 0
      let next := (widths.filter (· ≠ widest)).foldl max 0
      let excess := wanted - limit
      squeeze limit rounds (reduce (min excess (widest - next)) excess (widths.map fun w => (w, w == widest)))

/-- The width of the widest line of a text. -/
def widest (s : Text) : Nat := ((Text.lines s).map Text.width).foldl max 0

/-- The widths of columns on a screen, blanks included; rules take the other places. -/
def widths (screen : Nat) (columns : List Column) (rows : List (List Text)) : List Nat :=
  let limit := screen - (columns.length + 1)
  let wanted := columns.zipIdx.map fun (c, i) =>
    min limit (2 + (rows.map fun row => widest (row.getD i [])).foldl max (widest c.heading))
  squeeze limit (limit + columns.length) wanted

/-! ## Drawing -/

/-- A rule: its ends, what it is drawn with, and where it meets the columns. -/
def rule (first fill cross last : Char) (widths : List Nat) : Text :=
  [first] ++ Text.join [cross] (widths.map fun w => List.replicate w fill) ++ [last, '\n']

/-- The lines of a row between bars. -/
def row (bar : Char) (columns : List Column) (widths : List Nat) (texts : List Text) : Text :=
  let cells := (columns.zip widths).zipIdx.map fun ((c, w), i) => (w - 2, cell c.right (w - 2) (texts.getD i []))
  let height := (cells.map fun (_, lines) => lines.length).foldl max 0
  (List.range height).flatMap fun k =>
    [bar] ++ Text.join [bar] (cells.map fun (w, lines) => ' ' :: lines.getD k (List.replicate w ' ') ++ [' ']) ++
      [bar, '\n']

end Grid

/-- The text of a grid on a screen. -/
def grid (screen : Nat) (columns : List Column) (rows : List (List Text)) : Text :=
  let widths := Grid.widths screen columns rows
  Grid.rule '┏' '━' '┳' '┓' widths ++ Grid.row '┃' columns widths (columns.map Column.heading) ++
    Grid.rule '┡' '━' '╇' '┩' widths ++ rows.flatMap (Grid.row '│' columns widths) ++
    Grid.rule '└' '─' '┴' '┘' widths

end Stencil.Command
