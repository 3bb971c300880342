import Stencil.Text.Blank
import Stencil.Text.Case
import Stencil.Text.Picture.People
import Stencil.Text.Picture.Things

/-!
# Pictures by name

A name between two colons stands for a picture; `-text` or `-emoji` behind it asks for the plain or the coloured form of
the picture.  A name that no picture has stands for itself.
-/

namespace Stencil.Text

namespace Picture

/-- The endings of names of tones, and the tones. -/
def tones : List (Text × Char) := [
  ("_light_skin_tone", Char.ofNat 0x1F3FB), ("_medium-light_skin_tone", Char.ofNat 0x1F3FC),
  ("_medium_skin_tone", Char.ofNat 0x1F3FD), ("_medium-dark_skin_tone", Char.ofNat 0x1F3FE),
  ("_dark_skin_tone", Char.ofNat 0x1F3FF)]

/-- The picture that has a name in a list. -/
def find? (rows : List String) (name : Text) : Option Text :=
  (rows.flatMap (·.splitOn ";")).findSome? fun entry =>
    match splitOn ' ' entry.toList with
    | [] => none
    | picture :: names => if name ∈ names then some picture else none

/-- What stands before an ending. -/
def before? (ending s : Text) : Option Text := (after? ending.reverse s.reverse).map List.reverse

/-- A picture of skin in a tone, which takes the place of a mark. -/
def inTone (tone : Char) : Text → Text
  | [] => []
  | c :: s => c :: tone :: s.dropWhile (· = '\ufe0f')

/-- The picture of skin in a tone that has a name. -/
def toned? (name : Text) : Option Text :=
  tones.findSome? fun (ending, tone) => (before? ending name >>= find? skin).map (inTone tone)

/-- The flag of a land, given by its letters. -/
def flag (letters : Text) : Text := letters.map fun c => Char.ofNat (0x1F1E6 + (c.toNat - 'A'.toNat))

/-- The flag that has a name. -/
def flag? (name : Text) : Option Text := (find? lands ((after? "flag_for_" name).getD name)).map flag

/-- The picture that has a name in lower case. -/
def named? (name : Text) : Option Text := find? things name <|> find? skin name <|> toned? name <|> flag? name

/-- Endings that ask for a form of a picture, and the marks of the forms. -/
def forms : List (Text × Text) := [("-emoji", ['\ufe0f']), ("-text", ['\ufe0e'])]

/-- The picture for a name between colons, which may ask for a form. -/
def ofName? (name : Text) : Option Text :=
  match forms.findSome? fun (ending, mark) => (before? ending name).map fun stem => (stem, mark) with
  | some (stem, mark) => (named? (lower stem)).map (· ++ mark)
  | none => named? (lower name)

/-- A text with pictures in the places of their names; `open_` is what follows a colon that may begin a name. -/
def shownFrom (open_ : Option Text) : Text → Text
  | [] => (open_.map (':' :: ·)).getD []
  | c :: s =>
    match open_ with
    | none => if c = ':' then shownFrom (some []) s else c :: shownFrom none s
    | some name =>
      if c = ':' then (ofName? name).getD (':' :: name ++ [':']) ++ shownFrom none s
      else if isBlank c then ':' :: name ++ c :: shownFrom none s
      else shownFrom (some (name ++ [c])) s

end Picture

/-- A text with pictures in the places of their names. -/
def pictured (s : Text) : Text := Picture.shownFrom none s

end Stencil.Text
