import Stencil.Text.Blank
import Stencil.Text.Case

/-!
# Styles

A style says how a text is to be shown: its attributes, its hue, the hue behind it and what it links to.  A style may be
written in many ways, and two that mean the same have one name.
-/

namespace Stencil.Command

/-- A style. -/
structure Style where
  /-- Attributes that are set or unset, the newest first. -/
  attributes : List (Text × Bool) := []
  hue : Option Text := none
  ground : Option Text := none
  link : Option Text := none
  deriving DecidableEq, Repr

namespace Style

/-! ## Words -/

/-- The attributes in their order, each with its short name. -/
def attributeNames : List (Text × Text) := [
  ("bold", "b"), ("dim", "d"), ("italic", "i"), ("underline", "u"), ("blink", []), ("blink2", []), ("reverse", "r"),
  ("conceal", "c"), ("strike", "s"), ("underline2", "uu"), ("frame", []), ("encircle", []), ("overline", "o")]

/-- The attribute that a word names. -/
def attribute? (word : Text) : Option Text :=
  (attributeNames.find? fun (name, short) => word = name ∨ (word = short ∧ !short.isEmpty)).map Prod.fst

/-- The names of hues; behind a colon stand the digits that may end a name, and a dash if it may end in none. -/
def hues : List String := [
  "aquamarine:13 black blue:-13 blue_violet bright_black bright_blue bright_cyan bright_green bright_magenta",
  "bright_red bright_white bright_yellow cadet_blue chartreuse:1234 cornflower_blue cornsilk:1 cyan:-123 dark_blue",
  "dark_cyan dark_goldenrod dark_green dark_khaki dark_magenta dark_olive_green:123 dark_orange:-3 dark_red",
  "dark_sea_green:-1234 dark_slate_gray:123 dark_turquoise dark_violet deep_pink:1234 deep_sky_blue:1234",
  "dodger_blue:123 gold:13 green:-134 green_yellow honeydew:2 hot_pink:-23 indian_red:-1 khaki:13 light_coral",
  "light_cyan:13 light_goldenrod:123 light_green light_pink:134 light_salmon:13 light_sea_green light_sky_blue:13",
  "light_slate_blue light_slate_gray light_slate_grey light_steel_blue:-13 light_yellow:3 magenta:-123",
  "medium_orchid:-13 medium_purple:-1234 medium_spring_green medium_turquoise medium_violet_red misty_rose:13",
  "navajo_white:13 navy_blue orange:134 orange_red:1 orchid:-12 pale_green:13 pale_turquoise:14 pale_violet_red:1",
  "pink:13 plum:1234 purple:-34 red:-13 rosy_brown royal_blue:1 salmon:1 sandy_brown sea_green:123 sky_blue:123",
  "slate_blue:13 spring_green:1234 steel_blue:-13 tan thistle:13 turquoise:24 violet wheat:14 white yellow:-1234"]

/-- The percentages of the greys. -/
def greys : List Nat := [
  0, 3, 7, 11, 15, 19, 23, 27, 30, 35, 37, 39, 42, 46, 50, 53, 54, 58, 62, 63, 66, 69, 70, 74, 78, 82, 84, 85, 89, 93, 100]

/-- A word is the name of a hue. -/
def isHueName (word : Text) : Bool :=
  (hues.flatMap (·.splitOn " ")).any (fun entry =>
    match Text.splitOn ':' entry.toList with
    | [name, ends] => ends.any fun c => word = (if c = '-' then name else name ++ [c])
    | _ => word = entry.toList) ||
  greys.any fun n => word = "grey" ++ Text.ofNat n ∨ word = "gray" ++ Text.ofNat n

/-- A part of a hue: a number up to 255. -/
def isPart (digits : Text) : Bool :=
  !digits.isEmpty && digits.all (fun c => (Text.digit? c).isSome) && Text.ofDigits 10 (digits.filterMap Text.digit?) ≤ 255

/-- What stands in the parentheses behind a name. -/
def enclosed? (name word : Text) : Option Text :=
  match (Text.after? (name ++ ['(']) word).map List.reverse with
  | some (')' :: inner) => some inner.reverse
  | _ => none

/-- A word in lower case tells a hue: by its name, its six hexadecimal digits, its number or its three parts. -/
def isHue (word : Text) : Bool :=
  word == "default" || isHueName word ||
  (match word with
    | '#' :: digits => digits.length == 6 && digits.all fun c => (Text.hexDigit? c).isSome
    | _ => false) ||
  ((enclosed? "color" word).any fun n => n.length ≤ 3 && isPart n) ||
  (enclosed? "rgb" word).any fun parts =>
    let parts := Text.splitOn ',' parts
    parts.length == 3 && parts.all isPart

/-! ## Reading and naming -/

/-- Reads the words of a style. -/
def readFrom (style : Style) : List Text → Option Style
  | [] => some style
  | [word] =>
    let word := Text.lower word
    match attribute? word with
    | some name => some { style with attributes := (name, true) :: style.attributes }
    | none => if isHue word then some { style with hue := some word } else none
  | word :: next :: more =>
    let word := Text.lower word
    if word = "on" then
      if isHue (Text.lower next) then readFrom { style with ground := some (Text.lower next) } more else none
    else if word = "not" then
      match attribute? next with
      | some name => readFrom { style with attributes := (name, false) :: style.attributes } more
      | none => none
    else if word = "link" then readFrom { style with link := some next } more
    else match attribute? word with
      | some name => readFrom { style with attributes := (name, true) :: style.attributes } (next :: more)
      | none => if isHue word then readFrom { style with hue := some word } (next :: more) else none

/-- The words of a style in their order. -/
def wordsOf (style : Style) : List Text :=
  let attributes : List Text := attributeNames.flatMap fun (name, _) =>
    match style.attributes.lookup name with
    | some true => [name]
    | some false => ["not", name]
    | none => []
  let ground : List Text := style.ground.elim [] fun hue => ["on", hue]
  let link : List Text := style.link.elim [] fun target => ["link", target]
  attributes ++ style.hue.toList ++ ground ++ link

/-- The one name of a style that is written somehow; what is no style is named by itself in lower case. -/
def nameOf (written : Text) : Text :=
  match readFrom {} (Text.words written) with
  | some style =>
    match style.wordsOf with
    | [] => "none"
    | words => Text.join [' '] words
  | none => Text.lower (Text.strip written)

end Style
end Stencil.Command
