import Stencil.Argument.Group
import Stencil.Text.Blank

/-!
# Splitting arguments

A separator counts only outside literals and brackets.  A literal that is never closed swallows the rest of the text,
brackets are counted without regard to their kind, and a doubled `|` separates nothing.
-/

namespace Stencil.Argument

/-- Inside a literal with a given quote: the literal is closed somewhere ahead. -/
def closes (quote : Char) : Text → Bool
  | [] => false
  | '\\' :: [] => false
  | '\\' :: _ :: s => closes quote s
  | c :: s => c == quote || closes quote s

/-- Puts a character before the first part. -/
def glue (c : Char) : List Text → List Text
  | [] => [[c]]
  | part :: parts => (c :: part) :: parts

/-- Splits from inside a given number of open brackets. -/
def splitFrom (separator : Char) : Mode → Nat → Text → List Text
  | _, _, [] => [[]]
  | .escaped q, depth, c :: s => glue c (splitFrom separator (.inside q) depth s)
  | .inside q, depth, c :: s => glue c (splitFrom separator (Mode.next q c) depth s)
  | .outside, depth, c :: s =>
    if isQuote c then
      if closes c s then glue c (splitFrom separator (.inside c) depth s) else [c :: s]
    else if (closerOf? c).isSome then glue c (splitFrom separator .outside (depth + 1) s)
    else if isCloser c then glue c (splitFrom separator .outside (depth - 1) s)
    else if c = separator ∧ depth = 0 then
      match s with
      | d :: s' =>
        if c = '|' ∧ d = '|' then glue c (glue d (splitFrom separator .outside 0 s'))
        else [] :: splitFrom separator .outside 0 (d :: s')
      | [] => [[], []]
    else glue c (splitFrom separator .outside depth s)

/-- The parts of a text between separators outside literals and brackets. -/
def split (separator : Char) (s : Text) : List Text := splitFrom separator .outside 0 s

/-- The arguments of a group: the parts between commas, stripped; a blank group has none. -/
def arguments : Option Text → List Text
  | none => []
  | some s => if Text.blank s then [] else (split ',' s).map Text.strip

end Stencil.Argument
