import Stencil.Argument.Constant
import Stencil.Command.Style
import Stencil.Text.Blank
import Stencil.Text.Picture
import Stencil.Text.Word

/-!
# Tagged texts

A text may hold *tags*: a style in brackets begins to hold for what follows, and a slash with the style, or alone, ends
it.  A bracket behind an odd number of backslashes is only a bracket.  `shown?` gives what is seen of a text on a screen
without styles: tags are left out, and names of pictures become pictures.  An end of what was never begun cannot be
shown.
-/

namespace Stencil.Command

namespace Tagged

/-! ## Parts -/

/-- A part of a text: plain characters, or what stands in a tag. -/
inductive Part where
  | plain (s : Text)
  | tag (inside : Text)
  deriving DecidableEq, Repr

/-- A character with which the inside of a tag may begin. -/
def beginsTag (c : Char) : Bool := ('a' ≤ c && c ≤ 'z') || c == '#' || c == '/' || c == '@'

/-- The inside of the tag whose opening bracket stands before a text. -/
def inside? (s : Text) : Option Text :=
  let inside := s.takeWhile fun c => c ≠ ']' && c ≠ '['
  if inside.head?.any beginsTag && (s.drop inside.length).head? = some ']' then some inside else none

/-- Plain characters as a part, unless there are none. -/
def plainPart (s : Text) : List Part := if s.isEmpty then [] else [.plain s]

/-- The parts of a text behind plain characters and some backslashes; `skip` characters still belong to the last tag. -/
def partsFrom (skip : Nat) (plain : Text) (slashes : Nat) : Text → List Part
  | [] => plainPart (plain ++ List.replicate slashes '\\')
  | c :: s =>
    match skip with
    | skip + 1 => partsFrom skip plain slashes s
    | 0 =>
      match (if c = '[' then inside? s else none) with
      | some inside =>
        plainPart plain ++ plainPart (List.replicate (slashes / 2) '\\') ++
          (if slashes % 2 = 1 then .plain ('[' :: inside ++ [']']) else .tag inside) ::
          partsFrom (inside.length + 1) [] 0 s
      | none =>
        if c = '\\' then partsFrom 0 plain (slashes + 1) s
        else partsFrom 0 (plain ++ List.replicate slashes '\\' ++ [c]) 0 s

/-- The parts of a text. -/
def parts (s : Text) : List Part := partsFrom 0 [] 0 s

/-! ## Actions -/

/-- A text spells a value out. -/
def isSpelled (s : Text) : Bool := (Argument.expressions? (s.dropWhile Text.isIndent)).any fun es =>
  (Argument.constants es).isOk

/-- What an action is given can be read: a handler with arguments in parentheses, or a value. -/
def isAction (s : Text) : Bool :=
  let s := Text.strip s
  match s.dropWhile fun c => Text.isWord c || c == '.' with
  | [] => true
  | '(' :: rest => isSpelled (if rest.getLast? = some ')' then '(' :: rest else s)
  | _ => isSpelled s

/-! ## Tags -/

/-- A style that holds: its name, and what it is given behind an equals sign. -/
structure Open where
  name : Text
  given : Text := []
  deriving DecidableEq, Repr

/-- The name in a tag and what is given behind an equals sign. -/
def split (inside : Text) : Open :=
  let name := inside.takeWhile (· ≠ '=')
  ⟨name, inside.drop (name.length + 1)⟩

/-- The newest style of a name, and the others. -/
def close? (name : Text) : List Open → Option (Open × List Open)
  | [] => none
  | o :: rest =>
    if o.name = name then some (o, rest) else (close? name rest).map fun (found, rest) => (found, o :: rest)

/-- Goes through a tag with the styles that hold, the newest first. -/
def step? (held : List Open) (inside : Text) : Option (List Open) :=
  let tag := split inside
  match tag.name with
  | '/' :: name =>
    let name := Text.strip name
    match close? (if name.isEmpty then (held.head?.map Open.name).getD [] else Style.nameOf name) held with
    | none => none
    | some (found, rest) =>
      if found.name.head? = some '@' && !found.given.isEmpty && !isAction found.given then none else some rest
  | name => some (⟨Style.nameOf name, tag.given⟩ :: held)

/-- What is seen of parts behind styles that hold. -/
def seen? (held : List Open) : List Part → Option Text
  | [] => some []
  | .plain s :: more => (seen? held more).map (Text.pictured (Text.replace "\\[" "[" s) ++ ·)
  | .tag inside :: more => step? held inside >>= fun held => seen? held more

/-- A character that is never shown: it rings, or moves on the screen. -/
def isMotion (c : Char) : Bool := c ∈ ['\x07', '\x08', '\x0b', '\x0c', '\r']

end Tagged

/-- What is seen of a text; nothing if it ends a style that was never begun. -/
def shown? (s : Text) : Option Text := (Tagged.seen? [] (Tagged.parts s)).map (·.filter fun c => !Tagged.isMotion c)

end Stencil.Command
