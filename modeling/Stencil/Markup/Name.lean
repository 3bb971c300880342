import Stencil.Text.Word

/-!
# Directive names

`@name` is a directive when no other `@` stands right before it and the name ends where a word ends.  Of several names
that fit, the longest is taken.
-/

namespace Stencil.Markup

/-- Names in the order in which they are tried: longer ones first. -/
def byLength (names : List Text) : List Text := names.mergeSort fun m n => n.length ≤ m.length

/-- The first name with which a text begins and after which a word ends, and the text behind it. -/
def nameAt? (names : List Text) (s : Text) : Option (Text × Text) :=
  names.findSome? fun name =>
    match Text.after? name s with
    | none => none
    | some rest => if Text.boundary (name.getLast? <|> some '@') rest.head? then some (name, rest) else none

/-- The directive at the head of a text, given the character before it: its name and the text behind it.  The names
are tried in the given order. -/
def directiveAt? (names : List Text) (previous : Option Char) (s : Text) : Option (Text × Text) :=
  match s with
  | '@' :: rest => if previous = some '@' then none else nameAt? names rest
  | _ => none

/-- All directives of a text from an offset on, as start, length and name; `skip` characters belong to the last one. -/
def directivesFrom (names : List Text) (offset : Nat) : Nat → Option Char → Text → List (Nat × Nat × Text)
  | _, _, [] => []
  | skip + 1, _, c :: s => directivesFrom names (offset + 1) skip (some c) s
  | 0, previous, c :: s =>
    match directiveAt? names previous (c :: s) with
    | some (name, _) => (offset, name.length + 1, name) :: directivesFrom names (offset + 1) name.length (some c) s
    | none => directivesFrom names (offset + 1) 0 (some c) s

/-- All directives of a text with the given names, as start, length and name. -/
def directives (names : List Text) (s : Text) : List (Nat × Nat × Text) :=
  directivesFrom (if names.isEmpty then [[]] else byLength names) 0 0 none s

end Stencil.Markup
