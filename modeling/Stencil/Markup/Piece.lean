import Stencil.Node
import Stencil.Registry

/-!
# Pieces

A *rule* looks at one place of a text and says whether markup starts there.  Reading a text with a rule cuts it into
*pieces*: plain text, markup that the rule declined and that stays text, and markup that became something.  The pieces
lie side by side and cover the text up to the first markup that fails; there reading stops.

`rewrite` replaces every text node by its pieces, inside sections too, and leaves all other nodes alone.
-/

namespace Stencil.Markup

/-- A place in a text: the character before it, its line, and the text from there on. -/
structure Place where
  previous : Option Char
  line : Int
  rest : Text

/-- What a rule makes of markup of a given length. -/
inductive Verdict (α : Type) where
  | declined (length : Nat)
  | accepted (length : Nat) (found : Except Error α)

/-- Says what markup starts at a place, if any. -/
abbrev Rule (α : Type) := Place → Option (Verdict α)

/-- A stretch of a text as a rule reads it. -/
inductive Piece (α : Type) where
  | plain (line : Int) (text : Text)
  | declined (line : Int) (text : Text)
  | markup (line : Int) (span : Text) (found : Except Error α)

/-- The line behind a character. -/
def lineAfter (c : Char) (line : Int) : Int := if c = '\n' then line + 1 else line

/-- Puts a plain character before pieces. -/
def glue {α : Type} (line : Int) (c : Char) : List (Piece α) → List (Piece α)
  | .plain _ t :: ps => .plain line (c :: t) :: ps
  | ps => .plain line [c] :: ps

/-- The pieces of a text behind a given character, of which `skip` characters belong to markup already seen. -/
def piecesFrom {α : Type} (rule : Rule α) : Nat → Option Char → Int → Text → List (Piece α)
  | _, _, _, [] => []
  | skip + 1, _, line, c :: s => piecesFrom rule skip (some c) (lineAfter c line) s
  | 0, previous, line, c :: s =>
    match rule ⟨previous, line, c :: s⟩ with
    | none => glue line c (piecesFrom rule 0 (some c) (lineAfter c line) s)
    | some (.declined n) =>
      .declined line ((c :: s).take n) :: piecesFrom rule (n - 1) (some c) (lineAfter c line) s
    | some (.accepted n (.ok a)) =>
      .markup line ((c :: s).take n) (.ok a) :: piecesFrom rule (n - 1) (some c) (lineAfter c line) s
    | some (.accepted n (.error e)) => [.markup line ((c :: s).take n) (.error e)]

/-- The pieces of a text that starts on a line. -/
def pieces {α : Type} (rule : Rule α) (line : Int) (s : Text) : List (Piece α) := piecesFrom rule 0 none line s

/-- Text before pieces, joined with the plain text they begin with. -/
def joinPlain {α : Type} (line : Int) (t : Text) : List (Piece α) → List (Piece α)
  | .plain _ u :: ps => .plain line (t ++ u) :: ps
  | ps => .plain line t :: ps

/-- Declined markup becomes part of the plain text around it. -/
def absorbDeclined {α : Type} : List (Piece α) → List (Piece α)
  | [] => []
  | .plain line t :: ps | .declined line t :: ps => joinPlain line t (absorbDeclined ps)
  | p :: ps => p :: absorbDeclined ps

/-- The nodes of pieces, or the first failure. -/
def nodesOf : List (Piece (List Node)) → Except Error (List Node)
  | [] => .ok []
  | .plain line t :: ps | .declined line t :: ps => do return .text line t :: (← nodesOf ps)
  | .markup _ _ found :: ps => do return (← found) ++ (← nodesOf ps)

mutual

/-- What a node becomes under a rule. -/
def rewriteNode (rule : Rule (List Node)) : Node → Except Error (List Node)
  | .text line s => nodesOf (absorbDeclined (pieces rule line s))
  | .captured line name label body => do return [.captured line name label (← rewrite rule body)]
  | node => .ok [node]

/-- Applies a rule to every text node, sections included. -/
def rewrite (rule : Rule (List Node)) : List Node → Except Error (List Node)
  | [] => .ok []
  | node :: nodes => do return (← rewriteNode rule node) ++ (← rewrite rule nodes)

end

/-- What a rule finds in pieces. -/
def foundIn {α : Type} : List (Piece α) → List (Except Error α)
  | [] => []
  | .markup _ _ found :: ps => found :: foundIn ps
  | _ :: ps => foundIn ps

mutual

/-- What a rule finds in a node. -/
def findingsNode {α : Type} (rule : Rule α) : Node → List (Except Error α)
  | .text line s => foundIn (pieces rule line s)
  | .captured _ _ _ body => findings rule body
  | _ => []

/-- What a rule finds in nodes, in document order. -/
def findings {α : Type} (rule : Rule α) : List Node → List (Except Error α)
  | [] => []
  | node :: nodes => findingsNode rule node ++ findings rule nodes

end

/-- The findings before the first failure. -/
def untilFailure {α : Type} : List (Except Error α) → List α
  | .ok a :: rest => a :: untilFailure rest
  | _ => []

/-- Markup of a rule, all of it read. -/
def Rule.map {α β : Type} (f : α → β) (rule : Rule α) : Rule β := fun p =>
  match rule p with
  | none => none
  | some (.declined n) => some (.declined n)
  | some (.accepted n found) => some (.accepted n (found.map f))

/-- The excerpt that an error at a place shows. -/
def Place.excerpt (p : Place) : Text := p.rest.take excerptLength

/-- Markup from a place up to the text behind it, with a failure located in a template and a directive. -/
def Place.accept {α : Type} (template directive : Text) (p : Place) (after : Text) (found : Except Raised α) :
    Verdict α :=
  .accepted (p.rest.length - after.length) (found.mapError (Raised.locate template p.line p.excerpt directive))

end Stencil.Markup
