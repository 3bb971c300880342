import Stencil.Text.Basic

/-!
# Nodes

A template is read as a list of nodes.  `text` is still open to markup; every other node is final: it says what the
program will do there and no pass looks inside it again.  Each node knows the template line it starts on.
-/

namespace Stencil

/-- One stretch of a template. -/
inductive Node where
  /-- Literal text in which markup is still looked for. -/
  | text (line : Int) (text : Text)
  /-- Text that is printed as it stands. -/
  | verbatim (line : Int) (text : Text)
  /-- Prints the value of an expression, escaped or raw. -/
  | echo (line : Int) (expr : Text) (escape : Bool)
  /-- Program text at the current indentation. -/
  | statement (line : Int) (code : Text)
  /-- A remark in the program. -/
  | comment (line : Int) (text : Text)
  /-- Opens an indented block. -/
  | openBlock (line : Int) (kind header directive : Text) (prologue : List Text)
  /-- Goes on with the innermost block, which must be of one of the kinds. -/
  | middle (line : Int) (kinds : List Text) (header directive : Text)
  /-- Closes the innermost block, which must be of the kind. -/
  | closeBlock (line : Int) (kind directive : Text) (epilogue : List Text)
  /-- A captured section: an expression for its name, the name shown in errors, and the nodes inside. -/
  | captured (line : Int) (name label : Text) (body : List Node)
  /-- A place without meaning, from which no program can be made. -/
  | empty (line : Int)
  deriving Repr, Inhabited

/-- The template line on which a node starts. -/
def Node.line : Node → Int
  | .text line _ | .verbatim line _ | .echo line _ _ | .statement line _ | .comment line _
  | .openBlock line _ _ _ _ | .middle line _ _ _ | .closeBlock line _ _ _ | .captured line _ _ _ | .empty line => line

end Stencil
