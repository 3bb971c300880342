import Stencil.Script.Token
import Stencil.Script.Tree
import Stencil.Text.Normal

/-!
# Reading phrases of a script

A `Phrase` reads something from the head of a list of tokens and leaves the rest, or it fails and returns the tokens
from the one that does not fit; an empty list says that the tokens ended first.  Beside the readers of single tokens
this module says which expressions something can be assigned to.
-/

namespace Stencil.Script

/-- Reads something from a list of tokens. -/
abbrev Phrase := StateT (List Token) (Except (List Token))

namespace Phrase

variable {α : Type}

/-- Does not fit the next token. -/
def fail : Phrase α := fun ts => .error ts

/-- What the next token is. -/
def peek? : Phrase (Option Lexeme) := do return (← get).head?.map Token.lexeme

/-- The line of the next token. -/
def line : Phrase Nat := do return ((← get).head?.map Token.line).getD 0

/-- Skips a token. -/
def skip : Phrase Unit := modify List.tail

/-- The next token is an operator. -/
def atOp (s : Text) : Phrase Bool := do
  match ← peek? with
  | some (.op t) => return t == s
  | _ => return false

/-- The next token is a word. -/
def atWord (s : Text) : Phrase Bool := do
  match ← peek? with
  | some (.name t) => return t == s
  | _ => return false

/-- The token behind the next one is an operator. -/
def secondOp (s : Text) : Phrase Bool := do
  match ← get with
  | _ :: ⟨.op t, _⟩ :: _ => return t == s
  | _ => return false

/-- Skips an operator if it comes next. -/
def takeOp (s : Text) : Phrase Bool := do
  if ← atOp s then
    skip
    return true
  return false

/-- Skips a word if it comes next. -/
def takeWord (s : Text) : Phrase Bool := do
  if ← atWord s then
    skip
    return true
  return false

/-- An operator. -/
def op (s : Text) : Phrase Unit := do
  if !(← takeOp s) then fail

/-- A word. -/
def word (s : Text) : Phrase Unit := do
  if !(← takeWord s) then fail

/-- The end of a line. -/
def newline : Phrase Unit := do
  match ← peek? with
  | some .newline => skip
  | _ => fail

/-- A step of indentation. -/
def indent : Phrase Unit := do
  match ← peek? with
  | some .indent => skip
  | _ => fail

/-- The end of a step of indentation. -/
def dedent : Phrase Unit := do
  match ← peek? with
  | some .dedent => skip
  | _ => fail

end Phrase

/-- The words that operators and values are made of. -/
def expressionWords : List Text := [
  "False", "None", "True", "and", "as", "async", "await", "else", "for", "from", "if", "in", "is", "lambda", "not",
  "or", "yield"]

/-- The words that begin statements and their parts. -/
def statementWords : List Text := [
  "assert", "break", "class", "continue", "def", "del", "elif", "except", "finally", "global", "import", "nonlocal",
  "pass", "raise", "return", "try", "while", "with"]

/-- The words that are no names. -/
def keywords : List Text := expressionWords ++ statementWords

/-- A word that is a name. -/
def isFree (s : Text) : Bool := !keywords.contains s

namespace Phrase

/-- The next token is a name. -/
def atName : Phrase Bool := do
  match ← peek? with
  | some (.name s) => return isFree s
  | _ => return false

/-- A name, in its normal form. -/
def name : Phrase Text := do
  match ← peek? with
  | some (.name s) => if isFree s then skip; return Text.normalName s else fail
  | _ => fail

end Phrase

mutual

/-- Something can be assigned to an expression, inside a list of targets or alone. -/
def isTarget (inside : Bool) : Expr → Bool
  | .name _ | .attribute _ _ | .item _ _ => true
  | .tuple items | .list items => areTargets items
  | .star e => inside && !e.isStar && isTarget false e
  | _ => false

/-- Something can be assigned to all of several expressions. -/
def areTargets : List Expr → Bool
  | [] => true
  | e :: es => isTarget true e && areTargets es

/-- An expression stands for all items of a value. -/
def Expr.isStar : Expr → Bool
  | .star _ => true
  | _ => false

end

/-- An expression is a single place that can be changed. -/
def isPlace : Expr → Bool
  | .name _ | .attribute _ _ | .item _ _ => true
  | _ => false

mutual

/-- An expression is a place, or a list of places, that can be removed. -/
def isRemovable : Expr → Bool
  | .name _ | .attribute _ _ | .item _ _ => true
  | .tuple items | .list items => areRemovable items
  | _ => false

/-- Several expressions are removable. -/
def areRemovable : List Expr → Bool
  | [] => true
  | e :: es => isRemovable e && areRemovable es

end

/-- One expression, or several with commas as a tuple. -/
def tupleOf (first : Expr) (more : List Expr) (comma : Bool) : Expr :=
  if comma then .tuple (first :: more) else first

/-- The operators of each level of binding, loosest first. -/
def binaryLevels : List (List (Text × BinaryOp)) := [
  [("|", .bitOr)],
  [("^", .bitXor)],
  [("&", .bitAnd)],
  [("<<", .shiftLeft), (">>", .shiftRight)],
  [("+", .add), ("-", .sub)],
  [("*", .mul), ("/", .div), ("//", .floorDiv), ("%", .mod), ("@", .matMul)]]

/-- The operators that change a place. -/
def augmenting : List (Text × BinaryOp) := [
  ("+=", .add), ("-=", .sub), ("*=", .mul), ("/=", .div), ("//=", .floorDiv), ("%=", .mod), ("@=", .matMul),
  ("&=", .bitAnd), ("|=", .bitOr), ("^=", .bitXor), ("<<=", .shiftLeft), (">>=", .shiftRight), ("**=", .pow)]

/-- The comparisons written as operators. -/
def comparing : List (Text × CompareOp) := [
  ("==", .eq), ("!=", .ne), ("<", .lt), ("<=", .le), (">", .gt), (">=", .ge)]

namespace Phrase

/-- An operator of a table, if one comes next. -/
def oneOf? {α : Type} (table : List (Text × α)) : Phrase (Option α) := do
  match ← peek? with
  | some (.op s) =>
    match table.lookup s with
    | some a =>
      skip
      return some a
    | none => return none
  | _ => return none

/-- A comparison, if one comes next. -/
def comparison? : Phrase (Option CompareOp) := do
  match ← get with
  | ⟨.name s, _⟩ :: rest =>
    if s = "in" then
      set rest
      return some .isIn
    else if s = "not" then
      match rest with
      | ⟨.name t, _⟩ :: rest =>
        if t = "in" then
          set rest
          return some .isNotIn
        else return none
      | _ => return none
    else if s = "is" then
      set rest
      return some (if ← takeWord "not" then .different else .same)
    else return none
  | _ => oneOf? comparing

/-- What adjacent literals have been so far. -/
inductive Joined where
  | text (s : Text)
  | bytes
  | formatted

/-- The expression for adjacent literals. -/
def Joined.expr : Joined → Expr
  | .text s => .const (.str s)
  | .bytes => .inert false
  | .formatted => .foreign []

/-- One more literal, if it may stand beside the others. -/
def Joined.add? : Joined → Lexeme → Option Joined
  | .text t, .str s => some (.text (t ++ s))
  | .text _, .formatted | .formatted, .str _ | .formatted, .formatted => some .formatted
  | .bytes, .bytes => some .bytes
  | _, _ => none

/-- Adjacent literals behind those already read. -/
def literals : Nat → Joined → Phrase Expr
  | 0, _ => fail
  | n + 1, so => do
    match ← peek? with
    | none => return so.expr
    | some lexeme =>
      if lexeme.isLiteral then
        match so.add? lexeme with
        | none => fail
        | some more =>
          skip
          literals n more
      else return so.expr

end Phrase
end Stencil.Script
