import Stencil.Value.Basic

/-!
# Scripts as trees

A script is a list of statements over expressions.  What is well-formed but cannot be run on a page (definitions,
comprehensions, formatted literals, …) is kept as far as its place in the script matters: `foreign` expressions with
their parts, and statements with their bodies.
-/

namespace Stencil.Script

/-- An operator with one operand. -/
inductive UnaryOp where
  | plus
  | minus
  | invert
  deriving DecidableEq, Repr

/-- An operator with two operands. -/
inductive BinaryOp where
  | add
  | sub
  | mul
  | div
  | floorDiv
  | mod
  | pow
  | matMul
  | shiftLeft
  | shiftRight
  | bitOr
  | bitXor
  | bitAnd
  deriving DecidableEq, Repr

/-- A comparison. -/
inductive CompareOp where
  | eq
  | ne
  | lt
  | le
  | gt
  | ge
  | isIn
  | isNotIn
  | same
  | different
  deriving DecidableEq, Repr

/-- An expression. -/
inductive Expr where
  | name (s : Text)
  | const (v : Value)
  | list (items : List Expr)
  | tuple (items : List Expr)
  | set (items : List Expr)
  /-- Entries of a mapping; one without a key stands for all entries of its value. -/
  | dict (entries : List (Option Expr × Expr))
  /-- All items of a value, inside a list or a call. -/
  | star (e : Expr)
  | unary (op : UnaryOp) (e : Expr)
  | binary (op : BinaryOp) (a b : Expr)
  | compare (first : Expr) (rest : List (CompareOp × Expr))
  | both (a b : Expr)
  | either (a b : Expr)
  | negate (e : Expr)
  | choice (test a b : Expr)
  | item (e index : Expr)
  | slice (start stop step : Option Expr)
  | attribute (e : Expr) (name : Text)
  /-- A call; a named argument without a name stands for all entries of its value. -/
  | call (f : Expr) (args : List Expr) (named : List (Option Text × Expr))
  /-- Binds a name to a value on the way. -/
  | bound (name : Text) (e : Expr)
  /-- Waits for or hands out a value, which only a definition may do. -/
  | suspended (parts : List Expr)
  /-- A constant that no page can hold: an imaginary number, or bytes or an ellipsis. -/
  | inert (imaginary : Bool)
  /-- Well-formed, but not to be run on a page. -/
  | foreign (parts : List Expr)
  deriving Repr, Inhabited

/-- A statement. -/
inductive Statement where
  | eval (e : Expr)
  | assign (targets : List Expr) (e : Expr)
  | augment (target : Expr) (op : BinaryOp) (e : Expr)
  /-- Declares a target, perhaps with a value. -/
  | declare (target note : Expr) (e : Option Expr)
  | branch (test : Expr) (body orelse : List (Nat × Statement))
  | whileLoop (test : Expr) (body orelse : List (Nat × Statement))
  | forLoop (target source : Expr) (body orelse : List (Nat × Statement))
  | pass
  | breakLoop
  | continueLoop
  /-- Ends a definition. -/
  | finish (e : Option Expr)
  /-- Declares names of an outer definition. -/
  | outer (names : List Text)
  /-- Any other simple statement, with its expressions. -/
  | simple (parts : List Expr)
  /-- A block that opens some levels of nesting around its body. -/
  | block (levels : Nat) (parts : List Expr) (body : List (Nat × Statement))
  /-- Several blocks that belong together, one after the other. -/
  | blocks (parts : List (Nat × Statement))
  /-- A definition, whose body is run elsewhere: of a function, or of a class, which does not `return`. -/
  | definition (returns : Bool) (parts : List Expr) (body : List (Nat × Statement))
  deriving Repr, Inhabited

/-- A statement and the line it begins on. -/
abbrev Located := Nat × Statement

end Stencil.Script
