import Stencil.Script.Block

/-!
# Checking a script

A script is *well-formed* if its tokens follow the grammar and every statement stands where it may: loops are left and
gone on with only inside loops, definitions are ended only inside definitions, and blocks are nested at most twenty
deep.  Otherwise the check tells the line of the first mistake.
-/

namespace Stencil.Script

mutual

/-- Part of an expression waits for or hands out a value. -/
def Expr.suspends : Expr → Bool
  | .suspended _ => true
  | .name _ | .const _ | .inert _ => false
  | .list es | .tuple es | .set es | .foreign es => anySuspends es
  | .dict entries => anyEntrySuspends entries
  | .star e | .unary _ e | .negate e | .attribute e _ | .bound _ e => e.suspends
  | .binary _ a b | .both a b | .either a b | .item a b => a.suspends || b.suspends
  | .compare a rest => a.suspends || anyComparisonSuspends rest
  | .choice t a b => t.suspends || a.suspends || b.suspends
  | .slice a b c => someSuspends a || someSuspends b || someSuspends c
  | .call f args named => f.suspends || anySuspends args || anyNamedSuspends named

/-- One of several expressions suspends. -/
def anySuspends : List Expr → Bool
  | [] => false
  | e :: es => e.suspends || anySuspends es

/-- An optional expression suspends. -/
def someSuspends : Option Expr → Bool
  | none => false
  | some e => e.suspends

/-- One of several entries suspends. -/
def anyEntrySuspends : List (Option Expr × Expr) → Bool
  | [] => false
  | (k, v) :: es => someSuspends k || v.suspends || anyEntrySuspends es

/-- One of several compared expressions suspends. -/
def anyComparisonSuspends : List (CompareOp × Expr) → Bool
  | [] => false
  | (_, e) :: es => e.suspends || anyComparisonSuspends es

/-- One of several named arguments suspends. -/
def anyNamedSuspends : List (Option Text × Expr) → Bool
  | [] => false
  | (_, e) :: es => e.suspends || anyNamedSuspends es

end

/-- The most blocks inside each other. -/
def nestingLimit : Nat := 20

/-- Where a statement stands. -/
structure Site where
  inDefinition : Bool := false
  inLoop : Bool := false
  depth : Nat := 0
  deriving DecidableEq, Repr

/-- The line, unless a condition holds. -/
def lineUnless (holds : Bool) (line : Nat) : Option Nat := if holds then none else some line

/-- Values may be expressions that stand at a site: they do not suspend, and none stands for all its items. -/
def Site.allows (s : Site) (es : List Expr) : Bool := (s.inDefinition || !anySuspends es) && !es.any Expr.isStar

mutual

/-- The line of the first misplaced part of a statement. -/
def misplaced (s : Site) (line : Nat) : Statement → Option Nat
  | .eval e => lineUnless (s.allows [e]) line
  | .assign targets e => lineUnless (s.allows (e :: targets)) line
  | .augment target _ e => lineUnless (s.allows [target, e]) line
  | .declare target note e => lineUnless (s.allows (target :: note :: e.toList)) line
  | .branch test body orelse =>
    lineUnless (s.allows [test]) line <|> misplacedIn s body <|> misplacedIn s orelse
  | .whileLoop test body orelse =>
    lineUnless (s.depth < nestingLimit && s.allows [test]) line <|>
      misplacedIn { s with inLoop := true, depth := s.depth + 1 } body <|> misplacedIn s orelse
  | .forLoop target source body orelse =>
    lineUnless (s.depth < nestingLimit && s.allows [target, source]) line <|>
      misplacedIn { s with inLoop := true, depth := s.depth + 1 } body <|> misplacedIn s orelse
  | .pass => none
  | .breakLoop | .continueLoop => lineUnless s.inLoop line
  | .finish e => lineUnless (s.inDefinition && s.allows e.toList) line
  | .outer _ => none
  | .simple parts => lineUnless (s.allows parts) line
  | .block levels parts body =>
    lineUnless (s.depth + levels ≤ nestingLimit && s.allows parts) line <|>
      misplacedIn { s with depth := s.depth + levels } body
  | .blocks parts => misplacedIn s parts
  | .definition returns parts body =>
    lineUnless (s.allows parts) line <|> misplacedIn { inDefinition := returns } body

/-- The line of the first misplaced part of several statements. -/
def misplacedIn (s : Site) : List Located → Option Nat
  | [] => none
  | (line, statement) :: rest => misplaced s line statement <|> misplacedIn s rest

end

mutual

/-- The line on which a statement declares names of an outer definition, outside of every definition. -/
def strayOuter (line : Nat) : Statement → Option Nat
  | .outer _ => some line
  | .branch _ body orelse | .whileLoop _ body orelse | .forLoop _ _ body orelse =>
    strayOuterIn body <|> strayOuterIn orelse
  | .block _ _ body | .definition false _ body => strayOuterIn body
  | .blocks parts => strayOuterIn parts
  | _ => none

/-- The first such line of several statements. -/
def strayOuterIn : List Located → Option Nat
  | [] => none
  | (line, statement) :: rest => strayOuter line statement <|> strayOuterIn rest

end

/-- What keeps a script from being run. -/
inductive Flaw where
  /-- It holds a zero character. -/
  | zero
  /-- The mistake is on a line. -/
  | line (n : Nat)
  deriving DecidableEq, Repr

/-- The line of a mistake of grammar: a firm slip further on counts more, and a bracket that is never closed is told
instead of a mistake behind it.  A misplaced indentation is told as it is. -/
def mistake (ts : Tokens) (rest : List Token) : Nat :=
  match rest with
  | [] =>
    match ts.slip with
    | some slip => slip.bracket.getD slip.line
    | none => 0
  | t :: _ =>
    match t.lexeme, ts.slip with
    | .indent, _ | .dedent, _ => t.line
    | _, none => t.line
    | _, some slip =>
      if slip.firm then slip.line
      else match slip.bracket with
        | some line => if line < t.line then line else t.line
        | none => t.line

/-- The statements of a script, if it is well-formed. -/
def parse (source : Text) : Except Flaw (List Located) :=
  if '\x00' ∈ source then .error .zero
  else
    let ts := tokens source
    match script (depthFor ts.tokens.length) ts.tokens with
    | .error rest => .error (.line (mistake ts rest))
    | .ok (statements, _) =>
      match strayOuterIn statements <|> misplacedIn {} statements with
      | some line => .error (.line line)
      | none => .ok statements

end Stencil.Script
