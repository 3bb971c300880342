import Stencil.Script.Phrase

/-!
# The grammar of expressions

One reader for each kind of expression, tightest binding last: choices and small functions, `or`, `and`, `not`,
comparisons, the binary operators level by level, signs, powers, and atoms with what is applied to them.  The first
argument bounds the depth of the readers' calls; `depthFor` tokens' worth of it is always enough.
-/

namespace Stencil.Script

open Phrase

/-- The depth of calls that a number of tokens can need. -/
def depthFor (tokens : Nat) : Nat := 24 * tokens + 24

/-- The parameters of a definition that have been read: whether one had a default, whether only named ones may follow
and the expressions inside them. -/
structure Parameters where
  names : List Text := []
  defaulted : Bool := false
  slashed : Bool := false
  named : Bool := false
  closed : Bool := false
  parts : List Expr := []

mutual

/-- Any expression. -/
def expression : Nat → Phrase Expr
  | 0 => fail
  | n + 1 => do
    if ← atWord "lambda" then smallFunction n
    else
      let start ← get
      let a ← disjunction n
      if ← takeWord "if" then
        let test ← disjunction n
        if ← takeWord "else" then return .choice test a (← expression n)
        else if ← atOp ":" then fail
        else throw start
      else return a

/-- A function without a name: its defaults are parts of the expression. -/
def smallFunction : Nat → Phrase Expr
  | 0 => fail
  | n + 1 => do
    word "lambda"
    let parts ← parameters n false {}
    op ":"
    let _ ← expression n
    return .foreign parts

/-- The parameters of a function up to the token that ends them. -/
def parameters : Nat → Bool → Parameters → Phrase (List Expr)
  | 0, _, _ => fail
  | n + 1, notes, p => do
    if ← atOp (if notes then ")" else ":") then return p.parts
    else if p.closed then fail
    else
      let p ←
        if ← takeOp "**" then
          let p ← parameter n notes false p
          pure { p with closed := true }
        else if ← atOp "*" then
          if p.named then fail
          else
            skip
            if ← atOp "," then
              if ← (do skip; return !(← atName)) then fail
              else pure { p with named := true, defaulted := false }
            else
              let p ← parameter n notes false p
              takeComma notes { p with named := true, defaulted := false }
        else if ← atOp "/" then
          if p.slashed || p.named || p.names.isEmpty then fail
          else
            skip
            takeComma notes { p with slashed := true }
        else
          let p ← parameter n notes true p
          takeComma notes p
      if p.closed then
        let _ ← takeOp ","
        parameters n notes p
      else parameters n notes p
where
  /-- A comma behind a parameter, unless the list ends there. -/
  takeComma (notes : Bool) (p : Parameters) : Phrase Parameters := do
    if ← takeOp "," then return p
    else if ← atOp (if notes then ")" else ":") then return p
    else fail

/-- One parameter, perhaps with a note and a default. -/
def parameter : Nat → Bool → Bool → Parameters → Phrase Parameters
  | 0, _, _, _ => fail
  | n + 1, notes, defaults, p => do
    let name ← Phrase.name
    if p.names.contains name then fail
    else
      let note ←
        if notes then
          if ← takeOp ":" then pure [← starExpression n] else pure []
        else pure []
      if defaults then
        if ← takeOp "=" then
          let e ← expression n
          return { p with names := name :: p.names, defaulted := true, parts := p.parts ++ note ++ [e] }
        else if p.defaulted && !p.named then fail
        else return { p with names := name :: p.names, parts := p.parts ++ note }
      else return { p with names := name :: p.names, parts := p.parts ++ note }

/-- An expression that may bind a name on the way. -/
def namedExpression : Nat → Phrase Expr
  | 0 => fail
  | n + 1 => do
    if (← atName) && (← secondOp ":=") then
      let name ← Phrase.name
      op ":="
      return .bound name (← expression n)
    else expression n

/-- An expression, or all items of one. -/
def starExpression : Nat → Phrase Expr
  | 0 => fail
  | n + 1 => do
    if ← takeOp "*" then return .star (← binary n binaryLevels)
    else expression n

/-- An item of a display. -/
def starNamed : Nat → Phrase Expr
  | 0 => fail
  | n + 1 => do
    if ← takeOp "*" then return .star (← binary n binaryLevels)
    else namedExpression n

/-- One expression or several with commas. -/
def starExpressions : Nat → Phrase Expr
  | 0 => fail
  | n + 1 => do
    let first ← starExpression n
    if ← takeOp "," then
      return .tuple (first :: (← moreExpressions n))
    else return first

/-- Further expressions behind a comma, which may be none. -/
def moreExpressions : Nat → Phrase (List Expr)
  | 0 => fail
  | n + 1 => do
    if ← endsList then return []
    else
      let e ← starExpression n
      if ← takeOp "," then return e :: (← moreExpressions n)
      else return [e]
where
  /-- No expression can begin here: a list ends behind its comma. -/
  endsList : Phrase Bool := do
    match ← peek? with
    | none => return false
    | some .newline => return true
    | some (.op s) => return s == ")" || s == "]" || s == "\x7d" || s == ":" || s == ";" || s == "=" ||
        (augmenting.lookup s).isSome
    | some (.name s) => return s == "in"
    | _ => return false

/-- An expression that hands out a value. -/
def suspension : Nat → Phrase Expr
  | 0 => fail
  | n + 1 => do
    word "yield"
    if ← takeWord "from" then return .suspended [← expression n]
    else
      match ← peek? with
      | some .newline => return .suspended []
      | some (.op s) =>
        if s == ")" || s == ";" || s == "=" then return .suspended []
        else return .suspended [← starExpressions n]
      | _ => return .suspended [← starExpressions n]

/-- Operands joined by `or`. -/
def disjunction : Nat → Phrase Expr
  | 0 => fail
  | n + 1 => do disjunctionTail n (← conjunction n)

/-- Further operands of `or`. -/
def disjunctionTail : Nat → Expr → Phrase Expr
  | 0, _ => fail
  | n + 1, a => do
    if ← takeWord "or" then disjunctionTail n (.either a (← conjunction n)) else return a

/-- Operands joined by `and`. -/
def conjunction : Nat → Phrase Expr
  | 0 => fail
  | n + 1 => do conjunctionTail n (← inversion n)

/-- Further operands of `and`. -/
def conjunctionTail : Nat → Expr → Phrase Expr
  | 0, _ => fail
  | n + 1, a => do
    if ← takeWord "and" then conjunctionTail n (.both a (← inversion n)) else return a

/-- An operand of `and`. -/
def inversion : Nat → Phrase Expr
  | 0 => fail
  | n + 1 => do
    if ← takeWord "not" then return .negate (← inversion n)
    else
      let a ← binary n binaryLevels
      match ← comparison? with
      | none => return a
      | some c => return .compare a (← comparisons n c)

/-- The operands of comparisons, given the first operator. -/
def comparisons : Nat → CompareOp → Phrase (List (CompareOp × Expr))
  | 0, _ => fail
  | n + 1, c => do
    let b ← binary n binaryLevels
    match ← comparison? with
    | none => return [(c, b)]
    | some d => return (c, b) :: (← comparisons n d)

/-- Operands joined by binary operators of some levels. -/
def binary : Nat → List (List (Text × BinaryOp)) → Phrase Expr
  | 0, _ => fail
  | n + 1, [] => factor n
  | n + 1, level :: levels => do binaryTail n level levels (← binary n levels)

/-- Further operands of the operators of one level. -/
def binaryTail : Nat → List (Text × BinaryOp) → List (List (Text × BinaryOp)) → Expr → Phrase Expr
  | 0, _, _, _ => fail
  | n + 1, level, levels, a => do
    match ← oneOf? level with
    | none => return a
    | some o => binaryTail n level levels (.binary o a (← binary n levels))

/-- An operand with its signs. -/
def factor : Nat → Phrase Expr
  | 0 => fail
  | n + 1 => do
    if ← takeOp "+" then return .unary .plus (← factor n)
    else if ← takeOp "-" then return .unary .minus (← factor n)
    else if ← takeOp "~" then return .unary .invert (← factor n)
    else
      let waits ← takeWord "await"
      let a ← applied n (← atom n)
      let a := if waits then .suspended [a] else a
      if ← takeOp "**" then return .binary .pow a (← factor n) else return a

/-- What is applied to an expression: attributes, calls and items. -/
def applied : Nat → Expr → Phrase Expr
  | 0, _ => fail
  | n + 1, e => do
    if ← takeOp "." then
      let name ← Phrase.name
      applied n (.attribute e name)
    else if ← takeOp "(" then
      let (args, named) ← arguments n [] [] false
      applied n (.call e args named)
    else if ← takeOp "[" then
      let first ← index n
      if ← takeOp "," then
        let more ← indices n
        op "]"
        applied n (.item e (.tuple (first :: more)))
      else
        op "]"
        applied n (.item e (match first with
          | .star _ => .tuple [first]
          | _ => first))
    else return e

/-- The arguments of a call behind its opening bracket, given those already read and whether a mapping was among
them. -/
def arguments : Nat → List Expr → List (Option Text × Expr) → Bool → Phrase (List Expr × List (Option Text × Expr))
  | 0, _, _, _ => fail
  | n + 1, args, named, mapped => do
    if ← takeOp ")" then return (args, named)
    else
      let (args, named, mapped) ←
        if ← takeOp "**" then
          pure (args, named ++ [(none, ← expression n)], true)
        else if ← atOp "*" then
          if mapped then fail
          else
            skip
            pure (args ++ [.star (← expression n)], named, mapped)
        else if (← atName) && (← secondOp "=") then
          let name ← Phrase.name
          if named.any fun (k, _) => k == some name then fail
          else
            op "="
            pure (args, named ++ [(some name, ← expression n)], mapped)
        else
          let e ← namedExpression n
          if (← atWord "for") || (← atWord "async") then
            if !args.isEmpty || !named.isEmpty then fail
            else
              let parts ← clauses n
              if ← atOp ")" then pure ([.foreign (e :: parts)], named, mapped) else fail
          else if !named.isEmpty then fail
          else pure (args ++ [e], named, mapped)
      if ← takeOp "," then arguments n args named mapped
      else
        op ")"
        return (args, named)

/-- An index or a slice. -/
def index : Nat → Phrase Expr
  | 0 => fail
  | n + 1 => do
    if ← takeOp "*" then return .star (← binary n binaryLevels)
    else if ← atOp ":" then slice n none
    else
      let e ← namedExpression n
      if ← atOp ":" then slice n (some e) else return e

/-- A slice from the colon on. -/
def slice : Nat → Option Expr → Phrase Expr
  | 0, _ => fail
  | n + 1, start => do
    op ":"
    let stop ← bound n
    if ← takeOp ":" then return .slice start stop (← bound n) else return .slice start stop none

/-- The end or the step of a slice, which may be left out. -/
def bound : Nat → Phrase (Option Expr)
  | 0 => fail
  | n + 1 => do
    if (← atOp ":") || (← atOp ",") || (← atOp "]") then return none
    else return some (← expression n)

/-- Further indices behind a comma. -/
def indices : Nat → Phrase (List Expr)
  | 0 => fail
  | n + 1 => do
    if ← atOp "]" then return []
    else
      let e ← index n
      if ← takeOp "," then return e :: (← indices n)
      else return [e]

/-- A name, a value, a literal or something in brackets. -/
def atom : Nat → Phrase Expr
  | 0 => fail
  | n + 1 => do
    match ← peek? with
    | some (.name s) =>
      if s = "None" then
        skip
        return .const .null
      else if s = "True" then
        skip
        return .const (.bool true)
      else if s = "False" then
        skip
        return .const (.bool false)
      else return .name (← Phrase.name)
    | some (.int k) =>
      skip
      return .const (.int k)
    | some (.float x) =>
      skip
      return .const (.float x)
    | some .imaginary =>
      skip
      return .inert true
    | some (.str s) =>
      skip
      literals n (.text s)
    | some .bytes =>
      skip
      literals n .bytes
    | some .formatted =>
      skip
      literals n .formatted
    | some (.op s) =>
      if s = "(" then
        skip
        group n
      else if s = "[" then
        skip
        listDisplay n
      else if s = "\x7b" then
        skip
        braceDisplay n
      else if s = "..." then
        skip
        return .inert false
      else fail
    | _ => fail

/-- A bracketed expression or a tuple behind its opening bracket. -/
def group : Nat → Phrase Expr
  | 0 => fail
  | n + 1 => do
    if ← takeOp ")" then return .tuple []
    else if ← atWord "yield" then
      let e ← suspension n
      op ")"
      return e
    else
      let first ← starNamed n
      if !first.isStar && ((← atWord "for") || (← atWord "async")) then
        let parts ← clauses n
        op ")"
        return .foreign (first :: parts)
      else if ← takeOp "," then
        let more ← displayItems n
        op ")"
        return .tuple (first :: more)
      else if first.isStar then fail
      else
        op ")"
        return first

/-- A list or a comprehension behind its opening bracket. -/
def listDisplay : Nat → Phrase Expr
  | 0 => fail
  | n + 1 => do
    if ← takeOp "]" then return .list []
    else
      let first ← starNamed n
      if !first.isStar && ((← atWord "for") || (← atWord "async")) then
        let parts ← clauses n
        op "]"
        return .foreign (first :: parts)
      else if ← takeOp "," then
        let more ← displayItems n
        op "]"
        return .list (first :: more)
      else
        op "]"
        return .list [first]

/-- Further items of a display behind a comma. -/
def displayItems : Nat → Phrase (List Expr)
  | 0 => fail
  | n + 1 => do
    if (← atOp ")") || (← atOp "]") || (← atOp "\x7d") then return []
    else
      let e ← starNamed n
      if ← takeOp "," then return e :: (← displayItems n)
      else return [e]

/-- A mapping, a set or a comprehension behind its opening brace. -/
def braceDisplay : Nat → Phrase Expr
  | 0 => fail
  | n + 1 => do
    if ← takeOp "\x7d" then return .dict []
    else if ← atOp "**" then
      return .dict (← entries n)
    else
      let first ← starNamed n
      if !first.isStar && (← takeOp ":") then
        let v ← expression n
        if (← atWord "for") || (← atWord "async") then
          let parts ← clauses n
          op "\x7d"
          return .foreign (first :: v :: parts)
        else if ← takeOp "," then
          return .dict ((some first, v) :: (← entries n))
        else
          op "\x7d"
          return .dict [(some first, v)]
      else if !first.isStar && ((← atWord "for") || (← atWord "async")) then
        let parts ← clauses n
        op "\x7d"
        return .foreign (first :: parts)
      else if ← takeOp "," then
        let more ← displayItems n
        op "\x7d"
        return .set (first :: more)
      else
        op "\x7d"
        return .set [first]

/-- Further entries of a mapping, with the closing brace. -/
def entries : Nat → Phrase (List (Option Expr × Expr))
  | 0 => fail
  | n + 1 => do
    if ← takeOp "\x7d" then return []
    else
      let entry ←
        if ← takeOp "**" then pure (none, ← binary n binaryLevels)
        else
          let k ← expression n
          op ":"
          pure (some k, ← expression n)
      if ← takeOp "," then return entry :: (← entries n)
      else
        op "\x7d"
        return [entry]

/-- The clauses of a comprehension. -/
def clauses : Nat → Phrase (List Expr)
  | 0 => fail
  | n + 1 => do
    let waits ← takeWord "async"
    word "for"
    let target ← targets n
    if !isTarget true target then fail
    else
      word "in"
      let source ← disjunction n
      let tests ← conditions n
      let more ← if (← atWord "for") || (← atWord "async") then clauses n else pure []
      let source := if waits then .suspended [source] else source
      return source :: tests ++ more

/-- The conditions of a clause. -/
def conditions : Nat → Phrase (List Expr)
  | 0 => fail
  | n + 1 => do
    if ← takeWord "if" then
      let e ← disjunction n
      return e :: (← conditions n)
    else return []

/-- What a loop binds: one target or several with commas. -/
def targets : Nat → Phrase Expr
  | 0 => fail
  | n + 1 => do
    let first ← target n
    if ← takeOp "," then return .tuple (first :: (← moreTargets n)) else return first

/-- Further targets behind a comma. -/
def moreTargets : Nat → Phrase (List Expr)
  | 0 => fail
  | n + 1 => do
    if ← atWord "in" then return []
    else
      let e ← target n
      if ← takeOp "," then return e :: (← moreTargets n)
      else return [e]

/-- One target. -/
def target : Nat → Phrase Expr
  | 0 => fail
  | n + 1 => do
    if ← takeOp "*" then return .star (← binary n binaryLevels)
    else binary n binaryLevels

end

end Stencil.Script
