import Stencil.Script.Grammar

/-!
# The grammar of statements

Simple statements stand on one line, with semicolons between them; a block is a colon with simple statements behind it,
or with indented lines.
-/

namespace Stencil.Script

open Phrase

/-- A place that a value is assigned to, or several. -/
def checkTarget (e : Expr) : Phrase Unit := do if !isTarget true e then fail

/-- The value of an assignment. -/
def assigned (n : Nat) : Phrase Expr := do if ← atWord "yield" then suspension n else starExpressions n

/-- The value of an assignment to one or more targets, given those read so far, the last of them read last. -/
def assignment : Nat → List Expr → Phrase Statement
  | 0, _ => fail
  | n + 1, targets => do
    let e ← assigned n
    if ← atOp "=" then
      checkTarget e
      skip
      assignment n (targets ++ [e])
    else return .assign targets e

/-- An expression, or what begins with one: an assignment or a declaration. -/
def expressionStatement (n : Nat) : Phrase Statement := do
  let e ← assigned n
  if ← atOp "=" then
    checkTarget e
    skip
    assignment n [e]
  else
    match ← oneOf? augmenting with
    | some o => if isPlace e then return .augment e o (← assigned n) else fail
    | none =>
      if ← atOp ":" then
        if !isPlace e then fail
        else
          skip
          let note ← expression n
          if ← takeOp "=" then return .declare e note (some (← assigned n)) else return .declare e note none
      else return .eval e

/-- Names with commas between them. -/
def names : Nat → Phrase (List Text)
  | 0 => fail
  | n + 1 => do
    let s ← Phrase.name
    if ← takeOp "," then return s :: (← names n) else return [s]

/-- A name with points in it. -/
def dottedName : Nat → Phrase Unit
  | 0 => fail
  | n + 1 => do
    let _ ← Phrase.name
    if ← takeOp "." then dottedName n

/-- Another name for something imported. -/
def renamed : Phrase Unit := do
  if ← takeWord "as" then
    let _ ← Phrase.name

/-- Imported modules. -/
def modules : Nat → Phrase Unit
  | 0 => fail
  | n + 1 => do
    dottedName n
    renamed
    if ← takeOp "," then modules n

/-- Imported names, perhaps in brackets. -/
def members (bracketed : Bool) : Nat → Phrase Unit
  | 0 => fail
  | n + 1 => do
    let _ ← Phrase.name
    renamed
    if ← takeOp "," then
      if bracketed && (← atOp ")") then return else members bracketed n

/-- The points before the name of a module. -/
def leadingPoints : Nat → Phrase Bool
  | 0 => fail
  | n + 1 => do
    if (← takeOp ".") || (← takeOp "...") then
      let _ ← leadingPoints n
      return true
    else return false

/-- What is imported from a module. -/
def importFrom (n : Nat) : Phrase Unit := do
  let points ← leadingPoints n
  if !points || !(← atWord "import") then dottedName n
  word "import"
  if ← takeOp "*" then return
  else if ← takeOp "(" then
    members true n
    op ")"
  else members false n

/-- What is removed. -/
def removed (n : Nat) : Phrase Expr := do
  let e ← targets n
  if isRemovable e then return e else fail

/-- The end of a simple statement comes next. -/
def atEnd : Phrase Bool := do
  match ← peek? with
  | some .newline => return true
  | some (.op s) => return s == ";"
  | _ => return false

/-- One simple statement. -/
def simpleStatement (n : Nat) : Phrase Statement := do
  match ← peek? with
  | some (.name s) =>
    if s = "pass" then
      skip
      return .pass
    else if s = "break" then
      skip
      return .breakLoop
    else if s = "continue" then
      skip
      return .continueLoop
    else if s = "return" then
      skip
      if ← atEnd then return .finish none else return .finish (some (← starExpressions n))
    else if s = "raise" then
      skip
      if ← atEnd then return .simple []
      else
        let e ← expression n
        if ← takeWord "from" then return .simple [e, ← expression n] else return .simple [e]
    else if s = "assert" then
      skip
      let e ← expression n
      if ← takeOp "," then return .simple [e, ← expression n] else return .simple [e]
    else if s = "del" then
      skip
      return .simple [← removed n]
    else if s = "global" then
      skip
      let _ ← names n
      return .simple []
    else if s = "nonlocal" then
      skip
      return .outer (← names n)
    else if s = "import" then
      skip
      modules n
      return .simple []
    else if s = "from" then
      skip
      importFrom n
      return .simple []
    else expressionStatement n
  | _ => expressionStatement n

/-- The simple statements of a line. -/
def simpleStatements : Nat → Phrase (List Located)
  | 0 => fail
  | n + 1 => do
    let line ← Phrase.line
    let s ← simpleStatement n
    if ← takeOp ";" then
      match ← peek? with
      | some .newline =>
        skip
        return [(line, s)]
      | _ => return (line, s) :: (← simpleStatements n)
    else
      newline
      return [(line, s)]

/-- The expression behind a decorator or a manager, and perhaps what it is bound to. -/
def managers (bracketed : Bool) : Nat → Phrase (List Expr)
  | 0 => fail
  | n + 1 => do
    let e ← expression n
    let bound ←
      if ← takeWord "as" then
        let t ← target n
        checkTarget t
        pure [t]
      else pure []
    if ← takeOp "," then
      if bracketed && (← atOp ")") then return e :: bound
      else return e :: bound ++ (← managers bracketed n)
    else return e :: bound

/-- Managers in brackets, with the colon behind them. -/
def bracketedManagers (n : Nat) : Phrase (List Expr) := do
  op "("
  let es ← managers true n
  op ")"
  op ":"
  return es

/-- The managers of a block up to the colon: in brackets if that can be read. -/
def allManagers (n : Nat) : Phrase (List Expr) := fun ts =>
  match bracketedManagers n ts with
  | .ok found => .ok found
  | .error _ => (do
      let es ← managers false n
      op ":"
      return es : Phrase (List Expr)) ts

mutual

/-- A statement, or the simple ones of a line. -/
def statement : Nat → Phrase (List Located)
  | 0 => fail
  | n + 1 => do
    let line ← Phrase.line
    match ← peek? with
    | some (.name s) =>
      if s = "if" then
        skip
        return [(line, ← branch n)]
      else if s = "while" then
        skip
        let test ← namedExpression n
        let body ← block n
        return [(line, .whileLoop test body (← elseBlock n))]
      else if s = "for" then
        skip
        return [(line, ← loop n false)]
      else if s = "try" then
        skip
        let body ← block n
        let handled ← handlers n false
        let orelse ← if handled.isEmpty then pure [] else elseBlock n
        let last ← if ← takeWord "finally" then block n else pure []
        if handled.isEmpty && last.isEmpty then fail
        else
          let levels := (if handled.isEmpty then 0 else 1) + (if last.isEmpty then 0 else 1)
          return [(line, .blocks ((line, .block levels [] body) :: handled ++ orelse ++ last))]
      else if s = "with" then
        skip
        return [(line, ← managed n false)]
      else if s = "def" then
        skip
        return [(line, ← definition n)]
      else if s = "class" then
        skip
        return [(line, ← classDefinition n)]
      else if s = "async" then
        skip
        if ← takeWord "for" then return [(line, ← loop n true)]
        else if ← takeWord "with" then return [(line, ← managed n true)]
        else
          word "def"
          return [(line, ← definition n)]
      else simpleStatements n
    | some (.op s) =>
      if s = "@" then
        skip
        let e ← namedExpression n
        newline
        if (← atOp "@") || (← atWord "def") || (← atWord "class") || (← atWord "async") then
          return (line, .simple [e]) :: (← statement n)
        else fail
      else simpleStatements n
    | _ => simpleStatements n

/-- A loop over items behind its first word; one that `waits` stands in a definition only. -/
def loop : Nat → Bool → Phrase Statement
  | 0, _ => fail
  | n + 1, waits => do
    let target ← targets n
    checkTarget target
    word "in"
    let source ← starExpressions n
    let body ← block n
    return .forLoop target (if waits then .suspended [source] else source) body (← elseBlock n)

/-- A managed block behind its first word; one that `waits` stands in a definition only. -/
def managed : Nat → Bool → Phrase Statement
  | 0, _ => fail
  | n + 1, waits => do
    let es ← allManagers n
    return .block es.length (if waits then [.suspended es] else es) (← suite n)

/-- A function behind its first word. -/
def definition : Nat → Phrase Statement
  | 0 => fail
  | n + 1 => do
    let _ ← Phrase.name
    op "("
    let parts ← parameters n true {}
    op ")"
    let parts ← if ← takeOp "->" then pure (parts ++ [← expression n]) else pure parts
    return .definition true parts (← block n)

/-- A class behind its first word. -/
def classDefinition : Nat → Phrase Statement
  | 0 => fail
  | n + 1 => do
    let _ ← Phrase.name
    let parts ←
      if ← takeOp "(" then
        let (args, named) ← arguments n [] [] false
        pure (args ++ named.map Prod.snd)
      else pure []
    return .blocks [(0, .simple parts), (0, .definition false [] (← block n))]

/-- The handlers of a guarded block and what follows if none was needed; `any` says that one for everything was met. -/
def handlers : Nat → Bool → Phrase (List Located)
  | 0, _ => fail
  | n + 1, any => do
    let line ← Phrase.line
    if ← takeWord "except" then
      if any then fail
      else
        let _ ← takeOp "*"
        if ← atOp ":" then
          let body ← block n
          return (line, .block 1 [] body) :: (← handlers n true)
        else
          let e ← expression n
          let named ←
            if ← takeWord "as" then
              let _ ← Phrase.name
              pure true
            else pure false
          let body ← block n
          return (line, .block (if named then 2 else 1) [e] body) :: (← handlers n false)
    else return []

/-- A conditional behind its first word. -/
def branch : Nat → Phrase Statement
  | 0 => fail
  | n + 1 => do
    let test ← namedExpression n
    let body ← block n
    let line ← Phrase.line
    if ← takeWord "elif" then
      return .branch test body [(line, ← branch n)]
    else return .branch test body (← elseBlock n)

/-- What follows if a condition does not hold, or a loop ends by itself. -/
def elseBlock : Nat → Phrase (List Located)
  | 0 => fail
  | n + 1 => do if ← takeWord "else" then block n else return []

/-- A block with its colon. -/
def block : Nat → Phrase (List Located)
  | 0 => fail
  | n + 1 => do
    op ":"
    suite n

/-- A block behind its colon. -/
def suite : Nat → Phrase (List Located)
  | 0 => fail
  | n + 1 => do
    match ← peek? with
    | some .newline =>
      skip
      indent
      statements n
    | _ => simpleStatements n

/-- The indented statements of a block, with the end of the indentation. -/
def statements : Nat → Phrase (List Located)
  | 0 => fail
  | n + 1 => do
    let first ← statement n
    match ← peek? with
    | some .dedent =>
      skip
      return first
    | _ => return first ++ (← statements n)

end

/-- The statements of a script up to its end. -/
def script : Nat → Phrase (List Located)
  | 0 => fail
  | n + 1 => do
    match ← peek? with
    | some .finish => return []
    | _ =>
      let first ← statement n
      return first ++ (← script n)

end Stencil.Script
