import Stencil.Yaml.Token.Property
import Stencil.Yaml.Token.Scalar

/-!
# Taking tokens

Tokens are scanned one after the other, and no further than they are asked for: a text is read up to its first flaw.
A token that may turn out to be a simple key is held back until that is known.
-/

namespace Stencil.Yaml.Scan

/-- How far behind its begin the colon of a simple key may stand. -/
def keyReach : Nat := 1024

/-- What is being scanned while a simple key is pending. -/
def simpleKey : Text := "while scanning a simple key"

/-- Fails for a pending key that has to be one. -/
def failForKey {α : Type} (k : PendingKey) : Scan α := do
  fail simpleKey k.mark "could not find expected ':'" (← cursor).mark

/-- Drops the pending keys that can be none any more. -/
def dropStale : Scan Unit := do
  let s ← get
  let stale (entry : Int × PendingKey) : Bool :=
    entry.2.mark.line != s.cursor.mark.line || s.cursor.index - entry.2.index > keyReach
  match s.pending.find? fun entry => stale entry && entry.2.required with
  | some (_, k) => failForKey k
  | none => set { s with pending := s.pending.filter fun entry => !stale entry }

/-- Drops the pending key of this depth. -/
def dropKey : Scan Unit := do
  let s ← get
  match s.pending.lookup s.depth with
  | some k => if k.required then failForKey k
  | none => pure ()
  set { s with pending := s.pending.filter fun entry => entry.1 != s.depth }

/-- The next token may be a simple key, if one may stand here. -/
def noteKey : Scan Unit := do
  let s ← get
  if s.keyAllowed then
    dropKey
    let required := s.depth == 0 && s.indent == s.cursor.mark.column
    let k : PendingKey := ⟨s.taken + s.queue.length, required, s.cursor.index, s.cursor.mark⟩
    modify fun s => { s with pending := s.pending ++ [(s.depth, k)] }

/-- Adds a token behind the ones that are not taken yet. -/
def push (t : Token) : Scan Unit := modify fun s => { s with queue := s.queue ++ [t] }

/-- Adds a token without width at the cursor. -/
def pushHere (l : Lexeme) : Scan Unit := do
  let m := (← cursor).mark
  push ⟨l, m, m⟩

/-- Adds a token of several characters, and goes on behind it. -/
def pushWide (l : Lexeme) (width : Nat) : Scan Unit := do
  let start := (← cursor).mark
  skip width
  push ⟨l, start, (← cursor).mark⟩

/-- Whether a simple key may stand next. -/
def allowKey (allowed : Bool) : Scan Unit := modify fun s => { s with keyAllowed := allowed }

/-! ## Blocks -/

/-- Ends the blocks that are indented further than a column. -/
def closeBlocks (column : Int) : List Int → Scan Unit
  | [] => return
  | outer :: outers => do
    let s ← get
    if s.depth == 0 && s.indent > column then
      pushHere .blockEnd
      modify fun s => { s with indent := outer, indents := outers }
      closeBlocks column outers

/-- Ends the blocks that are indented further than a column. -/
def unwind (column : Int) : Scan Unit := do closeBlocks column (← get).indents

/-- A new block begins at a column, unless one stands there already. -/
def indentTo (column : Int) : Scan Bool := do
  let s ← get
  if s.indent < column then
    set { s with indent := column, indents := s.indent :: s.indents }
    return true
  return false

/-- A block begins at the cursor, unless it stands there already or brackets are open; it may not begin where no simple
key may stand. -/
def openBlock (l : Lexeme) (things : Text) : Scan Unit := do
  let s ← get
  if s.depth == 0 then
    if !s.keyAllowed then
      throw (.marked .scanning none (things ++ " are not allowed here") s.cursor.mark)
    if ← indentTo s.cursor.mark.column then pushHere l

/-! ## Single tokens -/

/-- The end of the text. -/
def endOfStream : Scan Unit := do
  unwind (-1)
  dropKey
  pushHere .streamEnd
  modify fun s => { s with keyAllowed := false, pending := [], finished := true }

/-- A directive, or the begin or end of a document. -/
def outside (act : Scan Unit) : Scan Unit := do
  unwind (-1)
  dropKey
  allowKey false
  act

/-- An opening bracket. -/
def opening (l : Lexeme) : Scan Unit := do
  noteKey
  modify fun s => { s with depth := s.depth + 1, keyAllowed := true }
  pushWide l 1

/-- A closing bracket. -/
def closing (l : Lexeme) : Scan Unit := do
  dropKey
  modify fun s => { s with depth := s.depth - 1, keyAllowed := false }
  pushWide l 1

/-- A comma between brackets. -/
def comma : Scan Unit := do
  allowKey true
  dropKey
  pushWide .flowEntry 1

/-- The hyphen of an item. -/
def hyphen : Scan Unit := do
  openBlock .blockSequence "sequence entries"
  allowKey true
  dropKey
  pushWide .blockEntry 1

/-- The question mark of a key. -/
def questionMark : Scan Unit := do
  openBlock .blockMapping "mapping keys"
  allowKey ((← get).depth == 0)
  dropKey
  pushWide .key 1

/-- The tokens in front of a pending key that has turned out to be one. -/
def insertKey (k : PendingKey) : Scan Unit := do
  let opens ← if (← get).depth == 0 then indentTo k.mark.column else pure false
  let tokens : List Token := (if opens then [⟨.blockMapping, k.mark, k.mark⟩] else []) ++ [⟨.key, k.mark, k.mark⟩]
  modify fun s =>
    let (front, behind) := s.queue.splitAt (k.number - s.taken)
    { s with queue := front ++ tokens ++ behind, pending := s.pending.filter fun entry => entry.1 != s.depth }

/-- The colon in front of a value. -/
def colon : Scan Unit := do
  let s ← get
  match s.pending.lookup s.depth with
  | some k =>
    insertKey k
    allowKey false
  | none =>
    openBlock .blockMapping "mapping values"
    allowKey (s.depth == 0)
    dropKey
  pushWide .value 1

/-- A property, or a scalar that is no block; it may be a simple key. -/
def simple (scan : Scan Token) : Scan Unit := do
  noteKey
  allowKey false
  push (← scan)

/-- A block scalar. -/
def block (folds : Bool) : Scan Unit := do
  allowKey true
  dropKey
  push (← blockScalar folds)

/-- A plain scalar may begin here. -/
def beginsPlain (inside : Bool) (c : Cursor) : Bool :=
  let d := c.peek
  !(isGap d || d ∈ ("-?:,[]\x7b\x7d#&*!|>'\"%@\x60" : Text)) ||
    (!isGap (c.peek 1) && (d == '-' || (!inside && (d == '?' || d == ':'))))

/-- Goes on behind spaces, remarks and line breaks; outside brackets a simple key may stand behind a line break. -/
def toNext : Nat → Scan Unit
  | 0 => return
  | rounds + 1 => do
    goTo ((← cursor).dropWhile (· == ' ')).skipRemark
    if isBreak (← cursor).peek then
      let _ ← lineBreak
      if (← get).depth == 0 then allowKey true
      toNext rounds

/-- Scans the next token. -/
def fetch : Scan Unit := do
  let c ← cursor
  if c.index == 0 && c.peek == '\ufeff' then skip 1
  toNext (c.rest.length + 1)
  dropStale
  let c ← cursor
  unwind c.mark.column
  let inside := (← get).depth != 0
  let alone := isGap (c.peek 1)
  let first := c.mark.column == 0
  match c.peek with
  | '\x00' => endOfStream
  | '[' => opening .flowSequence
  | '\x7b' => opening .flowMapping
  | ']' => closing .flowSequenceEnd
  | '\x7d' => closing .flowMappingEnd
  | ',' => comma
  | '*' => simple (anchor "alias" .alias)
  | '&' => simple (anchor "anchor" .anchor)
  | '!' => simple tag
  | '\'' | '"' => simple quotedScalar
  | d =>
    if d == '%' && first then outside do push (← directive)
    else if first && c.hasMarker "---" then outside (pushWide .documentStart 3)
    else if first && c.hasMarker "..." then outside (pushWide .documentEnd 3)
    else if d == '-' && alone then hyphen
    else if d == '?' && (inside || alone) then questionMark
    else if d == ':' && (inside || alone) then colon
    else if d == '|' && !inside then block false
    else if d == '>' && !inside then block true
    else if beginsPlain inside c then simple plainScalar
    else
      throw (.marked .scanning (some ("while scanning for the next token", none))
        ("found character " ++ Text.quoted [d] ++ " that cannot start any token") c.mark)

/-! ## Tokens one after the other -/

/-- The next token is not known yet: there is none, or it may turn out to be a simple key. -/
def needsMore : Scan Bool := do
  if (← get).finished then return false
  if (← get).queue.isEmpty then return true
  dropStale
  let s ← get
  return s.pending.any fun entry => entry.2.number == s.taken

/-- Scans until the next token is known. -/
def fill : Nat → Scan Unit
  | 0 => return
  | rounds + 1 => do
    if ← needsMore then
      fetch
      fill rounds

/-- The next token; behind the end there is no other one than the end. -/
def peekToken : Scan Token := do
  fill ((← cursor).rest.length + 2)
  let s ← get
  return (s.queue.head?).getD ⟨.streamEnd, s.cursor.mark, s.cursor.mark⟩

/-- Takes the next token. -/
def takeToken : Scan Token := do
  let t ← peekToken
  modify fun s => { s with queue := s.queue.tail, taken := s.taken + 1 }
  return t

/-- The next lexeme passes a test. -/
def isNext (test : Lexeme → Bool) : Scan Bool := return test (← peekToken).lexeme

end Stencil.Yaml.Scan
