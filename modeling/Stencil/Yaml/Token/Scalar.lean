import Stencil.Yaml.Token

/-!
# Scanning scalars

A scalar is plain, quoted or a block.  Line breaks inside it are *folded* unless it is a literal block: a single one
counts as a blank, of several the first is dropped.
-/

namespace Stencil.Yaml.Scan

/-- Line breaks at the cursor and the spaces around them; `indent` spaces belong to each line. -/
def blockBreaks (indent : Nat) : Nat → Scan Text
  | 0 => return []
  | rounds + 1 => do
    let c ← cursor
    let spaces := (c.rest.takeWhile (· == ' ')).length
    skip (min spaces (indent - c.mark.column))
    if isBreak (← cursor).peek then
      let b ← lineBreak
      return b ++ (← blockBreaks indent rounds)
    return []

/-- Empty lines at the cursor and the greatest indentation of them. -/
def leadingLines : Nat → Scan (Text × Nat)
  | 0 => return ([], 0)
  | rounds + 1 => do
    let c ← cursor
    if c.peek == ' ' then
      let _ ← takeWhile (· == ' ')
      let column := (← cursor).mark.column
      let (breaks, most) ← leadingLines rounds
      return (breaks, max column most)
    else if isBreak c.peek then
      let b ← lineBreak
      let (breaks, most) ← leadingLines rounds
      return (b ++ breaks, most)
    else return ([], 0)

/-- A digit of an indentation. -/
def indentDigit (start : Mark) : Scan (Option Nat) := do
  match Text.digit? (← cursor).peek with
  | none => return none
  | some 0 =>
    failHere "while scanning a block scalar" start "expected indentation indicator in the range 1-9, but found 0"
  | some n =>
    skip 1
    return some n

/-- A sign that tells whether the line breaks at the end are kept. -/
def chomping : Scan (Option Bool) := do
  let d := (← cursor).peek
  if d == '+' || d == '-' then
    skip 1
    return some (d == '+')
  return none

/-- The sign and the digit behind the begin of a block scalar, in either order. -/
def blockHeader (start : Mark) : Scan (Option Bool × Option Nat) := do
  let first ← chomping
  let indent ← indentDigit start
  let keep ← if first.isNone && indent.isSome then chomping else pure first
  if !endsWord (← cursor).peek then
    unexpected "while scanning a block scalar" start "expected chomping or indentation indicators"
  return (keep, indent)

/-- The lines of a block scalar from one that stands at the indentation on: its text, the last line break, and the empty
lines behind it; `before` are the line breaks in front. -/
def blockLines (folds : Bool) (indent : Nat) (before : Text) : Nat → Scan (Text × Text × Text)
  | 0 => return (before, [], [])
  | rounds + 1 => do
    let c ← cursor
    if c.mark.column ≠ indent || c.peek == sentinel then return ([], [], before)
    let line ← takeWhile (!endsLine ·)
    let b ← lineBreak
    let breaks ← blockBreaks indent (← cursor).rest.length
    let next ← cursor
    if next.mark.column ≠ indent || next.peek == sentinel then return (before ++ line, b, breaks)
    let joint : Text :=
      if folds && b == ['\n'] && !isSpace c.peek && !isSpace next.peek then (if breaks.isEmpty then [' '] else []) else b
    let (more, last, behind) ← blockLines folds indent breaks rounds
    return (before ++ line ++ joint ++ more, last, behind)

/-- A block scalar. -/
def blockScalar (folds : Bool) : Scan Token := do
  let start := (← cursor).mark
  skip 1
  let (keep, wanted) ← blockHeader start
  restOfLine "while scanning a block scalar" start
  let least : Nat := max 1 ((← get).indent + 1).toNat
  let rounds := (← cursor).rest.length + 1
  let (breaks, indent) ← match wanted with
    | none => do
      let (breaks, most) ← leadingLines rounds
      pure (breaks, max least most)
    | some n => do pure (← blockBreaks (least + n - 1) rounds, least + n - 1)
  let (s, last, behind) ← blockLines folds indent breaks rounds
  let s := s ++ (if keep = some false then [] else last) ++ (if keep = some true then behind else [])
  return ⟨.scalar .block s, start, (← cursor).mark⟩

/-! ### Quoted scalars -/

/-- What a backslash and a letter stand for. -/
def letterEscape? (c : Char) : Option Char :=
  ([('0', '\x00'), ('a', '\x07'), ('b', '\x08'), ('t', '\t'), ('\t', '\t'), ('n', '\n'), ('v', '\x0b'), ('f', '\x0c'),
    ('r', '\r'), ('e', '\x1b'), (' ', ' '), ('"', '"'), ('\\', '\\'), ('/', '/'), ('N', '\x85'), ('_', '\xa0'),
    ('L', '\u2028'), ('P', '\u2029')] : List (Char × Char)).lookup c

/-- The number of digits behind a backslash and a letter. -/
def escapeWidth? (c : Char) : Option Nat := ([('x', 2), ('u', 4), ('U', 8)] : List (Char × Nat)).lookup c

/-- Spaces and line breaks inside a quoted scalar; no document may begin or end here. -/
def quotedBreaks (start : Mark) : Nat → Scan Text
  | 0 => return []
  | rounds + 1 => do
    if (← cursor).atSeparator then
      failHere "while scanning a quoted scalar" start "found unexpected document separator"
    let _ ← takeWhile isSpace
    if isBreak (← cursor).peek then
      let b ← lineBreak
      return b ++ (← quotedBreaks start rounds)
    return []

/-- Spaces inside a quoted scalar, or a line break and what is folded with it. -/
def quotedSpaces (start : Mark) : Scan Text := do
  let spaces ← takeWhile isSpace
  let c ← cursor
  if c.peek == sentinel then failHere "while scanning a quoted scalar" start "found unexpected end of stream"
  if !isBreak c.peek then return spaces
  let b ← lineBreak
  let breaks ← quotedBreaks start (← cursor).rest.length
  return (if b != ['\n'] then b else if breaks.isEmpty then [' '] else []) ++ breaks

/-- The character that digits behind a backslash stand for. -/
def numberEscape (start : Mark) (width : Nat) : Scan Text := do
  skip 1
  let c ← cursor
  match ((List.range width).map fun n => c.peek n).find? (!isHex ·) with
  | some d =>
    failHere "while scanning a double-quoted scalar" start
      ("expected escape sequence of " ++ Text.ofNat width ++ " hexadecimal numbers, but found " ++ Text.quoted [d])
  | none =>
    let n := Text.ofDigits 16 ((c.rest.take width).filterMap Text.hexDigit?)
    if n ≥ 0x110000 then throw (.fault (.wrongValue "chr() arg not in range(0x110000)"))
    skip width
    return [Char.ofNat n]

/-- What a backslash inside double quotes begins. -/
def escape (start : Mark) : Scan Text := do
  skip 1
  let d := (← cursor).peek
  match letterEscape? d, escapeWidth? d with
  | some e, _ =>
    skip 1
    return [e]
  | none, some width => numberEscape start width
  | none, none =>
    if isBreak d then
      let _ ← lineBreak
      quotedBreaks start (← cursor).rest.length
    else failHere "while scanning a double-quoted scalar" start ("found unknown escape character " ++ Text.quoted [d])

/-- The rest of a quoted scalar up to its closing quote. -/
def quotedFrom (quote : Char) (start : Mark) : Nat → Scan Text
  | 0 => return []
  | rounds + 1 => do
    let plain ← takeWhile fun c => !(isGap c || c == '\'' || c == '"' || c == '\\')
    let c ← cursor
    let d := c.peek
    if quote == '\'' && d == '\'' && c.peek 1 == '\'' then
      skip 2
      return plain ++ '\'' :: (← quotedFrom quote start rounds)
    else if d == quote then
      skip 1
      return plain
    else if d == '\'' || d == '"' || (d == '\\' && quote == '\'') then
      skip 1
      return plain ++ d :: (← quotedFrom quote start rounds)
    else if d == '\\' then
      let s ← escape start
      return plain ++ s ++ (← quotedFrom quote start rounds)
    else
      let s ← quotedSpaces start
      return plain ++ s ++ (← quotedFrom quote start rounds)

/-- A quoted scalar. -/
def quotedScalar : Scan Token := do
  let c ← cursor
  skip 1
  let s ← quotedFrom c.peek c.mark (c.rest.length + 1)
  return ⟨.scalar .quoted s, c.mark, (← cursor).mark⟩

/-! ### Plain scalars -/

/-- Empty lines behind a line of a plain scalar; nothing if a document begins or ends here. -/
def plainBreaks : Nat → Scan (Option Text)
  | 0 => return some []
  | rounds + 1 => do
    let c ← cursor
    if c.peek == ' ' then
      skip 1
      plainBreaks rounds
    else if isBreak c.peek then
      let b ← lineBreak
      if (← cursor).atSeparator then return none
      return (← plainBreaks rounds).map (b ++ ·)
    else return some []

/-- Spaces inside a plain scalar, or a line break and what is folded with it; nothing if the scalar ends here. -/
def plainSpaces : Scan (Option Text) := do
  let spaces ← takeWhile (· == ' ')
  if !isBreak (← cursor).peek then return if spaces.isEmpty then none else some spaces
  let b ← lineBreak
  modify fun s => { s with keyAllowed := true }
  if (← cursor).atSeparator then return none
  match ← plainBreaks (← cursor).rest.length with
  | none => return none
  | some breaks =>
    return some ((if b != ['\n'] then b else if breaks.isEmpty then [' '] else []) ++ breaks)

/-- The characters of a plain scalar up to a gap, a colon before a gap, or, inside brackets, an indicator. -/
def plainWord (inside : Bool) : Text → Text
  | [] => []
  | c :: s =>
    let next := s.head?.getD sentinel
    if isGap c || (c == ':' && (isGap next || (inside && next ∈ (",[]\x7b\x7d" : Text)))) ||
        (inside && c ∈ (",?[]\x7b\x7d" : Text)) then []
    else c :: plainWord inside s

/-- The words of a plain scalar from the cursor on, and where the last one ends; `before` stands in front of the next
word. -/
def plainFrom (inside : Bool) (indent : Int) (before : Text) (stop : Mark) : Nat → Scan (Text × Mark)
  | 0 => return ([], stop)
  | rounds + 1 => do
    let c ← cursor
    let word := plainWord inside c.rest
    if c.peek == '#' || word.isEmpty then return ([], stop)
    modify fun s => { s with keyAllowed := false }
    skip word.length
    let stop := (← cursor).mark
    match ← plainSpaces with
    | none => return (before ++ word, stop)
    | some spaces =>
      let next ← cursor
      if next.peek == '#' || (!inside && next.mark.column < indent) then return (before ++ word, stop)
      let (more, stop) ← plainFrom inside indent spaces stop rounds
      return (before ++ word ++ more, stop)

/-- A plain scalar. -/
def plainScalar : Scan Token := do
  let s ← get
  let start := s.cursor.mark
  let (text, stop) ← plainFrom (s.depth != 0) (s.indent + 1) [] start (s.cursor.rest.length + 1)
  return ⟨.scalar .plain text, start, stop⟩

end Stencil.Yaml.Scan
