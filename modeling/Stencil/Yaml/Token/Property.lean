import Stencil.Yaml.Token

/-!
# Directives and properties

Directives stand before a document: a version, and handles that shorten tags.  The properties of a node are an anchor,
by which an alias names it again, and a tag, which says what it is.
-/

namespace Stencil.Yaml.Scan

/-- A number of a version. -/
def versionNumber (start : Mark) : Scan Nat := do
  match ← takeWhile fun c => '0' ≤ c && c ≤ '9' with
  | [] => unexpected "while scanning a directive" start "expected a digit"
  | digits => return Text.ofDigits 10 (digits.filterMap Text.digit?)

/-- A version. -/
def version (start : Mark) : Scan Lexeme := do
  let _ ← takeWhile (· == ' ')
  let major ← versionNumber start
  if (← cursor).peek != '.' then unexpected "while scanning a directive" start "expected a digit or '.'"
  skip 1
  let _ ← versionNumber start
  if !endsWord (← cursor).peek then unexpected "while scanning a directive" start "expected a digit or ' '"
  return .version major

/-- A handle of a tag. -/
def tagHandle (noun : Text) (start : Mark) : Scan Text := do
  let what := "while scanning a " ++ noun
  let c ← cursor
  if c.peek != '!' then unexpected what start "expected '!'"
  if c.peek 1 == ' ' then
    skip 1
    return ['!']
  let name := (c.rest.drop 1).takeWhile isNameChar
  skip (1 + name.length)
  if (← cursor).peek != '!' then unexpected what start "expected '!'"
  skip 1
  return '!' :: name ++ ['!']

/-- A character of the suffix of a tag. -/
def isTagChar (c : Char) : Bool := isNameChar c || c ∈ (";/?:@&=+$,.!~*'()[]%" : Text)

/-- The numbers of characters that are written as escapes of two digits. -/
def escapedBytes (noun : Text) (start : Mark) : Nat → Scan (List Nat)
  | 0 => return []
  | rounds + 1 => do
    if (← cursor).peek != '%' then return []
    skip 1
    let c ← cursor
    let digits := c.rest.take 2
    match digits.find? (!isHex ·) with
    | some d =>
      failHere ("while scanning a " ++ noun) start
        ("expected URI escape sequence of 2 hexadecimal numbers, but found " ++ Text.quoted [d])
    | none =>
      if digits.length < 2 then
        failHere ("while scanning a " ++ noun) start
          ("expected URI escape sequence of 2 hexadecimal numbers, but found " ++ Text.quoted [sentinel])
      skip 2
      return Text.ofDigits 16 (digits.filterMap Text.hexDigit?) :: (← escapedBytes noun start rounds)

/-- The text that bytes encode. -/
def decoded (noun : Text) (start place : Mark) (bytes : List Nat) : Scan Text := do
  match String.fromUTF8? ⟨(bytes.map UInt8.ofNat).toArray⟩ with
  | some s => return s.toList
  | none => fail ("while scanning a " ++ noun) start "'utf-8' codec can't decode the escaped bytes" place

/-- The suffix of a tag, escapes decoded. -/
def tagSuffixFrom (noun : Text) (start : Mark) : Nat → Scan Text
  | 0 => return []
  | rounds + 1 => do
    let plain ← takeWhile fun c => isTagChar c && c != '%'
    if (← cursor).peek != '%' then return plain
    let place := (← cursor).mark
    let bytes ← escapedBytes noun start (← cursor).rest.length
    let s ← decoded noun start place bytes
    return plain ++ s ++ (← tagSuffixFrom noun start rounds)

/-- The suffix of a tag. -/
def tagSuffix (noun : Text) (start : Mark) : Scan Text := do
  if !isTagChar (← cursor).peek then unexpected ("while parsing a " ++ noun) start "expected URI"
  tagSuffixFrom noun start ((← cursor).rest.length + 1)

/-- What a handle stands for. -/
def handleDirective (start : Mark) : Scan Lexeme := do
  let _ ← takeWhile (· == ' ')
  let name ← tagHandle "directive" start
  if (← cursor).peek != ' ' then unexpected "while scanning a directive" start "expected ' '"
  let _ ← takeWhile (· == ' ')
  let value ← tagSuffix "directive" start
  if !endsWord (← cursor).peek then unexpected "while scanning a directive" start "expected ' '"
  return .handle name value

/-- A directive. -/
def directive : Scan Token := do
  let what : Text := "while scanning a directive"
  let start := (← cursor).mark
  skip 1
  let name ← takeWhile isNameChar
  if name.isEmpty || !endsWord (← cursor).peek then
    unexpected what start "expected alphabetic or numeric character"
  let lexeme ←
    if name = "YAML" then version start
    else if name = "TAG" then handleDirective start
    else pure .unknownDirective
  let stop := (← cursor).mark
  if lexeme = .unknownDirective then let _ ← takeWhile (!endsLine ·)
  restOfLine what start
  return ⟨lexeme, start, stop⟩

/-- The name of an anchor, or an alias for one. -/
def anchor (noun : Text) (lexeme : Text → Lexeme) : Scan Token := do
  let what := "while scanning an " ++ noun
  let start := (← cursor).mark
  skip 1
  let name ← takeWhile isNameChar
  let d := (← cursor).peek
  if name.isEmpty || !(isGap d || d ∈ ("?:,]\x7d%@\x60" : Text)) then
    unexpected what start "expected alphabetic or numeric character"
  return ⟨lexeme name, start, (← cursor).mark⟩

/-- A tag. -/
def tag : Scan Token := do
  let c ← cursor
  let start := c.mark
  let lexeme ←
    if c.peek 1 == '<' then do
      skip 2
      let suffix ← tagSuffix "tag" start
      if (← cursor).peek != '>' then unexpected "while parsing a tag" start "expected '>'"
      skip 1
      pure (.tag none suffix)
    else if isGap (c.peek 1) then do
      skip 1
      pure (.tag none ['!'])
    else do
      let handle ←
        if (c.rest.drop 1).takeWhile (!endsWord ·) |>.contains '!' then tagHandle "tag" start
        else do
          skip 1
          pure ['!']
      pure (.tag (some handle) (← tagSuffix "tag" start))
  if !endsWord (← cursor).peek then unexpected "while scanning a tag" start "expected ' '"
  return ⟨lexeme, start, (← cursor).mark⟩

end Stencil.Yaml.Scan
