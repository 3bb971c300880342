import Stencil.Number.Reading
import Stencil.Script.Escape
import Stencil.Text.Identifier

/-!
# Tokens of a script

A script is cut into names, numbers, literals, operators and the marks of its layout: the end of a logical line and the
steps of its indentation.  Inside brackets line breaks mean nothing.  Each token knows the line it starts on.

A text that cannot be cut ends the stream with a `Slip`.  A *firm* slip (a malformed literal, number, character or
bracket) is found even behind an earlier mistake of grammar; the others (indentation, a stray backslash, the end of the
text inside brackets) only when they are reached.
-/

namespace Stencil.Script

/-- What a token is. -/
inductive Lexeme where
  | name (s : Text)
  | int (n : Nat)
  | float (x : Float)
  | imaginary
  | str (s : Text)
  | bytes
  | formatted
  /-- A literal without a value: a malformed escape, bytes outside ASCII or a whole number of too many digits. -/
  | unusable
  | op (s : Text)
  | newline
  | indent
  | dedent
  | finish
  deriving Repr

/-- A literal between quotes, with a value or without. -/
def Lexeme.isLiteral : Lexeme → Bool
  | .str _ | .bytes | .formatted | .unusable => true
  | _ => false

/-- A token and its line. -/
structure Token where
  lexeme : Lexeme
  line : Nat
  deriving Repr

/-- Where the text can be cut no further. -/
structure Slip where
  line : Nat
  /-- The slip is found even behind an earlier mistake of grammar. -/
  firm : Bool
  /-- Line of the innermost bracket still open where the text ends. -/
  bracket : Option Nat := none
  deriving Repr

/-- The tokens of a text up to the first slip. -/
structure Tokens where
  tokens : List Token
  slip : Option Slip := none
  deriving Repr

/-- The most brackets that may be open at once. -/
def bracketLimit : Nat := 200

/-- The most steps of indentation. -/
def indentLimit : Nat := 100

/-! ## Names, numbers and operators -/

/-- A character that begins a name, or may turn out to be none. -/
def mayStartName (c : Char) : Bool := Text.isIdentifierStart c || c.toNat ≥ 128

/-- A character that goes on with a name, or may turn out to be none. -/
def mayContinueName (c : Char) : Bool := (c.toNat < 128 && Text.isIdentifierPart c) || c.toNat ≥ 128

/-- All characters of a name are such as names are made of. -/
def isIdentifier : Text → Bool
  | [] => false
  | c :: s => Text.isIdentifierStart c && s.all Text.isIdentifierPart

/-- A decimal digit. -/
def isDigit (c : Char) : Bool := '0' ≤ c && c ≤ '9'

/-- Digits with single underscores between them, and the rest; `none` if an underscore has no digit behind it. -/
def digitRun (p : Char → Bool) : Text → Option (Text × Text)
  | [] => some ([], [])
  | '_' :: c :: s =>
    if p c then (digitRun p s).map fun (digits, rest) => (c :: digits, rest) else none
  | c :: s =>
    if p c then (digitRun p s).map fun (digits, rest) => (c :: digits, rest)
    else if c = '_' then none
    else some ([], c :: s)

/-- Words that may follow a number without a gap. -/
def numberFollowers : List Text := ["and", "else", "for", "if", "in", "is", "or", "not"]

/-- A number may end before a text: no name character follows, or one of a few words does. -/
def endsNumber (s : Text) : Bool :=
  match s with
  | [] => true
  | c :: _ => !mayContinueName c || numberFollowers.any fun word => word.isPrefixOf s

/-- The exponent behind `e`, and the rest: `some none` if there is none, `none` if it is malformed. -/
def exponent? (s : Text) : Option (Option (Int × Text)) :=
  match s with
  | '+' :: c :: rest => if isDigit c then signed 1 (c :: rest) else none
  | '-' :: c :: rest => if isDigit c then signed (-1) (c :: rest) else none
  | '+' :: [] | '-' :: [] => none
  | c :: rest => if isDigit c then signed 1 (c :: rest) else some none
  | [] => some none
where
  /-- The digits of an exponent with its sign. -/
  signed (sign : Int) (s : Text) : Option (Option (Int × Text)) :=
    (digitRun isDigit s).map fun (digits, rest) =>
      some (sign * Int.ofNat (Text.ofDigits 10 (digits.filterMap Text.digit?)), rest)

/-- The number at the head of a text in a base other than ten, behind its two opening characters. -/
def basedNumber? (base : Nat) (s : Text) : Option (Lexeme × Text) :=
  let isDigitOf (c : Char) : Bool := (Text.hexDigit? c).any (· < base)
  let s := match s with
    | '_' :: rest => rest
    | _ => s
  match digitRun isDigitOf s with
  | some (d :: digits, rest) =>
    if endsNumber rest && !(rest.head?.map isDigit).getD false then
      some (.int (Text.ofDigits base ((d :: digits).filterMap Text.hexDigit?)), rest)
    else none
  | _ => none

/-- Finishes a number with whole digits, places and an exponent; a letter `j` makes it imaginary. -/
def finishFloat (whole places : Text) (exponent : Int) (rest : Text) : Option (Lexeme × Text) :=
  let digits := Text.ofDigits 10 ((whole ++ places).filterMap Text.digit?)
  match rest with
  | c :: after =>
    if c = 'j' ∨ c = 'J' then (if endsNumber after then some (.imaginary, after) else none)
    else if endsNumber rest then some (.float (Number.ofDecimal digits (exponent - places.length)), rest)
    else none
  | [] => some (.float (Number.ofDecimal digits (exponent - places.length)), rest)

/-- Goes on behind the whole digits and places with an optional exponent. -/
def withExponent (whole places : Text) (isFloat : Bool) (s : Text) : Option (Lexeme × Text) :=
  let plain : Option (Lexeme × Text) :=
    if isFloat then finishFloat whole places 0 s
    else match s with
      | 'j' :: _ | 'J' :: _ => finishFloat whole places 0 s
      | _ =>
        if endsNumber s then
          let digits := whole.filterMap Text.digit?
          if whole.head? = some '0' then (if digits.any (· ≠ 0) then none else some (.int 0, s))
          else if digits.length > Number.digitLimit then some (.unusable, s)
          else some (.int (Text.ofDigits 10 digits), s)
        else none
  match s with
  | c :: rest =>
    if c = 'e' ∨ c = 'E' then
      match exponent? rest with
      | none => none
      | some none => plain
      | some (some (e, rest)) => finishFloat whole places e rest
    else plain
  | [] => plain

/-- The number at the head of a text. -/
def number? (s : Text) : Option (Lexeme × Text) :=
  match s with
  | '0' :: 'x' :: rest | '0' :: 'X' :: rest => basedNumber? 16 rest
  | '0' :: 'o' :: rest | '0' :: 'O' :: rest => basedNumber? 8 rest
  | '0' :: 'b' :: rest | '0' :: 'B' :: rest => basedNumber? 2 rest
  | _ =>
    match (if s.head? = some '.' then some ([], s) else digitRun isDigit s) with
    | none => none
    | some (whole, '.' :: rest) =>
      match (match rest with
        | c :: _ => if isDigit c then digitRun isDigit rest else some ([], rest)
        | [] => some ([], [])) with
      | none => none
      | some (places, rest) => withExponent whole places true rest
    | some (whole, rest) => withExponent whole [] false rest

/-- Operators of more than one character, longer ones first. -/
def operators : List Text := [
  "**=", "//=", ">>=", "<<=", "...", "**", "//", ">>", "<<", "<=", ">=", "==", "!=", "->", "+=", "-=", "*=", "/=",
  "%=", "&=", "|=", "^=", "@=", ":="]

/-- The operator at the head of a text and the rest. -/
def operator? (s : Text) : Option (Text × Text) :=
  match operators.findSome? fun op => (Text.after? op s).map fun rest => (op, rest) with
  | some found => some found
  | none =>
    match s with
    | [] => none
    | c :: rest => some ([c], rest)

/-! ## Literals -/

/-- What the letters before a literal say of it. -/
structure Flags where
  raw : Bool := false
  bytes : Bool := false
  unicode : Bool := false
  formatted : Bool := false
  deriving DecidableEq, Repr

/-- The flags that one more letter gives, if the combination is allowed. -/
def Flags.add? (f : Flags) (c : Char) : Option Flags :=
  if c = 'r' ∨ c = 'R' then (if f.raw || f.unicode then none else some { f with raw := true })
  else if c = 'b' ∨ c = 'B' then
    (if f.bytes || f.unicode || f.formatted then none else some { f with bytes := true })
  else if c = 'u' ∨ c = 'U' then
    (if f.bytes || f.unicode || f.raw || f.formatted then none else some { f with unicode := true })
  else if c = 'f' ∨ c = 'F' then
    (if f.formatted || f.bytes || f.unicode then none else some { f with formatted := true })
  else none

/-- The flags before an opening quote at the head of a text, and the text from the quote on. -/
def flags? (f : Flags) : Text → Option (Flags × Text)
  | [] => none
  | c :: s =>
    if c = '\'' ∨ c = '"' then some (f, c :: s)
    else match f.add? c with
      | none => none
      | some g => flags? g s

/-- The inside of a literal of one line and the text after its closing quote. -/
def shortBody? (quote : Char) : Text → Option (Text × Text)
  | [] => none
  | '\\' :: [] => none
  | '\\' :: c :: s => (shortBody? quote s).map fun (body, rest) => ('\\' :: c :: body, rest)
  | c :: s =>
    if c = quote then some ([], s)
    else if c = '\n' then none
    else (shortBody? quote s).map fun (body, rest) => (c :: body, rest)

/-- The inside of a literal of many lines and the text after its three closing quotes. -/
def longBody? (quote : Char) : Text → Option (Text × Text)
  | [] => none
  | '\\' :: [] => none
  | '\\' :: c :: s => (longBody? quote s).map fun (body, rest) => ('\\' :: c :: body, rest)
  | c :: s =>
    match s with
    | d :: e :: rest =>
      if c = quote ∧ d = quote ∧ e = quote then some ([], rest)
      else (longBody? quote s).map fun (body, rest) => (c :: body, rest)
    | _ => none

/-- The inside of the literal at the head of a text, from its opening quote on, and the text after it. -/
def body? (quote : Char) (s : Text) : Option (Text × Text) :=
  match s with
  | a :: b :: c :: rest =>
    if a = quote ∧ b = quote ∧ c = quote then longBody? quote rest else shortBody? quote (b :: c :: rest)
  | _ :: rest => shortBody? quote rest
  | [] => none

/-- The token of a literal with given flags and inside. -/
def literalOf (f : Flags) (body : Text) : Lexeme :=
  if f.bytes then (if body.all (·.toNat < 128) then .bytes else .unusable)
  else if f.formatted then .formatted
  else if f.raw then .str body
  else match decode body with
    | none => .unusable
    | some s => .str s

/-- The literal at the head of a text, with what it consumed and what follows; the inner option is empty when it is
never closed. -/
def literal? (s : Text) : Option (Option (Lexeme × Text)) :=
  match flags? {} s with
  | none => none
  | some (_, []) => none
  | some (f, quote :: rest) => some ((body? quote (quote :: rest)).map fun (body, rest) => (literalOf f body, rest))

/-! ## Layout -/

/-- A column, with tabs to every eighth column and with tabs of one column. -/
structure Column where
  wide : Nat := 0
  narrow : Nat := 0
  deriving DecidableEq, Repr

/-- The column of the first character of a line that is no space, the lines skipped by backslashes, and the text from
there on.  `kept` is the column before the first backslash. -/
def measure (column : Column) (kept : Nat) (skipped : Nat) : Text → Option (Column × Nat × Text)
  | ' ' :: s => measure ⟨column.wide + 1, column.narrow + 1⟩ kept skipped s
  | '\t' :: s => measure ⟨(column.wide / 8 + 1) * 8, column.narrow + 1⟩ kept skipped s
  | '\x0c' :: s => measure {} kept skipped s
  | '\\' :: '\n' :: c :: s => measure column (if kept = 0 then column.wide else kept) (skipped + 1) (c :: s)
  | '\\' :: _ => none
  | s => some (if kept = 0 then column else ⟨kept, kept⟩, skipped, s)

/-- How the indentation of a line changes the open steps, outermost last. -/
inductive Step where
  | same
  | deeper
  | shallower (count : Nat)
  | wrong
  deriving DecidableEq, Repr

/-- Compares the column of a line with the open steps of indentation, innermost first. -/
def stepOf (steps : List Column) (c : Column) : Step :=
  let top := steps.headD {}
  if c.wide = top.wide then (if c.narrow = top.narrow then .same else .wrong)
  else if c.wide > top.wide then
    (if steps.length ≥ indentLimit - 1 ∨ c.narrow ≤ top.narrow then .wrong else .deeper)
  else
    let closed := steps.takeWhile (c.wide < ·.wide)
    let below := (steps.drop closed.length).headD {}
    if below.wide = c.wide ∧ below.narrow = c.narrow then .shallower closed.length else .wrong

/-- Open brackets with their lines, innermost first. -/
abbrev Brackets := List (Char × Nat)

/-- The bracket that an opening one waits for. -/
def closing? : Char → Option Char
  | '(' => some ')'
  | '[' => some ']'
  | '{' => some '}'
  | _ => none

/-- What an operator does to the open brackets; `none` if it closes the wrong one or opens too many. -/
def bracketed (op : Text) (line : Nat) (open_ : Brackets) : Option Brackets :=
  match op with
  | [c] =>
    match closing? c with
    | some closer => if open_.length ≥ bracketLimit then none else some ((closer, line) :: open_)
    | none =>
      if c = ')' ∨ c = ']' ∨ c = '}' then
        match open_ with
        | [] => none
        | (closer, _) :: outer => if closer = c then some outer else none
      else some open_
  | _ => some open_

/-- The number of line breaks in what a reader consumed of a text. -/
def passed (s rest : Text) : Nat := Text.newlines (s.take (s.length - rest.length))

/-- Puts tokens before a stream. -/
def Tokens.prepend (ts : List Token) (r : Tokens) : Tokens := { r with tokens := ts ++ r.tokens }

/-- The tokens at the end of a text: every open step of indentation ends. -/
def ending (line : Nat) (steps : List Column) : Tokens :=
  ⟨List.replicate steps.length ⟨.dedent, line⟩ ++ [⟨.finish, line⟩], none⟩

/-- Cuts a text, given its line, whether a line begins here, the open brackets and steps of indentation.  Every round
consumes a character, so the length of the text bounds their number. -/
def cut : Nat → Nat → Bool → Brackets → List Column → Text → Tokens
  | 0, line, _, _, _, _ => ⟨[], some ⟨line, false, none⟩⟩
  | rounds + 1, line, true, brackets, steps, s =>
    match measure {} 0 0 s with
    | none => ⟨[], some ⟨line, false, none⟩⟩
    | some (_, _, []) => ending (if s.isEmpty then line - 1 else line) steps
    | some (column, skipped, c :: rest) =>
      let line := line + skipped
      if c = '\n' then cut rounds (line + 1) true brackets steps rest
      else if c = '#' then
        match rest.dropWhile (· ≠ '\n') with
        | [] => ending line steps
        | rest => cut rounds line true brackets steps rest
      else match stepOf steps column with
        | .wrong => ⟨[], some ⟨line, false, none⟩⟩
        | .same => cut rounds line false brackets steps (c :: rest)
        | .deeper => (cut rounds line false brackets (column :: steps) (c :: rest)).prepend [⟨.indent, line⟩]
        | .shallower count =>
          (cut rounds line false brackets (steps.drop count) (c :: rest)).prepend
            (List.replicate count ⟨.dedent, line⟩)
  | rounds + 1, line, false, brackets, steps, s =>
    match s with
    | [] =>
      match brackets with
      | [] => (ending line steps).prepend [⟨.newline, line⟩]
      | (_, opened) :: _ => ⟨[], some ⟨line, false, some opened⟩⟩
    | c :: rest =>
      if c = ' ' ∨ c = '\t' ∨ c = '\x0c' then cut rounds line false brackets steps rest
      else if c = '#' then cut rounds line false brackets steps (rest.dropWhile (· ≠ '\n'))
      else if c = '\n' then
        if brackets.isEmpty then (cut rounds (line + 1) true brackets steps rest).prepend [⟨.newline, line⟩]
        else cut rounds (line + 1) false brackets steps rest
      else if c = '\\' then
        match rest with
        | '\n' :: d :: rest => cut rounds (line + 1) false brackets steps (d :: rest)
        | _ => ⟨[], some ⟨line, false, none⟩⟩
      else match literal? s with
        | some none => ⟨[], some ⟨line, true, none⟩⟩
        | some (some (lexeme, rest)) =>
          (cut rounds (line + passed s rest) false brackets steps rest).prepend [⟨lexeme, line⟩]
        | none =>
          if mayStartName c then
            let name := s.takeWhile mayContinueName
            if isIdentifier name then
              (cut rounds line false brackets steps (s.drop name.length)).prepend [⟨.name name, line⟩]
            else ⟨[], some ⟨line, true, none⟩⟩
          else if isDigit c || (c = '.' && (rest.head?.map isDigit).getD false) then
            match number? s with
            | none => ⟨[], some ⟨line, true, none⟩⟩
            | some (lexeme, rest) => (cut rounds line false brackets steps rest).prepend [⟨lexeme, line⟩]
          else if c.toNat < 32 ∨ c.toNat = 127 then ⟨[], some ⟨line, true, none⟩⟩
          else match operator? s with
            | none => ⟨[], some ⟨line, true, none⟩⟩
            | some (op, rest) =>
              match bracketed op line brackets with
              | none => ⟨[], some ⟨line, true, none⟩⟩
              | some brackets => (cut rounds line false brackets steps rest).prepend [⟨.op op, line⟩]

/-- A text with every line end of CR or CR LF as a line break. -/
def unifyBreaks : Text → Text
  | [] => []
  | '\r' :: '\n' :: s => '\n' :: unifyBreaks s
  | '\r' :: s => '\n' :: unifyBreaks s
  | c :: s => c :: unifyBreaks s

/-- The tokens of a script. -/
def tokens (s : Text) : Tokens :=
  let s := unifyBreaks s
  cut (2 * s.length + 2) 1 true [] [] s

end Stencil.Script
