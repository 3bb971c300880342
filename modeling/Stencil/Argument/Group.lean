import Stencil.Text.Quoted

/-!
# Argument groups

A directive takes its arguments in a *group*: a parenthesis, items, and the closing parenthesis.  An item is a literal
in one of three quotes, a bracketed sequence closed by the bracket of its own kind, or any other single character.
`group?` reads the group at the head of a text and says what stands inside it and what follows it.  Inside a literal a
backslash takes the next character with it.
-/

namespace Stencil.Argument

/-- Where a reader of arguments stands: outside literals, inside one, or behind a backslash inside one. -/
inductive Mode where
  | outside
  | inside (quote : Char)
  | escaped (quote : Char)
  deriving DecidableEq, Repr

/-- Why no group could be read. -/
inductive Fault where
  | openLiteral
  | noGroup
  | unexpected (closer : Char)
  | unbalanced
  deriving DecidableEq, Repr

/-- The wording of a fault. -/
def Fault.message : Fault → Text
  | .openLiteral => "unterminated string literal"
  | .noGroup => "expected '('"
  | .unexpected c => "unexpected " ++ Text.quoted [c]
  | .unbalanced => "unbalanced parentheses"

/-- The three quotes. -/
def isQuote (c : Char) : Bool := c == '\'' || c == '"' || c == '`'

/-- The bracket that closes an opening one. -/
def closerOf? : Char → Option Char
  | '(' => some ')'
  | '[' => some ']'
  | '{' => some '}'
  | _ => none

/-- A closing bracket. -/
def isCloser (c : Char) : Bool := c == ')' || c == ']' || c == '}'

/-- Inside a literal: what one character does to the mode. -/
def Mode.next (quote c : Char) : Mode :=
  if c = '\\' then .escaped quote else if c = quote then .outside else .inside quote

/-- Puts a character before the first component of a result. -/
def before {ε α : Type} (c : Char) : Except ε (Text × α) → Except ε (Text × α) :=
  Except.map fun (inner, rest) => (c :: inner, rest)

/-- Reads up to the bracket that closes the outermost of the open ones, innermost first. -/
def items : Mode → List Char → Text → Except Fault (Text × Text)
  | .outside, _, [] => .error .unbalanced
  | _, _, [] => .error .openLiteral
  | .escaped q, closers, c :: s => before c (items (.inside q) closers s)
  | .inside q, closers, c :: s => before c (items (Mode.next q c) closers s)
  | .outside, closers, c :: s =>
    if isQuote c then before c (items (.inside c) closers s)
    else match closerOf? c with
      | some closer => before c (items .outside (closer :: closers) s)
      | none =>
        if isCloser c then
          match closers with
          | [] => .error (.unexpected c)
          | closer :: outer =>
            if c ≠ closer then .error (.unexpected c)
            else if outer.isEmpty then .ok ([], s)
            else before c (items .outside outer s)
        else before c (items .outside closers s)

/-- The inside of the group at the head of a text, and the text after it. -/
def group? : Text → Except Fault (Text × Text)
  | '(' :: s => items .outside [')'] s
  | _ => .error .noGroup

/-- How a directive takes arguments. -/
inductive Use where
  | required
  | optional
  | bare
  deriving DecidableEq, Repr

/-- A space or a tab, the only characters allowed between a name and its group. -/
def isGap (c : Char) : Bool := c == ' ' || c == '\t'

/-- The optional group after a directive's name, and the text after it; without a group nothing is consumed. -/
def after (use : Use) (s : Text) : Except Fault (Option Text × Text) :=
  if use = .bare then .ok (none, s)
  else match s.dropWhile isGap with
    | '(' :: rest => (group? ('(' :: rest)).map fun (inner, rest) => (some inner, rest)
    | _ => .ok (none, s)

end Stencil.Argument
