import Stencil.Error
import Stencil.Script.Grammar
import Stencil.Script.Token
import Stencil.Text.Blank

/-!
# Literals and constants

An argument that is a single text literal has a value that is known before the program runs: one or more adjacent
literals, possibly in parentheses.  Any other argument is an expression.

Whether an argument is a literal is found out by reading it as an expression and working out its value, as far as it is
a constant: a literal value, a display of constants, or a sum of a real and an imaginary number.  What is no constant is
no literal either.  Working out a constant can fail: what can be changed is no member of a set and no key of a mapping,
and a whole number can be too large to be added to an imaginary one.
-/

namespace Stencil.Argument

open Script (Expr Lexeme Phrase Token)

/-- Adjacent literals at the head of a list of tokens, joined, and the tokens after them. -/
def adjacent : List Token → Text × List Token
  | ⟨.str s, _⟩ :: ts => let (t, rest) := adjacent ts; (s ++ t, rest)
  | ts => ([], ts)

/-- A literal in any number of parentheses at the head of a list of tokens, and the tokens after it. -/
def wrapped : List Token → Option (Text × List Token)
  | [] => none
  | t :: ts =>
    match t.lexeme with
    | .str s => let (more, rest) := adjacent ts; some (s ++ more, rest)
    | .op ['('] =>
      match wrapped ts with
      | some (s, ⟨.op [')'], _⟩ :: rest) => some (s, rest)
      | _ => none
    | _ => none

/-- Nothing but ends of lines up to the end. -/
def finished : List Token → Bool
  | [⟨.finish, _⟩] => true
  | ⟨.newline, _⟩ :: ts => finished ts
  | _ => false

/-- The text that an argument stands for, if it is a single literal. -/
def literal? (s : Text) : Option Text :=
  let s := Text.strip s
  if '\x00' ∈ s then none
  else
    let found := Script.tokens s
    if found.slip.isSome then none
    else match wrapped found.tokens with
      | some (text, rest) => if finished rest then some text else none
      | none => none

/-! ## Constants -/

/-- The value of a real number, perhaps with a sign; of a whole one the number itself. -/
def real? : Expr → Option (Option Int)
  | .const (.int n) => some (some n)
  | .const (.float _) => some none
  | .unary .plus (.const (.int n)) => some (some n)
  | .unary .minus (.const (.int n)) => some (some (-n))
  | .unary .plus (.const (.float _)) | .unary .minus (.const (.float _)) => some none
  | _ => none

/-- Adds an imaginary number to a real one. -/
def addImaginary (whole : Option Int) : Except Stencil.Fault Unit :=
  if whole.any fun n => (Float.ofInt n).isInf then .error (.overflow "int too large to convert to float") else .ok ()

/-- Refuses a constant of a kind that cannot be a key. -/
def checkKind : Option Text → Except (Option Stencil.Fault) Unit
  | none => .ok ()
  | some kind => .error (some (.wrongType ("unhashable type: " ++ Text.quoted kind)))

mutual

/-- What works out a constant: its kind, if it cannot be a key; the fault it fails with, or none if the expression is
no constant. -/
def constant : Expr → Except (Option Stencil.Fault) (Option Text)
  | .const _ | .inert _ => .ok none
  | .tuple es => constants es
  | .list es => do
    let _ ← constants es
    return some "list"
  | .set es => do
    members es
    return some "set"
  | .dict entries => do
    fields entries
    return some "dict"
  | .call (.name f) [] [] => if f = "set" then .ok (some "set") else .error none
  | .unary .plus (.inert true) | .unary .minus (.inert true) => .ok none
  | .binary .add a (.inert true) | .binary .sub a (.inert true) =>
    match real? a with
    | none => .error none
    | some whole => do
      (addImaginary whole).mapError some
      return none
  | e => if (real? e).isSome then .ok none else .error none

/-- Works out constants one after the other; the first kind among them that cannot be a key. -/
def constants : List Expr → Except (Option Stencil.Fault) (Option Text)
  | [] => .ok none
  | e :: es => do
    let kind ← constant e
    let more ← constants es
    return kind <|> more

/-- Works out the members of a set. -/
def members : List Expr → Except (Option Stencil.Fault) Unit
  | [] => .ok ()
  | e :: es => do
    checkKind (← constant e)
    members es

/-- Works out the entries of a mapping. -/
def fields : List (Option Expr × Expr) → Except (Option Stencil.Fault) Unit
  | [] => .ok ()
  | (none, _) :: _ => .error none
  | (some key, value) :: entries => do
    let kind ← constant key
    let _ ← constant value
    checkKind kind
    fields entries

end

/-- Expressions with commas between them, up to the end of the line. -/
def expressions (depth : Nat) : Nat → Phrase (List Expr)
  | 0 => Phrase.fail
  | n + 1 => do
    let e ← Script.expression depth
    if ← Phrase.takeOp "," then
      match ← Phrase.peek? with
      | some .newline | some .finish => return [e]
      | _ => return e :: (← expressions depth n)
    else return [e]

/-- The expressions that a text consists of. -/
def expressions? (s : Text) : Option (List Expr) :=
  if '\x00' ∈ s then none
  else
    let found := Script.tokens s
    if found.slip.isSome then none
    else match expressions (Script.depthFor found.tokens.length) found.tokens.length found.tokens with
      | .ok (es, rest) => if finished rest then some es else none
      | .error _ => none

/-- The fault with which working out a text as a constant fails. -/
def fault? (s : Text) : Option Stencil.Fault :=
  match (expressions? s).map constants with
  | some (.error f) => f
  | _ => none

/-- The text that an argument stands for, if it is a single literal. -/
def literal (s : Text) : Except Stencil.Fault (Option Text) :=
  match literal? s with
  | some text => .ok (some text)
  | none => (fault? (Text.strip s)).elim (.ok none) .error

end Stencil.Argument
