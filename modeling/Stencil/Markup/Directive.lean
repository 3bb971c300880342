import Stencil.Argument.Constant
import Stencil.Argument.Split
import Stencil.Filter.Pipeline
import Stencil.Markup.Name
import Stencil.Markup.Piece

/-!
# Directives and interpolations

A directive is a name together with the nodes it stands for.  Some take no arguments, some may take a group, some need
one: without a group they stay text, with a blank one they are an error.  Directives are read family by family, each
family in one pass over the text.

`@include('name', data)` prints another template at this place.  The name must be a literal, so that the templates which
a template depends on are known before it runs.

Two braces print an expression, escaped unless its last filter is safe; an `@` before them prints the braces themselves.
A brace with two exclamation marks prints an expression as it is.
-/

namespace Stencil.Markup

/-- How a directive on a line becomes nodes. -/
inductive Lowering where
  | bare (nodes : Int → List Node)
  | optional (nodes : Int → Option Text → Except Raised (List Node))
  | required (nodes : Int → Text → Except Raised (List Node))

/-- A directive. -/
structure Directive where
  name : Text
  lowering : Lowering

/-- A failure to expand a directive. -/
def expansion {α : Type} (directive detail : Text) : Except Raised α := .error (.ofCause (.expansion directive detail))

/-- What a directive becomes at a place, given the text behind its name. -/
def Directive.read (template : Text) (p : Place) (rest : Text) (d : Directive) : Verdict (List Node) :=
  match d.lowering with
  | .bare nodes => p.accept template d.name rest (.ok (nodes p.line))
  | .optional nodes =>
    match Argument.after .optional rest with
    | .error fault => p.accept template d.name rest (.error (.scan fault.message))
    | .ok (args, after) => p.accept template d.name after (nodes p.line args)
  | .required nodes =>
    match Argument.after .required rest with
    | .error fault => p.accept template d.name rest (.error (.scan fault.message))
    | .ok (none, _) => .declined (p.rest.length - rest.length)
    | .ok (some args, after) =>
      p.accept template d.name after
        (if Text.blank args then expansion d.name "missing arguments" else nodes p.line args)

/-- The rule that reads a family of directives. -/
def family (template : Text) (directives : List Directive) : Rule (List Node) := fun p =>
  match p.rest with
  | '@' :: _ =>
    match directiveAt? (byLength (directives.map Directive.name)) p.previous p.rest with
    | none => none
    | some (name, rest) => (directives.find? (·.name = name)).map (Directive.read template p rest)
  | _ => none

/-! ## Includes -/

/-- An include as it stands in a template: the included name, its line and the markup shown in errors. -/
structure Inclusion where
  name : Text
  line : Int
  excerpt : Text
  deriving DecidableEq, Repr

/-- What an include becomes. -/
def inclusionOf (p : Place) (args : Text) : Except Raised (Inclusion × List Node) := do
  let parts := Argument.arguments (some args)
  match ← (Argument.literal (parts.headD [])).mapError .fault with
  | none => expansion "include" "template name must be a string literal"
  | some name =>
    let data : Text := (parts[1]?).getD "\x7b\x7d"
    return (⟨name, p.line, p.excerpt⟩,
      [.echo p.line ("_view.make_partial(" ++ Text.quoted name ++ ", " ++ data ++ ")") false])

/-- The rule that reads includes. -/
def inclusion (template : Text) : Rule (Inclusion × List Node) := fun p =>
  match directiveAt? ["include"] p.previous p.rest with
  | none => none
  | some (name, rest) =>
    match Argument.after .required rest with
    | .error fault => some (p.accept template name rest (.error (.scan fault.message)))
    | .ok (none, _) => some (.declined (p.rest.length - rest.length))
    | .ok (some args, after) =>
      some (p.accept template name after
        (if Text.blank args then expansion name "missing arguments" else inclusionOf p args))

/-! ## Interpolations -/

/-- The inside of an interpolation at the head of a text, and the text behind it. -/
def delimited? (opener closer s : Text) : Option (Text × Text) :=
  match Text.after? opener s with
  | none => none
  | some inside => Text.cut? closer inside

/-- An interpolation as a node. -/
def echoNode (registry : Registry) (line : Int) (inside : Text) : Except Raised (List Node) := do
  let (expr, safe) ← Filter.pipeline registry (Text.strip inside)
  return [.echo line expr !safe]

/-- The rule that reads interpolations in two braces. -/
def echo (registry : Registry) (template : Text) : Rule (List Node) := fun p =>
  match p.rest with
  | '@' :: s =>
    (delimited? "\x7b\x7b" "\x7d\x7d" s).map fun (_, after) =>
      .accepted (p.rest.length - after.length) (.ok [.verbatim p.line (s.take (s.length - after.length))])
  | s =>
    (delimited? "\x7b\x7b" "\x7d\x7d" s).map fun (inside, after) =>
      p.accept template [] after (echoNode registry p.line inside)

/-- A raw interpolation as a node. -/
def rawEchoNode (line : Int) (inside : Text) : Except Raised (List Node) :=
  let expr := Text.strip inside
  if expr.isEmpty then .error (.ofCause .emptyRawEcho) else .ok [.echo line expr false]

/-- The rule that reads raw interpolations. -/
def rawEcho (template : Text) : Rule (List Node) := fun p =>
  (delimited? "\x7b!!" "!!\x7d" p.rest).map fun (inside, after) =>
    p.accept template [] after (rawEchoNode p.line inside)

end Stencil.Markup
