import Stencil.Argument.Constant
import Stencil.Argument.Split
import Stencil.Markup.Piece
import Stencil.Markup.Name

/-!
# Structure

`@extends`, `@section … @endsection` (or `@show`), the inline `@section(name, value)` and `@yield` give a page its
shape.  Reading them groups the nodes between the marks of a section into one node; sections do not nest.

* `mark` is the rule that reads one structural directive;
* `Event` is a node or a mark in document order;
* `Outline` is the state of the grouping: the finished nodes and the section that is open.
-/

namespace Stencil.Markup

/-- A structural directive. -/
inductive Mark where
  | extends (layout : Text)
  | yield (name default : Text)
  | opening (name label : Text)
  | inline (name label value : Text)
  | closing (directive : Text)
  deriving DecidableEq, Repr

/-- The structural directives, longer names first. -/
def structuralNames : List Text := byLength ["extends", "section", "endsection", "show", "yield"]

/-- A name argument as an expression and as shown in errors: a literal stands for its text, all else for itself. -/
def nameArgument (s : Text) : Except Raised (Text × Text) := do
  match ← (Argument.literal s).mapError .fault with
  | some text => return (Text.quoted text, text)
  | none => return (s, s)

/-- A default: a literal in its quoted form, or the expression as written. -/
def defaultArgument : List Text → Except Raised Text
  | [] => .ok "''"
  | s :: _ => do return ((← (Argument.literal s).mapError .fault).map Text.quoted).getD s

/-- Without one line break at the head. -/
def swallowBreak : Text → Text
  | '\r' :: '\n' :: s => s
  | '\n' :: s => s
  | s => s

/-- The mark of a directive with arguments. -/
def markOf (directive : Text) : List Text → Except Raised Mark
  | [] => .error (.ofCause (.expansion directive "missing arguments"))
  | first :: more =>
    if directive = "extends" then .ok (.extends first)
    else do
      let (name, label) ← nameArgument first
      if directive = "yield" then return .yield name (← defaultArgument more)
      else match more with
        | [] => return .opening name label
        | value :: _ => return .inline name label value

/-- The rule that reads structural directives.  A directive that needs arguments and has no group stays text. -/
def mark (template : Text) : Rule (Mark × Text) := fun p =>
  match directiveAt? structuralNames p.previous p.rest with
  | none => none
  | some (name, rest) =>
    let withExcerpt := Except.map fun m => (m, p.excerpt)
    if name = "endsection" ∨ name = "show" then
      some (p.accept template name (swallowBreak rest) (withExcerpt (.ok (.closing name))))
    else match Argument.after .required rest with
      | .error fault => some (p.accept template name rest (.error (.scan fault.message)))
      | .ok (none, _) => some (.declined (p.rest.length - rest.length))
      | .ok (some inner, after) =>
        let after := if name = "yield" then after else swallowBreak after
        some (p.accept template name after (withExcerpt (markOf name (Argument.arguments (some inner)))))

/-- A node, or a structural directive with its line and excerpt, in document order. -/
inductive Event where
  | node (n : Node)
  | mark (line : Int) (m : Mark) (excerpt : Text)
  | failure (e : Error)

/-- Declined markup begins a text of its own. -/
def absorbAfterDeclined {α : Type} : List (Piece α) → List (Piece α)
  | .declined line t :: .plain _ u :: ps => .plain line (t ++ u) :: absorbAfterDeclined ps
  | .declined line t :: ps => .plain line t :: absorbAfterDeclined ps
  | p :: ps => p :: absorbAfterDeclined ps
  | [] => []

/-- The event of a piece. -/
def eventOf : Piece (Mark × Text) → Event
  | .plain line t | .declined line t => .node (.text line t)
  | .markup line _ (.ok (m, excerpt)) => .mark line m excerpt
  | .markup _ _ (.error e) => .failure e

/-- The events of a node. -/
def eventsOf (template : Text) : Node → List Event
  | .text line s => (absorbAfterDeclined (pieces (mark template) line s)).map eventOf
  | node => [.node node]

/-- A section that is open: its line, the expression for its name, its label and what it holds so far. -/
structure OpenSection where
  line : Int
  name : Text
  label : Text
  body : List Node

/-- The finished nodes and the open section. -/
structure Outline where
  done : List Node := []
  current : Option OpenSection := none

namespace Outline

/-- Adds a node where the page is being written: to the open section, or behind the finished nodes. -/
def add (node : Node) (o : Outline) : Outline :=
  match o.current with
  | none => { o with done := o.done ++ [node] }
  | some s => { o with current := some { s with body := s.body ++ [node] } }

/-- Adds nodes outside any section. -/
def addDone (nodes : List Node) (o : Outline) : Outline := { o with done := o.done ++ nodes }

/-- The error of a section that starts inside another. -/
def nested (template : Text) (line : Int) (excerpt : Text) (outer : OpenSection) (label : Text) : Error :=
  .compile ⟨.nestedSection outer.label label, some template, some line, some excerpt⟩

/-- Takes in one structural directive. -/
def take (template : Text) (line : Int) (excerpt : Text) (m : Mark) (o : Outline) : Except Error Outline :=
  match m with
  | .extends layout => .ok (o.add (.statement line ("_view.extends_layout(" ++ layout ++ ")")))
  | .yield name default =>
    .ok (o.add (.echo line ("_view.yield_section(" ++ name ++ ", " ++ default ++ ")") false))
  | .opening name label =>
    match o.current with
    | some outer => .error (nested template line excerpt outer label)
    | none => .ok { o with current := some ⟨line, name, label, []⟩ }
  | .inline name label value =>
    match o.current with
    | some outer => .error (nested template line excerpt outer label)
    | none => .ok (o.addDone [.statement line ("_view.set_section(" ++ name ++ ", _e(" ++ value ++ "))")])
  | .closing directive =>
    match o.current with
    | none => .ok (o.addDone [.comment line ("@" ++ directive ++ " without an open section ignored")])
    | some s =>
      let shown := if directive = "show" then [.echo line ("_view.yield_section(" ++ s.name ++ ")") false] else []
      .ok { o.addDone (.captured s.line s.name s.label s.body :: shown) with current := none }

/-- Takes in one event. -/
def step (template : Text) (o : Outline) : Event → Except Error Outline
  | .node n => .ok (o.add n)
  | .mark line m excerpt => o.take template line excerpt m
  | .failure e => .error e

/-- The nodes of a finished outline; a section still open is an error. -/
def finish (template : Text) (o : Outline) : Except Error (List Node) :=
  match o.current with
  | none => .ok o.done
  | some s => .error (.compile ⟨.openSection s.label, some template, some s.line, none⟩)

end Outline

/-- Groups the nodes of a template into sections and lowers the other structural directives. -/
def structure? (template : Text) (nodes : List Node) : Except Error (List Node) := do
  (← (nodes.flatMap (eventsOf template)).foldlM (Outline.step template) {}).finish template

end Stencil.Markup
