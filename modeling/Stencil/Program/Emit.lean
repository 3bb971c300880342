import Stencil.Node
import Stencil.Program.Builder

/-!
# From nodes to a program

Text and verbatim nodes that stand side by side become one line that prints them; every other node becomes the lines it
says.  What stands in a section is emitted between its start and its end and must close every block it opens.
-/

namespace Stencil.Program

/-- Literal text that waits to be printed, and the line of its first node. -/
structure Pending where
  text : Text := []
  line : Int := 0
  started : Bool := false
  deriving DecidableEq, Repr

/-- More literal text. -/
def Pending.push (line : Int) (text : Text) (p : Pending) : Pending :=
  if p.started then { p with text := p.text ++ text } else ⟨text, line, true⟩

/-- Prints what waits. -/
def flush (p : Pending) (b : Builder) : Builder :=
  if p.text.isEmpty then b else b.add ("_echo(" ++ Text.quoted p.text ++ ")") p.line

/-- The expression that prints a value. -/
def echoCode (expr : Text) (escape : Bool) : Text :=
  if escape then "_echo(_e(" ++ expr ++ "))" else "_echo(" ++ expr ++ ")"

mutual

/-- Emits one node behind pending text. -/
def emitNode (p : Pending) (b : Builder) : Node → Except Error (Pending × Builder)
  | .text line s | .verbatim line s => .ok (p.push line s, b)
  | .echo line expr escape => .ok ({}, (flush p b).add (echoCode expr escape) line)
  | .statement line code => .ok ({}, (flush p b).add code line)
  | .comment line s => .ok ({}, (flush p b).add ("# " ++ s) line)
  | .openBlock line kind header directive prologue =>
    .ok ({}, ((flush p b).openBlock kind header directive line).addAll prologue line)
  | .middle line kinds header directive =>
    (((flush p b).middle kinds header directive line).mapError .compile).map ({}, ·)
  | .closeBlock line kind directive epilogue =>
    (((flush p b).closeBlock kind directive line).mapError .compile).map fun b => ({}, b.addAll epilogue line)
  | .captured line name label body => do
    let b := (flush p b).add ("_view.start_section(" ++ name ++ ")") line
    let (p, inner) ← emitNodes {} b body
    let inner := flush p inner
    inner.checkClosed b.depth (" inside section '" ++ label ++ "'")
    return ({}, inner.add "_view.end_section()" line)
  | .empty _ => .error (.fault (.wrongType "Unknown node type: Node"))

/-- Emits nodes one after the other; the last literal text still waits. -/
def emitNodes (p : Pending) (b : Builder) : List Node → Except Error (Pending × Builder)
  | [] => .ok (p, b)
  | node :: nodes => do
    let (p, b) ← emitNode p b node
    emitNodes p b nodes

end

/-- Emits nodes into a builder. -/
def emit (nodes : List Node) (b : Builder) : Except Error Builder := do
  let (p, b) ← emitNodes {} b nodes
  return flush p b

/-- The program of a template. -/
def generate (template : Option Text) (nodes : List Node) : Except Error Builder := do
  let b ← emit nodes { template }
  b.checkClosed 0 []
  return b

end Stencil.Program
