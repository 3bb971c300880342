import Stencil.Error
import Stencil.Text.Blank

/-!
# Building a program

A program is a list of lines, each with the template line it came from.  Blocks are open one inside the other; a line is
indented by four spaces for each.  A block that is closed or continued before anything was put into it gets a line that
does nothing, since a block must not be empty.

An operation that fails leaves nothing behind: it returns an error in place of a builder.
-/

namespace Stencil.Program

/-- A line of a program and the template line it came from. -/
structure Line where
  text : Text
  source : Int
  deriving DecidableEq, Repr

/-- A block that is open: its kind, the directive that opened it and where, and whether it holds more than remarks. -/
structure Block where
  kind : Text
  directive : Text
  line : Int
  filled : Bool := false
  deriving DecidableEq, Repr

/-- A program under construction; the innermost block comes first. -/
structure Builder where
  template : Option Text := none
  lines : List Line := []
  blocks : List Block := []
  deriving DecidableEq, Repr

/-- The indentation of a block. -/
def indentation : Text := "    "

/-- The lines of program text: without margin and surrounding line breaks, and at least one. -/
def codeLines (code : Text) : List Text :=
  match Text.lines (Text.trim (· == '\n') (Text.dedent code)) with
  | [] => [[]]
  | lines => lines

/-- A line behind an indentation; a blank line is empty. -/
def indented (indent line : Text) : Text := if Text.blank line then [] else indent ++ line

/-- The code is a remark, which fills no block. -/
def isRemark (code : Text) : Bool := (Text.stripLeft code).head? == some '#'

namespace Builder

/-- The number of open blocks. -/
def depth (b : Builder) : Nat := b.blocks.length

/-- The indentation inside the open blocks. -/
def indent (b : Builder) : Text := (List.replicate b.depth indentation).flatten

/-- The innermost block filled, unless the code is a remark. -/
def fill (code : Text) : List Block → List Block
  | [] => []
  | block :: outer => (if isRemark code then block else { block with filled := true }) :: outer

/-- Adds program text that came from a template line. -/
def add (code : Text) (line : Int) (b : Builder) : Builder :=
  { b with
    lines := b.lines ++ (codeLines code).map fun part => ⟨indented b.indent part, line⟩
    blocks := fill code b.blocks }

/-- Adds several program texts of one template line. -/
def addAll (codes : List Text) (line : Int) (b : Builder) : Builder :=
  codes.foldl (fun b code => b.add code line) b

/-- An error on a line of the template. -/
def fail {α : Type} (b : Builder) (cause : Cause) (line : Int) : Except CompileError α :=
  .error { cause, template := b.template, line := some line }

/-- Adds a line that does nothing to a block that would be empty. -/
def pad (line : Int) (b : Builder) : Builder :=
  match b.blocks with
  | block :: _ => if block.filled then b else b.add "pass" line
  | [] => b

/-- Opens a block. -/
def openBlock (kind header directive : Text) (line : Int) (b : Builder) : Builder :=
  let b := b.add header line
  { b with blocks := ⟨kind, directive, line, false⟩ :: b.blocks }

/-- Goes on with the innermost block under a new header. -/
def middle (kinds : List Text) (header directive : Text) (line : Int) (b : Builder) : Except CompileError Builder :=
  match b.blocks with
  | [] => b.fail (.strayMiddle directive) line
  | block :: outer =>
    if block.kind ∈ kinds then
      let b := { b.pad line with blocks := outer }.add header line
      .ok { b with blocks := { block with filled := false } :: b.blocks }
    else b.fail (.strayMiddle directive) line

/-- Closes the innermost block. -/
def closeBlock (kind directive : Text) (line : Int) (b : Builder) : Except CompileError Builder :=
  match b.blocks with
  | [] => b.fail (.strayClose directive) line
  | block :: outer =>
    if block.kind = kind then .ok { b.pad line with blocks := outer }
    else b.fail (.mismatchedClose directive block.directive block.line) line

/-- Refuses more open blocks than a number, and names the innermost one; if none is open, none can be named. -/
def checkClosed (depth : Int) (place : Text) (b : Builder) : Except Error Unit :=
  match b.blocks with
  | [] => if depth < 0 then .error (.fault (.indexRange "list")) else .ok ()
  | block :: _ =>
    if (b.depth : Int) > depth then (b.fail (.openBlock block.directive place) block.line).mapError .compile
    else .ok ()

/-- The text of the program: every line with a line break. -/
def source (b : Builder) : Text := b.lines.flatMap fun line => line.text ++ ['\n']

/-- The template line of every line of the program. -/
def lineMap (b : Builder) : List Int := b.lines.map Line.source

end Builder
end Stencil.Program
