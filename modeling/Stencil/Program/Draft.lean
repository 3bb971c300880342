import Stencil.Program.Builder

/-!
# Drafts

A draft is a program under construction that is worked on in place: the lines and the template lines they came from are
two lists, every operation is a sequence of changes, and what was changed before an operation failed stays changed.  A
call asks for one of the operations; the next call finds the draft as the last one left it.
-/

namespace Stencil.Program

/-- A program that is worked on in place; the innermost block comes first. -/
structure Draft where
  template : Option Text := none
  lines : List Text := []
  lineMap : List Int := []
  blocks : List Block := []
  deriving DecidableEq, Repr

/-- Work on a draft. -/
abbrev Drafting := ExceptT Error (StateM Draft)

namespace Draft

/-- The number of open blocks. -/
def depth (d : Draft) : Nat := d.blocks.length

/-- The text of the program: the lines joined, and a line break at the end. -/
def source (d : Draft) : Text := if d.lines.isEmpty then [] else Text.join "\n" d.lines ++ "\n"

/-- Appends a line. -/
def append (line : Int) (part : Text) : Drafting Unit := do
  modify fun d => { d with lines := d.lines ++ [part] }
  modify fun d => { d with lineMap := d.lineMap ++ [line] }

/-- Adds program text that came from a template line. -/
def add (code : Text) (line : Int) : Drafting Unit := do
  let indent := (List.replicate (← get).depth indentation).flatten
  (codeLines code).forM fun part => append line (indented indent part)
  modify fun d => { d with blocks := Builder.fill code d.blocks }

/-- Fails on a line of the template. -/
def fail (cause : Cause) (line : Int) : Drafting Unit := do
  throw (.compile { cause, template := (← get).template, line := some line })

/-- Opens a block. -/
def openBlock (kind header directive : Text) (line : Int) : Drafting Unit := do
  add header line
  modify fun d => { d with blocks := ⟨kind, directive, line, false⟩ :: d.blocks }

/-- Adds a line that does nothing to the innermost block if it would be empty. -/
def pad (block : Block) (line : Int) : Drafting Unit := if block.filled then pure () else add "pass" line

/-- Removes the innermost block. -/
def pop : Drafting Unit := modify fun d => { d with blocks := d.blocks.tail }

/-- Goes on with the innermost block under a new header. -/
def middle (kinds : List Text) (header directive : Text) (line : Int) : Drafting Unit := do
  match (← get).blocks with
  | [] => fail (.strayMiddle directive) line
  | block :: _ =>
    if block.kind ∉ kinds then fail (.strayMiddle directive) line
    else
      pad block line
      pop
      add header line
      modify fun d => { d with blocks := { block with filled := false } :: d.blocks }

/-- Closes the innermost block. -/
def closeBlock (kind directive : Text) (line : Int) : Drafting Unit := do
  match (← get).blocks with
  | [] => fail (.strayClose directive) line
  | block :: _ =>
    if block.kind ≠ kind then fail (.mismatchedClose directive block.directive block.line) line
    else
      pad block line
      pop

/-- Refuses more open blocks than a number, and names the innermost one; if none is open, none can be named. -/
def checkClosed (depth : Int) (place : Text) : Drafting Unit := do
  let d ← get
  if (d.depth : Int) > depth then
    match d.blocks with
    | [] => throw (.fault (.indexRange "list"))
    | block :: _ => fail (.openBlock block.directive place) block.line

end Draft

/-- A call of one of the operations. -/
inductive Call where
  | add (code : Text) (line : Int)
  | openBlock (kind header directive : Text) (line : Int)
  | middle (kinds : List Text) (header directive : Text) (line : Int)
  | closeBlock (kind directive : Text) (line : Int)
  | checkClosed (depth : Int) (place : Text)
  deriving DecidableEq, Repr

namespace Call

/-- Does what a call asks for. -/
def perform : Call → Drafting Unit
  | add code line => Draft.add code line
  | openBlock kind header directive line => Draft.openBlock kind header directive line
  | middle kinds header directive line => Draft.middle kinds header directive line
  | closeBlock kind directive line => Draft.closeBlock kind directive line
  | checkClosed depth place => Draft.checkClosed depth place

/-- The template line that a call is for. -/
def line? : Call → Option Int
  | add _ line | openBlock _ _ _ line | middle _ _ _ line | closeBlock _ _ line => some line
  | checkClosed _ _ => none

end Call
end Stencil.Program
