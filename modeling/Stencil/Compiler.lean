import Stencil.Log
import Stencil.Markup.Reading
import Stencil.Program.Emit
import Stencil.Script.Check

/-!
# Compiling templates

A template is compiled together with every template it includes, so that a cycle of includes is found before anything is
rendered.  Results are remembered under source and name; a remembered template is not compiled again, but the templates
it includes are looked at again, since their sources may have changed.

* `Compiler` — what stays the same: registry, loader and the bound on nesting.
* `Memory` — what changes: remembered results, the templates being compiled, the names that the last template compiled
  includes, and the log.
-/

namespace Stencil

/-- Finds the source of a template, with the reports of doing so. -/
abbrev Loader := Text → Except Error (Text × Log)

/-- A compiler; without a loader includes are recorded but not followed. -/
structure Compiler where
  registry : Registry
  loader : Option Loader := none
  maxDepth : Int := 50

namespace Compiler

/-- The program of a template and the names it includes. -/
structure Compiled where
  program : Text
  dependencies : List Text
  deriving DecidableEq, Repr

/-- What a compiler remembers. -/
structure Memory where
  /-- Results by source and name, written one behind the other. -/
  results : Table Compiled := []
  /-- The templates being compiled, outermost first. -/
  stack : List Text := []
  /-- The names that the last completed template includes. -/
  dependencies : List Text := []
  log : Log := []
  deriving Repr

/-- A step of compiling: it changes the memory even if it fails. -/
abbrev Compile := ExceptT Error (StateM Memory)

/-- Reports something. -/
def report (level : Level) (message : Text) : Compile Unit :=
  modify fun m => { m with log := m.log ++ [{ level, message }] }

/-- The key under which a result is remembered. -/
def key (source name : Text) : Text := source ++ name

/-- Does something while a template is being compiled, and takes the template off the stack however that ends. -/
def whileOpen {α : Type} (name : Text) (act : Compile α) : Compile α := ExceptT.mk fun m =>
  let (r, m) := act.run { m with stack := m.stack ++ [name] }
  (r, { m with stack := m.stack.dropLast })

/-- Fills in the place of an include where an error from the included template does not know its own. -/
def located {α : Type} (template : Text) (i : Markup.Inclusion) (act : Compile α) : Compile α :=
  tryCatch act fun
    | .compile e => throw (.compile ((e.excerpted i.excerpt).locate (some template) (some i.line)))
    | e => throw e

/-- Refuses a program that cannot be run, naming the template line that the mistake came from. -/
def checkProgram (template : Text) (b : Program.Builder) : Except Error Unit :=
  match Script.parse b.source with
  | .ok _ => .ok ()
  | .error .zero => .error (.fault (.wrongValue "source code string cannot contain null bytes"))
  | .error (.line n) =>
    .error (.compile {
      cause := .invalidProgram
      template := some template
      line := if n = 0 then none else b.lineMap[n - 1]? })

/-- Compiles a source afresh. -/
def translate (c : Compiler) (inner : Text → Compile Unit) (source name : Text) : Compile Compiled := do
  report .debug ("Compiling template " ++ name)
  let reading := Markup.read c.registry name source
  reading.inclusions.forM fun i => located name i (inner i.name)
  let b ← (Program.generate (some name) (← reading.nodes) : Except Error Program.Builder)
  checkProgram name b
  return { program := b.source, dependencies := reading.dependencies }

/-- Compiles a source, or looks at the includes of a remembered result again. -/
def remembered (c : Compiler) (inner : Text → Compile Unit) (source name : Text) : Compile Compiled := do
  match (← get).results.get? (key source name) with
  | some found =>
    report .debug ("Compilation cache hit for " ++ name)
    found.dependencies.forM inner
    return found
  | none =>
    let made ← translate c inner source name
    modify fun m => { m with results := m.results.put (key source name) made }
    return made

/-- Loads an included template and compiles it in a given way; without a loader nothing is followed. -/
def follow (c : Compiler) (next : Text → Text → Compile Text) (name : Text) : Compile Unit := do
  match c.loader with
  | none => return
  | some load =>
    let (source, log) ← (load name : Except Error (Text × Log))
    modify fun m => { m with log := m.log ++ log }
    let _ ← next source name

/-- Refuses a template that is being compiled already. -/
def checkClosed (name : Text) : Compile Unit := do
  let stack := (← get).stack
  if name ∈ stack then throw (.ofCause (.cycle (stack ++ [name])))

/-- Compiles a template while `levels` more templates may be opened. -/
def compileAt (c : Compiler) : Nat → Text → Text → Compile Text
  | 0, _, name => do
    checkClosed name
    throw (.compile { cause := .depth c.maxDepth, template := some name })
  | levels + 1, source, name => do
    checkClosed name
    let compiled ← whileOpen name (remembered c (follow c (compileAt c levels)) source name)
    modify fun m => { m with dependencies := compiled.dependencies }
    return compiled.program

/-- Compiles a template. -/
def compile (c : Compiler) (source name : Text) : Compile Text := do
  compileAt c (c.maxDepth - (← get).stack.length).toNat source name

/-- Forgets every result. -/
def Memory.clear (m : Memory) : Memory := { m with results := [] }

end Compiler
end Stencil
