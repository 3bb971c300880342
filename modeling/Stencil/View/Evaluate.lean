import Stencil.View.Script

/-!
# Evaluating templates

Evaluating a template opens a capture for its output, runs its program, and gives what the capture collected.  If the
program fails, all captures and loops that it opened are closed; a failure that is no error of the engine is told as one
of the template.

Templates evaluate other templates and render components, to any depth that the settings allow: `innerAt` is what a
template may use when so many levels are left.
-/

namespace Stencil

/-- The names that every program finds bound, whatever the data says. -/
def reservedNames : Table Value := [
  ("_view", .view), ("view", .view), ("_echo", .method .view "_echo"), ("_e", .helper "e"), ("_rt", .helpers),
  ("_filters", .registered)]

/-- Binds a name of the data unless it is bound already. -/
def bindEntry (bound : Table Value) (entry : Value × Value) : Table Value :=
  match entry.1.text? with
  | some name => if bound.has name then bound else bound ++ [(name, entry.2)]
  | none => bound

/-- The name under which data put something in the place of the names that every program knows. -/
def knownName : Text := "__builtins__"

/-- The scope of a template with data. -/
def scopeOf (data : List (Value × Value)) : Scope :=
  let bound := data.foldl bindEntry reservedNames
  { bound, known := bound.get? knownName }

/-- The error of a template that ran into an error. -/
def Error.inTemplate (name : Text) : Error → Error
  | .fault f => .evaluation name f
  | e => e

namespace Run

/-- Keeps the outer ones of a list that has grown at its head. -/
def outer {α : Type} (count : Nat) (xs : List α) : List α := xs.drop (xs.length - count)

/-- Runs the program of a template over its data. -/
def runProgram (v : View) (inner : Inner) (program : List Script.Located) (data : List (Value × Value)) : Run Unit := do
  let _ ← (Engine.execAll ⟨v, inner⟩ program).run (scopeOf data)

/-- Runs something as a template: one level deeper, and with the captures and loops around it kept if it fails. -/
def framed {α : Type} (name : Text) (captures loops : Nat) (act : Run α) : Run α := do
  modifyPass fun p => { p with nesting := p.nesting + 1 }
  let a ← tryCatch act fun e => do
    modifyPass fun p =>
      { p with captures := outer captures p.captures, loops := outer loops p.loops, nesting := p.nesting - 1 }
    throw (e.inTemplate name)
  modifyPass fun p => { p with nesting := p.nesting - 1 }
  return a

/-- Closes the capture of a template, and what its program left open inside, and gives the output. -/
def collect (name : Text) (around : Nat) : Run Text := do
  let open_ := outer (around + 1) (← pass).captures
  let left := (← pass).captures.take ((← pass).captures.length - (around + 1))
  if !left.isEmpty then
    warn (name ++ ": discarding unclosed " ++ kindsOf left ++ " output")
  match open_ with
  | [] => raise (.raised "IndexError" "pop from empty list")
  | c :: rest =>
    modifyPass fun p => { p with captures := rest }
    return c.text

/-- Runs something as a template and gives its output. -/
def enclosed (name : Text) (act : Run Unit) : Run Text := do
  let p ← pass
  openCapture .template (.str name) none
  framed name p.captures.length p.loops.length act
  collect name p.captures.length

/-- Refuses a template below as many templates as the settings allow. -/
def checkNesting (v : View) (name : Text) : Run Unit := do
  if (← pass).nesting ≥ v.config.maxDepth then
    throw (.compile { cause := .depth v.config.maxDepth, template := some name })

/-- Evaluates a template with data. -/
def evaluateWith (v : View) (inner : Inner) (name : Text) (data : List (Value × Value)) : Run Text := do
  checkNesting v name
  let loaded ← load v name
  enclosed name (runProgram v inner loaded.program data)

/-- What a template may use when so many levels are left. -/
def innerAt (v : View) : Nat → Inner
  | 0 => ⟨fun _ _ => raise .tooDeep, fun _ => raise .tooDeep⟩
  | levels + 1 => ⟨evaluateWith v (innerAt v levels), renderComponent v (innerAt v levels)⟩

end Run

namespace View

/-- The levels of templates and components inside each other: more than the settings allow templates. -/
def levels (v : View) : Nat := 2 * v.config.maxDepth.toNat + 1000

/-- What a call from outside may use. -/
def inner (v : View) : Inner := Run.innerAt v v.levels

/-- Calls a method of the view with positional arguments. -/
def call (v : View) (name : Text) (args : List Value) : Run Value := do
  let args ← args.mapM Run.settle
  Run.now (← (Engine.mk v v.inner).callMethod .view name args [])

/-- Renders a page. -/
def render (v : View) (name : Text) (data : List (Value × Value)) : Run Text :=
  Run.renderPage v v.inner (.str name) (.dict data none)

/-- The directories of a view are there. -/
def check (c : Config) (files : Files) : Except Error Unit := do
  let isDirectory (p : Path) : Except Error Bool := (files.isDirectory? p).mapError Error.fault
  if !(← isDirectory c.app) then throw (.config ("app_path is not a directory: " ++ c.app.text))
  match c.framework with
  | some p => if !(← isDirectory p) then throw (.config ("framework_path is not a directory: " ++ p.text))
  | none => return

/-- A view; without a framework directory of its own it uses the one that comes with the engine. -/
def ofConfig (config : Config) (bundled : Path) (registry : Registry) (components : ComponentRegistry)
    (context : Context) : View where
  config
  finder := { app := config.app, framework := some (config.framework.getD bundled), ending := config.ending }
  registry
  components
  context

/-- A view whose directories are there. -/
def make (config : Config) (bundled : Path) (registry : Registry) (components : ComponentRegistry) (context : Context)
    (files : Files) : Except Error View := do
  check config files
  return ofConfig config bundled registry components context

end View
end Stencil
