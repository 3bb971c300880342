import Stencil.View.Component
import Stencil.View.Loop

/-!
# Templates and pages

A template is compiled when its stored artifact is not fresh, and then the artifact is loaded and run.  A page is a
template and the layouts it asks for, one after the other: each layout is evaluated with the same data, sections and
pushes, and the text of the last one is the page.
-/

namespace Stencil

namespace View

/-- Where the compiled templates of a view are stored. -/
def store (v : View) : Store := { directory := v.config.storePath, finder := v.finder, debug := v.config.debug }

/-- The compiler of a view; includes are read from the files as they are now. -/
def compiler (v : View) (files : Files) : Compiler :=
  { registry := v.registry, loader := some (v.finder.read files), maxDepth := v.config.maxDepth }

end View

namespace Run

/-! ## Compiling and loading -/

/-- The source of a template. -/
def source (v : View) (name : Text) : Run Text := do
  match v.finder.read (← get).disk.files name with
  | .error e => throw e
  | .ok (s, log) =>
    modify fun s => { s with disk := { s.disk with log := s.disk.log ++ log } }
    return s

/-- Compiles a template and stores it. -/
def compileTemplate (v : View) (name : Text) : Run Text := do
  let s ← source v name
  let program ← compiling ((v.compiler (← get).disk.files).compile s name)
  let dependencies := (← get).memory.dependencies
  let _ ← work (v.store.write name program dependencies)
  return program

/-- The program of a template, compiled if what is stored is not fresh. -/
def load (v : View) (name : Text) : Run Loaded := do
  if !(← work (v.store.isFresh name)) then
    let _ ← compileTemplate v name
  work (v.store.load name)

/-- The fault of a template's name that is no text. -/
def badName (v : View) (name : Value) : Fault :=
  if v.config.debug then
    match Value.items? name with
    | some _ => .noAttribute (Text.quoted name.kind ++ " object has no attribute 'startswith'")
    | none => .wrongType ("argument of type " ++ Text.quoted name.kind ++ " is not iterable")
  else .noAttribute (Text.quoted name.kind ++ " object has no attribute 'encode'")

/-- A template's name as a text. -/
def templateName (v : View) (name : Value) : Run Text :=
  match name.text? with
  | some s => return s
  | none => raise (badName v name)

/-- The markup of a template inside the pass of the page. -/
def partialOf (v : View) (inner : Inner) (name data : Value) : Run Value := do
  let entries ← entriesOrNone data
  return .markup (← inner.evaluate (← templateName v name) entries)

/-! ## Pages -/

/-- Begins a new pass. -/
def reset : Run Unit := modifyPass fun _ => {}

/-- Evaluates the layouts that a page asks for, one after the other; `chain` names the templates evaluated so far. -/
def followLayouts (v : View) (inner : Inner) (page : Text) (data : List (Value × Value)) :
    Nat → List Text → Text → Run Text
  | 0, _, _ => raise .endless
  | rounds + 1, chain, content => do
    match (← pass).layout with
    | .null => return content
    | layout => do
      modifyPass fun p => { p with layout := .null }
      let name ← templateName v layout
      if name ∈ chain then throw (.ofCause (.cycle (chain ++ [name])))
      report .debug ("Rendering layout " ++ name ++ " for " ++ page) false
      followLayouts v inner page data rounds (chain ++ [name]) (← inner.evaluate name data)

/-- The data of a page; what can change in them gets its identity here. -/
def pageData (data : Value) : Run (List (Value × Value)) := do
  let entries ← entriesOrNone data
  modifyGet fun s => (Value.settleEntries s.births [] 0 entries, { s with births := s.births + 1 })

/-- The text of a page with its layouts, marks for parents removed. -/
def pageText (v : View) (inner : Inner) (name data : Value) : Run Text := do
  let entries ← pageData data
  let page ← templateName v name
  let content ← inner.evaluate page entries
  return Text.replace parentMark [] (← followLayouts v inner page entries v.rounds [page] content)

/-- Renders a page.  Errors of compiling are always raised; others only while debugging, and are otherwise reported and
replaced by the error fragment. -/
def renderPage (v : View) (inner : Inner) (name data : Value) : Run Text := do
  reset
  tryCatch (pageText v inner name data) fun e => do
    reset
    match e with
    | .compile c => throw (.compile c)
    | e =>
      if v.config.debug then throw e
      report .error ("Failed to render " ++ (← nameText name) ++ ": " ++ e.message) true
      return v.config.errorFragment

end Run
end Stencil
