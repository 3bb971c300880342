import Stencil.Files.Basic
import Stencil.Log

/-!
# Finding templates

A template's name is a dotted path, `layouts.app`, and slashes mean the same as dots.  It names a file below two roots:
the application's directory is searched first, then the framework's.  A name that could lead out of its root, by two
dots, a slash or a tilde at its head, names nothing.
-/

namespace Stencil

/-- Where templates are looked for, and how their files end. -/
structure Finder where
  app : Path
  framework : Option Path := none
  ending : Text := ".html"
  deriving DecidableEq, Repr

namespace Finder

/-- The directories that are searched, in order. -/
def roots (f : Finder) : List Path := f.app :: f.framework.toList

/-- A template that is found in none of the places searched. -/
def notFound {α : Type} (name : Text) (searched : List Path) : Except Error α :=
  .error (.missingTemplate name (searched.map Path.text))

/-- A name could lead out of its root. -/
def isUnsafe (name : Text) : Bool := Text.contains ['.', '.'] name || name.head? == some '/' || name.head? == some '~'

/-- The parts of a name between dots and slashes, empty ones left out. -/
def segments (name : Text) : List Text :=
  (Text.splitOn '.' (name.map fun c => if c = '/' then '.' else c)).filter fun part => !part.isEmpty

/-- The path of a template below its root. -/
def pathFor (f : Finder) (name : Text) : Except Error Path :=
  if isUnsafe name then notFound name []
  else match segments name with
    | [] => notFound name []
    | first :: rest => .ok (Path.ofText (Text.join ['/'] (first :: rest) ++ f.ending))

/-- The paths where a template may be, in the order of the search. -/
def candidates (f : Finder) (name : Text) : Except Error (List Path) := do
  let path ← f.pathFor name
  return f.roots.map fun root => root.join path

/-- The first of several paths that leads to a file. -/
def firstFile (files : Files) : List Path → Except Fault (Option Path)
  | [] => .ok none
  | p :: rest => do if ← files.isFile? p then return some p else firstFile files rest

/-- The path of a template's file. -/
def find (f : Finder) (files : Files) (name : Text) : Except Error Path := do
  let searched ← f.candidates name
  match ← (firstFile files searched).mapError Error.fault with
  | some p => return p
  | none => notFound name searched

/-- A template has a file. -/
def has (f : Finder) (files : Files) (name : Text) : Except Error Bool :=
  match f.find files name with
  | .ok _ => .ok true
  | .error (.missingTemplate ..) => .ok false
  | .error e => .error e

/-- The report of reading a template. -/
def reading (name : Text) (p : Path) : Record := ⟨.debug, "Reading template " ++ name ++ " from " ++ p.text, false⟩

/-- The source of a template, with the report of reading it. -/
def read (f : Finder) (files : Files) (name : Text) : Except Error (Text × Log) := do
  let p ← f.find files name
  let source ← (files.read p).mapError Error.fault
  return (source, [reading name p])

end Finder
end Stencil
