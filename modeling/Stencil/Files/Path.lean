import Stencil.Text.Basic

/-!
# Paths

A path is a root, which is empty for a relative path, and parts.  Reading a path drops empty parts and parts that are a
single dot; parts that are two dots stay, since what they mean depends on the directories.
-/

namespace Stencil

/-- A path to a file or a directory. -/
structure Path where
  root : Text := []
  parts : List Text := []
  deriving DecidableEq, Repr, Inhabited

namespace Path

/-- A part that says nothing. -/
def isIdle (part : Text) : Bool := part.isEmpty || part == ['.']

/-- The root of a path's text: exactly two slashes are a root of their own. -/
def rootOf (s : Text) : Text :=
  match (s.takeWhile (· == '/')).length with
  | 0 => []
  | 2 => ['/', '/']
  | _ => ['/']

/-- The path that a text writes. -/
def ofText (s : Text) : Path := ⟨rootOf s, (Text.splitOn '/' s).filter fun part => !isIdle part⟩

/-- The text of a path; a path without root and parts is the current directory. -/
def text (p : Path) : Text :=
  if p.root.isEmpty ∧ p.parts.isEmpty then ['.'] else p.root ++ Text.join ['/'] p.parts

/-- The path does not depend on the current directory. -/
def isAbsolute (p : Path) : Bool := !p.root.isEmpty

/-- A path seen from another one: an absolute path stays as it is. -/
def join (base p : Path) : Path := if p.isAbsolute then p else { base with parts := base.parts ++ p.parts }

/-- The path with one more part. -/
def child (base : Path) (name : Text) : Path := { base with parts := base.parts ++ [name] }

/-- The last part. -/
def name (p : Path) : Text := (p.parts.getLast?).getD []

/-- The path without its last part. -/
def parent (p : Path) : Path := { p with parts := p.parts.dropLast }

/-- The path with a text added to its last part. -/
def extended (p : Path) (more : Text) : Path := p.parent.child (p.name ++ more)

@[simp] theorem parent_child (p : Path) (name : Text) : (p.child name).parent = p := by
  simp only [child, parent, List.dropLast_concat]

@[simp] theorem extended_child (p : Path) (name more : Text) :
    (p.child name).extended more = p.child (name ++ more) := by
  rw [extended, parent_child]
  simp only [Path.name, child, List.getLast?_concat, Option.getD_some]

/-- A path and everything above it, nearest first. -/
def ascending (p : Path) : List Path :=
  (List.range (p.parts.length + 1)).map fun n => { p with parts := p.parts.take (p.parts.length - n) }

/-- The last part without an ending, unless the ending is all of it. -/
def stem (ending : Text) (name : Text) : Text :=
  if name.length > ending.length ∧ ending.isSuffixOf name then name.take (name.length - ending.length) else name

end Path
end Stencil
