import Stencil.Error
import Stencil.Files.Path
import Stencil.Text.Html

/-!
# Files

The files that the engine reads and writes: a tree of directories and text files, the current directory, and the time
that a file is stamped with when it is written.  A place is the list of names that lead from the top to a file.

Reading turns every kind of line break into a newline.  Looking at a path goes through the tree part by part, so that it
tells a missing part from one that is no directory.
-/

namespace Stencil

/-- What stands at a place. -/
inductive Entry where
  | directory
  | file (content : Text) (time : Int)
  deriving DecidableEq, Repr

/-- The time of a directory, which counts as newer than every file. -/
def Entry.directoryTime : Int := Nat.pow 2 40

/-- The bytes that a directory takes. -/
def Entry.directorySize : Nat := 4096

/-- The time that an entry was written. -/
def Entry.time : Entry → Int
  | .directory => directoryTime
  | .file _ time => time

/-- The bytes of an entry. -/
def Entry.size : Entry → Nat
  | .directory => directorySize
  | .file content _ => Text.utf8Size content

/-- A tree of files; `here` is the current directory and `now` the time. -/
structure Files where
  here : List Text := []
  now : Int := 0
  entries : List (List Text × Entry) := []
  deriving DecidableEq, Repr, Inhabited

namespace Files

/-- What stands at a place; the top is always a directory. -/
def entryAt? (f : Files) (place : List Text) : Option Entry :=
  if place.isEmpty then some .directory else (f.entries.find? fun e => e.1 = place).map Prod.snd

/-- Puts something at a place. -/
def set (f : Files) (place : List Text) (e : Entry) : Files :=
  { f with entries := (place, e) :: f.entries.filter fun old => old.1 ≠ place }

/-- Leaves a place empty. -/
def erase (f : Files) (place : List Text) : Files :=
  { f with entries := f.entries.filter fun old => old.1 ≠ place }

/-- The most bytes that one name may have. -/
def nameLimit : Nat := 255

/-- The bytes that a path must stay below. -/
def pathLimit : Nat := 4096

/-- Where the parts of a path lead from a place; all but the last must be directories. -/
def walk (f : Files) (place : List Text) : List Text → Except FileProblem (List Text)
  | [] => .ok place
  | part :: rest =>
    match f.entryAt? place with
    | none => .error .missing
    | some (.file ..) => .error .notDirectory
    | some .directory =>
      if part = ['.', '.'] then walk f place.dropLast rest
      else if Text.utf8Size part > nameLimit then .error .nameTooLong
      else walk f (place ++ [part]) rest

/-- The place that a path names. -/
def place (f : Files) (p : Path) : Except FileProblem (List Text) :=
  if Text.utf8Size p.text ≥ pathLimit then .error .nameTooLong
  else walk f (if p.isAbsolute then [] else f.here) p.parts

/-- What stands where a path leads. -/
def look (f : Files) (p : Path) : Except FileProblem Entry := do
  match f.entryAt? (← f.place p) with
  | some e => .ok e
  | none => .error .missing

/-- A fault about a path. -/
def fault (p : Path) (problem : FileProblem) : Fault := .file problem p.text

/-- What stands where a path leads, if anything does; a name that is too long is a fault. -/
def probe (f : Files) (p : Path) : Except Fault (Option Entry) :=
  if '\x00' ∈ p.text then .ok none
  else match f.look p with
    | .ok e => .ok (some e)
    | .error .nameTooLong => .error (fault p .nameTooLong)
    | .error _ => .ok none

/-- A path leads to something. -/
def exists? (f : Files) (p : Path) : Except Fault Bool := (f.probe p).map Option.isSome

/-- A path leads to a file. -/
def isFile? (f : Files) (p : Path) : Except Fault Bool :=
  (f.probe p).map fun
    | some (.file ..) => true
    | _ => false

/-- A path leads to a directory. -/
def isDirectory? (f : Files) (p : Path) : Except Fault Bool :=
  (f.probe p).map fun
    | some .directory => true
    | _ => false

/-- Every line break written as a newline. -/
def unifyBreaks : Text → Text
  | '\r' :: '\n' :: s => '\n' :: unifyBreaks s
  | '\r' :: s => '\n' :: unifyBreaks s
  | c :: s => c :: unifyBreaks s
  | [] => []

/-- The text of a file. -/
def read (f : Files) (p : Path) : Except Fault Text :=
  if '\x00' ∈ p.text then .error (.wrongValue "embedded null byte")
  else match f.look p with
    | .ok (.file content _) => .ok (unifyBreaks content)
    | .ok .directory => .error (fault p .isDirectory)
    | .error problem => .error (fault p problem)

/-- What stands where a path leads, or a fault. -/
def stat (f : Files) (p : Path) : Except Fault Entry := (f.look p).mapError (fault p)

/-- The names in a directory, in ascending order. -/
def namesIn (f : Files) (place : List Text) : List Text :=
  (f.entries.filterMap fun (at_, _) =>
    match at_.getLast? with
    | some name => if at_.dropLast = place then some name else none
    | none => none).mergeSort Text.le

/-- The names in the directory that a path leads to. -/
def list (f : Files) (p : Path) : Except Fault (List Text) :=
  match f.look p, f.place p with
  | .ok .directory, .ok place => .ok (f.namesIn place)
  | .ok (.file ..), _ => .error (fault p .notDirectory)
  | .error problem, _ | _, .error problem => .error (fault p problem)

/-- Writes a file into a directory that is there. -/
def put (f : Files) (p : Path) (content : Text) (time : Int) : Except Fault Files :=
  match f.place p with
  | .error problem => .error (fault p problem)
  | .ok place =>
    match f.entryAt? place, f.entryAt? place.dropLast with
    | some .directory, _ => .error (fault p .isDirectory)
    | _, some .directory => .ok (f.set place (.file content time))
    | _, some (.file ..) => .error (fault p .notDirectory)
    | _, none => .error (fault p .missing)

/-- Makes one directory. -/
def makeOne (f : Files) (p : Path) : Except FileProblem Files := do
  let place ← f.place p
  match f.entryAt? place, f.entryAt? place.dropLast with
  | some _, _ => .error .exists
  | none, some .directory => .ok (f.set place .directory)
  | none, some (.file ..) => .error .notDirectory
  | none, none => .error .missing

/-- Makes a directory, after making the one above it if that is missing. -/
def makeBelow (f : Files) (p : Path) (above : Except Fault Files) : Except Fault Files :=
  match f.makeOne p with
  | .ok f => .ok f
  | .error .missing => do (← above).makeOne p |>.mapError (fault p)
  | .error problem =>
    match f.look p with
    | .ok .directory => .ok f
    | _ => .error (fault p problem)

/-- Makes a directory and, as far as they are missing, the `levels` nearest ones above it. -/
def makeAt (f : Files) (p : Path) : Nat → Except Fault Files
  | 0 => f.makeBelow p (.error (fault p .missing))
  | levels + 1 => f.makeBelow p (makeAt f p.parent levels)

/-- Makes a directory and all directories above it; a directory that is there already stays. -/
def makeDirectory (f : Files) (p : Path) : Except Fault Files := makeAt f p p.parts.length

/-- Writes a file, after making the directories above it as far as they are missing. -/
def write (f : Files) (p : Path) (content : Text) (time : Int) : Except Fault Files := do
  (← f.makeDirectory p.parent).put p content time

/-- Stamps a file with a time; a directory keeps its own. -/
def touch (f : Files) (p : Path) (time : Int) : Except Fault Files := do
  match ← f.stat p with
  | .file content _ => f.put p content time
  | .directory => return f

/-- Removes a file. -/
def remove (f : Files) (p : Path) : Except Fault Files :=
  match f.look p, f.place p with
  | .ok (.file ..), .ok place => .ok (f.erase place)
  | .ok .directory, _ => .error (fault p .isDirectory)
  | .error problem, _ | _, .error problem => .error (fault p problem)

/-- Removes a file if there is one. -/
def discard (f : Files) (p : Path) : Except Fault Files :=
  match f.remove p with
  | .error (.file .missing _) => .ok f
  | r => r

end Files
end Stencil
