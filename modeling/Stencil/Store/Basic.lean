import Stencil.Digest
import Stencil.Finder
import Stencil.Number.Shortest
import Stencil.Script.Check
import Stencil.Store.Manifest

/-!
# The store of compiled templates

The store keeps compiled templates in a directory: one artifact for each name, in a file named by the digest of the
name, and the manifest.  Every write of a file happens under a lock, a sidecar file beside it.  An artifact is a head of
remarks that name the template, its source and what it includes, and the program.

A stored template is *fresh* if the manifest knows it, every template it depends on can still be found, and no source is
newer than the artifact.  While debugging nothing is fresh.

* `Disk` — what the operations change: the files, the programs read from artifacts, and the log.
* `Store` — what stays the same: the directory, the finder, and whether one is debugging.
* `Age` — how old an artifact may be.
-/

namespace Stencil

/-- An age in seconds: a whole number, a truth value in the place of one, or a fraction. -/
inductive Age where
  | whole (n : Int)
  | truth (b : Bool)
  | fraction (x : Float)
  deriving Repr

namespace Age

/-- How an age is told. -/
def text : Age → Text
  | .whole n => Text.ofInt n
  | .truth b => if b then "True" else "False"
  | .fraction x => Number.floatText x

/-- What was written at a time is older than an age; nothing is older than no number. -/
def isPassed (age : Age) (now time : Int) : Bool :=
  match age with
  | .whole n => time < now - n
  | .truth b => time < now - (if b then 1 else 0)
  | .fraction x => Float.ofInt time < Float.ofInt now - x

end Age

/-- A program read from an artifact: the artifact's time, a number of its own, and the statements. -/
structure Loaded where
  time : Int
  serial : Nat
  program : List Script.Located
  deriving Repr

/-- What the store works on. -/
structure Disk where
  files : Files
  /-- The programs in use, by the names of their templates. -/
  programs : Table Loaded := []
  /-- How many programs have been read. -/
  serial : Nat := 0
  log : Log := []
  deriving Repr

/-- A step of work on the disk: what it changed stays changed if it fails. -/
abbrev Work := ExceptT Error (StateM Disk)

namespace Work

/-- Reports something. -/
def report (level : Level) (message : Text) : Work Unit :=
  modify fun d => { d with log := d.log ++ [⟨level, message, false⟩] }

/-- Looks at the files. -/
def ask {α : Type} (f : Files → Except Fault α) : Work α := do
  match f (← get).files with
  | .ok a => return a
  | .error e => throw (.fault e)

/-- Changes the files. -/
def change (f : Files → Except Fault Files) : Work Unit := do
  let files ← ask f
  modify fun d => { d with files }

/-- Turns the problems of files into a failure to write to the store. -/
def guarding {α : Type} (p : Path) (act : Work α) : Work α :=
  tryCatch act fun
    | .fault (.file problem at_) => throw (.cacheWrite p.text (Fault.file problem at_).message)
    | e => throw e

end Work

/-- A store of compiled templates. -/
structure Store where
  directory : Path
  finder : Finder
  debug : Bool := false
  deriving Repr

namespace Store

/-- How the files of artifacts end. -/
def ending : Text := ".py"

/-- How the files of locks end. -/
def lockEnding : Text := ".lock"

/-- The age at which artifacts are removed where none is given, in seconds. -/
def defaultAge : Int := 3600

/-- The file of a name's artifact. -/
def artifactPath (s : Store) (name : Text) : Path := s.directory.child (Digest.ofText name ++ ending)

/-- The file of the manifest. -/
def manifestPath (s : Store) : Path := s.directory.child "manifest.json"

/-! ## Writing files -/

/-- Takes the lock of a file: its sidecar is there afterwards. -/
def lock (p : Path) : Work Unit := do
  let sidecar := p.extended lockEnding
  Work.change fun f => f.makeDirectory sidecar.parent
  Work.change fun f =>
    match f.look sidecar with
    | .ok (.file ..) => .ok f
    | _ => f.put sidecar [] f.now

/-- Replaces a file's text in one step. -/
def replace (p : Path) (content : Text) : Work Unit := do
  Work.change fun f => f.makeDirectory p.parent
  Work.change fun f => f.put p content f.now

/-- The place of a template whose source is in no file. -/
def noSource : Text := "<string>"

/-- The text of an artifact. -/
def artifactText (name source : Text) (includes : List Text) (program : Text) : Text :=
  "# Compiled by vellum - do not edit.\n# template: " ++ name ++ "\n# source: " ++ source ++ "\n" ++
    (if includes.isEmpty then [] else "# includes: " ++ Text.join ", " includes ++ "\n" : Text) ++ program ++ "\n"

/-! ## The manifest -/

/-- The manifest; where there is none, or none that can be read, nothing is known. -/
def manifest (s : Store) : Work Manifest := do
  let p := s.manifestPath
  if ← Work.ask fun f => f.exists? p then
    let text ← Work.ask fun f => f.read p
    match Manifest.read (← get).files.now text with
    | .ok m => return m
    | .error (.overlong digits) => throw (.fault (.overlong (some digits)))
    | .error c =>
      Work.report .warning ((Error.corruptManifest p.text c.message).message ++ "; treating manifest as empty")
      return []
  else return []

/-- Changes entries of the manifest. -/
def updateManifest (s : Store) (changes : Table (Option Known)) : Work Unit :=
  Work.guarding s.manifestPath do
    lock s.manifestPath
    let m := (← s.manifest).update changes
    if m.hasOverlong then throw (.fault (.overlong none))
    replace s.manifestPath m.text

/-! ## Freshness -/

/-- The time of the newest of several files. -/
def newest : List Path → Work Int
  | [] => return 0
  | [p] => return (← Work.ask fun f => f.stat p).time
  | p :: rest => return max (← Work.ask fun f => f.stat p).time (← newest rest)

/-- The file of a template's source. -/
def sourceOf (s : Store) (name : Text) : Work Path := do s.finder.find (← get).files name

/-- The files of the sources of several templates; `none` if one is missing, which is reported of the first name. -/
def sources? (s : Store) (name : Text) (names : List Text) : Work (Option (List Path)) :=
  tryCatch (some <$> names.mapM s.sourceOf) fun
    | .missingTemplate missing searched => do
      Work.report .debug (name ++ " is stale: " ++ (Error.missingTemplate missing searched).message)
      return none
    | e => throw e

/-- The stored artifact of a name can be used as it is. -/
def isFresh (s : Store) (name : Text) : Work Bool := do
  let p := s.artifactPath name
  if s.debug then return false
  if !(← Work.ask fun f => f.exists? p) then return false
  match (← s.manifest).get? name with
  | none => return false
  | some known =>
    match ← s.sources? name (name :: known.dependencies) with
    | none => return false
    | some paths => return (← newest paths) ≤ (← Work.ask fun f => f.stat p).time

/-! ## Artifacts -/

/-- The text of a source's path as an artifact names it. -/
def sourceText (s : Store) (name : Text) : Work Text :=
  tryCatch (Path.text <$> s.sourceOf name) fun
    | .missingTemplate .. => return noSource
    | e => throw e

/-- Drops the program of a name. -/
def unload (name : Text) : Work Unit := modify fun d => { d with programs := d.programs.erase name }

/-- Stores a compiled template with what it depends on. -/
def write (s : Store) (name program : Text) (dependencies : List Text) : Work Path := do
  let p := s.artifactPath name
  let names := sortedNames dependencies
  Work.guarding p do
    let source ← s.sourceText name
    lock p
    replace p (artifactText name source names program)
  unload name
  s.updateManifest [(name, some ⟨names, (← get).files.now⟩)]
  Work.report .debug ("Wrote artifact for " ++ name ++ " to " ++ p.text)
  return p

/-- The text of a name's artifact. -/
def read (s : Store) (name : Text) : Work Text := Work.ask fun f => f.read (s.artifactPath name)

/-- The fault of an artifact that holds no program. -/
def flawOf (p : Path) : Script.Flaw → Fault
  | .zero => .wrongValue "source code string cannot contain null bytes"
  | .line n => .raised "SyntaxError" ("invalid syntax (" ++ p.name ++ ", line " ++ Text.ofNat n ++ ")")

/-- The program of a name's artifact; it is read again only if the artifact's time has changed. -/
def load (s : Store) (name : Text) : Work Loaded := do
  let p := s.artifactPath name
  let time := (← Work.ask fun f => f.stat p).time
  match (← get).programs.get? name with
  | some found => if found.time = time then return found else readProgram p time
  | none => readProgram p time
where
  /-- Reads the program of an artifact. -/
  readProgram (p : Path) (time : Int) : Work Loaded := do
    match Script.parse (← Work.ask fun f => f.read p) with
    | .error flaw => throw (.fault (flawOf p flaw))
    | .ok program =>
      let loaded := ⟨time, (← get).serial, program⟩
      modify fun d => { d with serial := d.serial + 1, programs := d.programs.put name loaded }
      return loaded

/-! ## Administration -/

/-- The names of the files in the store that end in a given way. -/
def namesEnding (s : Store) (last : Text) : Work (List Text) :=
  Work.ask fun f => do
    if ← f.isDirectory? s.directory then
      return (← f.list s.directory).filter fun name => last.isSuffixOf name
    else return []

/-- Removes everything; tells how many artifacts there were. -/
def clear (s : Store) : Work Nat := do
  let artifacts ← s.namesEnding ending
  artifacts.forM fun name => Work.change fun f => f.discard (s.directory.child name)
  (← s.namesEnding lockEnding).forM fun name => Work.change fun f => f.discard (s.directory.child name)
  Work.change fun f => f.discard s.manifestPath
  modify fun d => { d with programs := [] }
  Work.report .info ("Cleared " ++ Text.ofNat artifacts.length ++ " compiled templates from " ++ s.directory.text)
  return artifacts.length

/-- Removes one template; tells how many artifacts there were. -/
def forget (s : Store) (name : Text) : Work Nat := do
  let p := s.artifactPath name
  let present ← Work.ask fun f => f.exists? p
  if present then Work.change fun f => f.remove p
  unload name
  if (← s.manifest).has name then s.updateManifest [(name, none)]
  return if present then 1 else 0

/-- The artifact in a file is older than an age. -/
def isOlder (s : Store) (age : Age) (file : Text) : Work Bool :=
  return age.isPassed (← get).files.now (← Work.ask fun f => f.stat (s.directory.child file)).time

/-- Removes artifacts older than an age; tells how many there were. -/
def purge (s : Store) (age : Age) : Work Nat := do
  let stale := ((← (← s.namesEnding ending).filterM (s.isOlder age)).map (Path.stem ending)).eraseDups
  if stale.isEmpty then return 0
  stale.forM fun stem => Work.change fun f => f.discard (s.directory.child (stem ++ ending))
  let isStale (name : Text) : Bool := stale.contains (Digest.ofText name)
  let pruned := (← s.manifest).names.filter isStale
  if !pruned.isEmpty then s.updateManifest (pruned.map fun name => (name, none))
  modify fun d => { d with programs := d.programs.filter fun (name, _) => !isStale name }
  Work.report .info ("Purged " ++ Text.ofNat stale.length ++ " compiled templates older than " ++ age.text ++ "s")
  return stale.length

/-- The bytes of all artifacts and of the manifest. -/
def size (s : Store) : Work Nat := do
  let artifacts ← (← s.namesEnding ending).mapM fun name => Work.ask fun f => f.stat (s.directory.child name)
  let rest ←
    if ← Work.ask fun f => f.exists? s.manifestPath then
      pure (← Work.ask fun f => f.stat s.manifestPath).size
    else pure 0
  return (artifacts.map Entry.size).foldl (· + ·) rest

/-- The entries of the manifest by ascending name, with the files of their artifacts. -/
def entries (s : Store) : Work (List (Text × Known × Path)) := do
  return (← s.manifest).sorted.map fun (name, known) => (name, known, s.artifactPath name)

end Store
end Stencil
