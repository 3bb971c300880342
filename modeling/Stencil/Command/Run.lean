import Stencil.Command.Grid
import Stencil.Command.Line
import Stencil.Command.Tagged
import Stencil.Config.Reading
import Stencil.Number.Fixed
import Stencil.View.Evaluate

/-!
# Running commands

A command line is run over files: it renders or compiles a template, or looks after the store.  What it prints, what it
reports of a failure and the records of its work are its outcome, and so are the files as it leaves them.

The files are a snapshot of those that the command line looks at: first the settings files it may find, then the
directories its settings name and the file with page data.  Afterwards what the run changed is carried back.
-/

namespace Stencil.Command

/-- What a command line ends with. -/
structure Outcome where
  status : Nat := 0
  printed : Text := []
  failure : Text := []
  log : Log := []
  deriving DecidableEq, Repr

/-- The status of a command that failed. -/
def failed : Nat := 1

/-- The status of a command line that is misused. -/
def misused : Nat := 2

/-- How the command line is used. -/
def usage : Text :=
  "Usage: [-c FILE] [-v] [--debug] COMMAND\n" ++ "  render NAME [--data JSON] [--data-file FILE]\n" ++
    "  compile NAME\n" ++ "  cache clear [NAME]\n" ++ "  cache purge [--max-age SECONDS]\n" ++ "  cache size\n"

/-- The width of the screen. -/
def screen : Nat := 80

/-! ## Settings -/

/-- The settings file that is named, or else the nearest one. -/
def settingsFile (files : Files) (named : Option Text) : Except Error Path := do
  match named with
  | some p => return Path.ofText p
  | none =>
    match ← (Config.find files ⟨['/'], files.here⟩).mapError Error.fault with
    | some p => return p
    | none => throw (.config ("No " ++ Config.fileName ++ " found in current directory or parents."))

/-- The settings of a command line. -/
def settings (e : Config.Environment) (files : Files) (r : Request) : Except Error Config := do
  let c ← Config.load e files (← settingsFile files r.config)
  return if r.debug then { c with debug := true } else c

/-- The view of a command line; `bundled` is the directory of the templates that come with the engine. -/
def view (e : Config.Environment) (bundled : Path) (files : Files) (r : Request) : Except Error View := do
  View.make (← settings e files r) bundled .standard .standard {} files

/-- The least level that is shown. -/
def threshold (e : Config.Environment) (r : Request) : Level :=
  if e.wantsDebug then .debug else if r.verbose then .info else .warning

/-! ## Page data -/

/-- The data in a file. -/
def fileData (files : Files) (file : Text) : Except Fault (List (Value × Value)) := do
  let p := Path.ofText file
  match ← Yaml.read p.text (← files.read p) with
  | .dict entries _ => return entries
  | v => if v.truthy then throw (.wrongValue (p.text ++ " must contain a mapping")) else return []

/-- The data that a text writes. -/
def textData (s : Text) : Except Fault (List (Value × Value)) :=
  if s.isEmpty then .ok []
  else match Json.read s with
    | .error d => .error (.wrongValue (d.message s))
    | .ok (.obj members) => .ok (Value.ofJsonMembers members)
    | .ok _ => .error (.wrongValue "--data must be a JSON object")

/-- The data of a page: what a text writes wins over what a file says. -/
def pageData (files : Files) (data dataFile : Option Text) : Except Fault (List (Value × Value)) := do
  let first ← match dataFile with
    | some file => fileData files file
    | none => .ok []
  let second ← textData (data.getD [])
  return second.foldl (fun entries (k, v) => Value.bind k v entries) first

/-! ## The store -/

/-- The columns of the grid of stored templates. -/
def columns : List Column := [⟨"Template", false⟩, ⟨"Includes", false⟩, ⟨"Size", true⟩]

/-- A count of bytes as people read it: bytes, or kilobytes and megabytes with one decimal place. -/
def sizeText (n : Int) : Text :=
  if n < 1024 then Text.ofInt n ++ " B"
  else if n < 1024 * 1024 then Number.fixed false 1 (Float.ofInt n / 1024.0) ++ " KB"
  else Number.fixed false 1 (Float.ofInt n / 1048576.0) ++ " MB"

/-- A text, or a dash in the place of an empty one. -/
def orDash (s : Text) : Text := if s.isEmpty then ['-'] else s

/-- The row of a stored template. -/
def rowOf (entry : Text × Store.Known × Path) : Work (List Text) := do
  let (name, known, p) := entry
  let size : Text ←
    if ← Work.ask fun f => f.exists? p then
      pure (sizeText (← Work.ask fun f => f.stat p).size)
    else pure []
  return [name, orDash (Text.join ", " known.dependencies), orDash size]

/-- What is said about the size of the store; nothing if a name in it cannot be shown. -/
def sizeReport (s : Store) : Work (Option Text) := do
  let entries ← s.entries
  let total ← s.size
  let shown ←
    if entries.isEmpty then pure (some ("No compiled templates\n" : Text))
    else do
      let rows ← entries.mapM rowOf
      pure ((List.mapM (List.mapM shown?) rows).map (grid screen columns))
  return shown.map (· ++ "Total: " ++ sizeText total ++ "\n")

/-- What is said about templates that were removed. -/
def removalReport (verb : Text) (count : Nat) : Text := verb ++ " " ++ Text.ofNat count ++ " compiled template(s)\n"

/-! ## Commands -/

/-- Does what is to be done and gives what is printed; nothing if that cannot be shown. -/
def perform (v : View) : Task → Run (Option Text)
  | .render name data dataFile => do
    let entries ← Run.lift (pageData (← get).disk.files data dataFile)
    return some ((← v.render name entries) ++ "\n")
  | .compile name => some <$> Run.compileTemplate v name
  | .clear none => some <$> removalReport "Removed" <$> Run.clearStore v
  | .clear (some name) => some <$> removalReport "Removed" <$> Run.work (v.store.forget name)
  | .purge age => some <$> removalReport "Purged" <$> Run.work (v.store.purge (.whole age))
  | .size => Run.work (sizeReport v.store)

/-- The outcome of an error. -/
def Outcome.ofError (e : Error) (log : Log) : Outcome :=
  { status := failed, failure := "Error: " ++ e.message ++ "\n", log }

/-- Runs a request. -/
def runRequest (e : Config.Environment) (bundled : Path) (r : Request) (files : Files) : Outcome × Files :=
  match view e bundled files r with
  | .error error => (.ofError error [], files)
  | .ok v =>
    let (result, state) := (perform v r.task).run (State.ofFiles files)
    let log := state.disk.log.filter fun record => (threshold e r).rank ≤ record.level.rank
    let outcome := match result with
      | .ok (some printed) => { printed, log }
      | .ok none => { status := failed, log }
      | .error error => .ofError error log
    (outcome, state.disk.files)

/-- Runs a command line. -/
def run (e : Config.Environment) (bundled : Path) (args : List Text) (files : Files) : Outcome × Files :=
  match Request.read args with
  | none => ({ status := misused, failure := usage }, files)
  | some r => runRequest e bundled r files

/-! ## Snapshots -/

/-- The directory that the bundled templates have in a snapshot. -/
def bundledPath : Path := Path.ofText "/bundled"

/-- The files that the settings may be in. -/
def settingsPlaces (here : Path) (r : Request) : List Path :=
  match r.config with
  | some p => [Path.ofText p]
  | none => here.ascending.map fun p => p.child Config.fileName

/-- The file with page data. -/
def dataPlaces (r : Request) : List Path :=
  match r.task with
  | .render _ _ (some file) => [Path.ofText file]
  | _ => []

/-- The files and directories that the settings and the request name. -/
def workPlaces (e : Config.Environment) (files : Files) (r : Request) : List Path :=
  match settings e files r with
  | .ok c => c.app :: c.storePath :: c.framework.toList ++ dataPlaces r
  | .error _ => dataPlaces r

/-- What has to be done at a place: something is put there, or it is left empty. -/
structure Change where
  place : List Text
  entry : Option Entry
  deriving DecidableEq, Repr

/-- What turns a snapshot into another one; what is put somewhere comes after what is put above it. -/
def changes (before after : Files) : List Change :=
  let put := after.entries.filter fun (place, e) => before.entryAt? place ≠ some e
  let gone := before.entries.filter fun (place, _) => (after.entryAt? place).isNone
  (put.mergeSort fun a b => a.1.length ≤ b.1.length).map (fun (place, e) => ⟨place, some e⟩) ++
    gone.map fun (place, _) => ⟨place, none⟩

end Stencil.Command
