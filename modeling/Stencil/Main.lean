import Std.Time.DateTime.Timestamp
import Stencil.Bundle
import Stencil.Command.Run

/-!
# The program

Reads the command line and the files it looks at, runs it, and carries the outcome back.
-/

namespace Stencil.Command

/-- Adds what stands at a path, and everything below it; nothing is added where nothing can be read. -/
partial def gather (files : Files) (p : Path) : IO Files := do
  let name := String.ofList p.text
  let found ← (do
    let real ← IO.FS.realPath name
    let info ← real.metadata
    match info.type with
    | .dir =>
      let below ← real.readDir
      return (files.makeDirectory p, below.toList.map fun (e : IO.FS.DirEntry) => p.child e.fileName.toList)
    | _ =>
      let content ← IO.FS.readFile name
      return (files.write p content.toList info.modified.sec, [])).toBaseIO
  match found with
  | .ok (.ok files, below) => below.foldlM gather files
  | _ => return files

/-- Carries out a change. -/
def carry (c : Change) : IO Unit := do
  let name := String.ofList (Path.text ⟨['/'], c.place⟩)
  match c.entry with
  | some .directory => IO.FS.createDirAll name
  | some (.file content _) => IO.FS.writeFile name (String.ofList content)
  | none => IO.FS.removeFile name

/-- What comes from outside beside the files. -/
def environment : IO Config.Environment := do
  let home := ((← IO.getEnv "HOME").getD "/").toList
  return { home := Path.ofText home, debug := ((← IO.getEnv "VELLUM_DEBUG").getD "").toList }

/-- A snapshot that holds nothing but the bundled templates. -/
def empty : IO Files := do
  let here := Path.ofText (toString (← IO.currentDir)).toList
  let now := (← Std.Time.Timestamp.now).toSecondsSinceUnixEpoch.val
  let files : Files := { here := here.parts, now }
  return (Bundle.install bundledPath ((files.makeDirectory here).toOption.getD files)).toOption.getD files

/-- The snapshot that a request looks at. -/
def snapshot (e : Config.Environment) (r : Request) : IO Files := do
  let files ← empty
  let files ← (settingsPlaces ⟨['/'], files.here⟩ r).foldlM gather files
  (workPlaces e files r).foldlM gather files

end Stencil.Command

open Stencil Command in
/-- Runs the command line. -/
def main (args : List String) : IO UInt32 := do
  let e ← environment
  let args := args.map String.toList
  let files ← match Request.read args with
    | some r => snapshot e r
    | none => empty
  let (outcome, after) := run e bundledPath args files
  (changes files after).forM carry
  outcome.log.forM fun record => IO.eprint (String.ofList record.line)
  IO.print (String.ofList outcome.printed)
  IO.eprint (String.ofList outcome.failure)
  return outcome.status.toUInt32
