import Stencil.Config
import Stencil.Files.Basic
import Stencil.Table
import Stencil.Value.Lenient
import Stencil.Yaml.Reader

/-!
# Reading settings

Settings are read leniently from named values; every one that does not fit is reported, in the order in which settings
are declared.  A settings file is a YAML mapping; the paths in it are seen from its directory, and a tilde at their head
is the home directory.  The file is looked for in a directory and all those above it.
-/

namespace Stencil.Config

/-- The name of a settings file. -/
def fileName : Text := "vellum.yaml"

/-- What comes from outside beside the files: the home directory, and what is asked for about debugging. -/
structure Environment where
  home : Path := ⟨['/'], []⟩
  debug : Text := []
  deriving Repr

/-- The words that ask for debugging. -/
def debugWords : List Text := ["1", "true", "yes", "on"]

/-- Debugging is asked for. -/
def Environment.wantsDebug (e : Environment) : Bool := Text.lower (Text.strip e.debug) ∈ debugWords

/-! ## Single settings -/

/-- A setting that must be given. -/
def required {α : Type} (read : Value → Except Misfit α) : Option Value → Except Misfit α
  | none => .error .missing
  | some v => read v

/-- A setting with a default. -/
def optional {α : Type} (default : α) (read : Value → Except Misfit α) : Option Value → Except Misfit α
  | none => .ok default
  | some v => read v

/-- A path. -/
def path (v : Value) : Except Misfit Path := (Value.pathSetting v).map Path.ofText

/-- A path, or nothing. -/
def path? : Value → Except Misfit (Option Path)
  | .null => .ok none
  | v => (path v).map some

/-- How template files end; a dot is put in front unless there is one, or nothing at all. -/
def dotted (s : Text) : Text :=
  match s with
  | [] | '.' :: _ => s
  | s => '.' :: s

/-- A bound on nesting, which is at least one. -/
def depth (v : Value) : Except Misfit Int := do
  let n ← Value.wholeSetting v
  if n < 1 then throw .refused
  return n

/-! ## All settings -/

/-- The misfit of one setting, with its name. -/
def misfit {α : Type} (name : Text) : Except Misfit α → List (Text × Misfit)
  | .ok _ => []
  | .error m => [(name, m)]

/-- The settings that named values write; values under other names are left alone. -/
def ofSettings (settings : Table Value) : Except Error Config :=
  let app := required path (settings.get? "app_path")
  let framework := optional none path? (settings.get? "framework_path")
  let cache := optional none path? (settings.get? "cache_path")
  let debug := optional false Value.truthSetting (settings.get? "debug")
  let ending := (optional (".html" : Text) Value.textSetting (settings.get? "extension")).map dotted
  let maxDepth := optional 50 depth (settings.get? "max_depth")
  let fragment := optional standardFragment Value.textSetting (settings.get? "error_fragment")
  match app, framework, cache, debug, ending, maxDepth, fragment with
  | .ok app, .ok framework, .ok cache, .ok debug, .ok ending, .ok maxDepth, .ok errorFragment =>
    .ok { app, framework, cache, debug, ending, maxDepth, errorFragment }
  | _, _, _, _, _, _, _ =>
    .error (.settings (misfit "app_path" app ++ misfit "framework_path" framework ++ misfit "cache_path" cache ++
      misfit "debug" debug ++ misfit "extension" ending ++ misfit "max_depth" maxDepth ++
      misfit "error_fragment" fragment))

/-! ## Settings files -/

/-- The settings that are paths. -/
def pathNames : List Text := ["app_path", "framework_path", "cache_path"]

/-- A path with the home directory in the place of a tilde at its head. -/
def expanded (home p : Path) : Except Fault Path :=
  match p.isAbsolute, p.parts with
  | false, ['~'] :: rest => .ok (home.join ⟨[], rest⟩)
  | false, ('~' :: _) :: _ => .error (.raised "RuntimeError" "Could not determine home directory.")
  | _, _ => .ok p

/-- The last part of a dotted name. -/
def lastName (s : Text) : Text := (Text.splitOn '.' s).getLast?.getD []

/-- A path setting seen from a directory; nothing stays nothing. -/
def seenFrom (home base : Path) : Value → Except Fault Value
  | .null => .ok .null
  | .str s | .markup s => do return .str (base.join (← expanded home (Path.ofText s))).text
  | v => .error (.wrongType ("expected str, bytes or os.PathLike object, not " ++ lastName v.kind))

/-- The entries of a settings file with paths seen from a directory. -/
def resolved (home base : Path) (entries : List (Value × Value)) : Except Fault (List (Value × Value)) :=
  pathNames.foldlM (fun entries name =>
    match Value.lookup (.str name) entries with
    | none => .ok entries
    | some v => do return Value.bind (.str name) (← seenFrom home base v) entries) entries

/-- Named values from the entries of a mapping. -/
def named (entries : List (Value × Value)) : Except Fault (Table Value) :=
  entries.mapM fun (k, v) =>
    match k.text? with
    | some name => .ok (name, v)
    | none => .error (.wrongType "keywords must be strings")

/-- The directory of a file, from the top. -/
def directoryOf (files : Files) (p : Path) : Path :=
  match files.place p.parent with
  | .ok place => ⟨['/'], place⟩
  | .error _ => p.parent

/-- What a settings file says, paths seen from its directory. -/
def fileSettings (e : Environment) (files : Files) (p : Path) : Except Fault (Table Value) := do
  if !(← files.exists? p) then throw (.raised "FileNotFoundError" ("Config file not found: " ++ p.text))
  let v ← Yaml.read p.text (← files.read p)
  named (← resolved e.home (directoryOf files p) (← Value.entriesOrNone v))

/-- The settings that a file writes; the environment may ask for debugging beside it. -/
def load (e : Environment) (files : Files) (p : Path) : Except Error Config := do
  let settings ← (fileSettings e files p).mapError Error.fault
  let c ← ofSettings settings
  return if e.wantsDebug then { c with debug := true } else c

/-- The nearest settings file in a directory or above it. -/
def firstFile (files : Files) : List Path → Except Fault (Option Path)
  | [] => .ok none
  | p :: rest => do if ← files.exists? (p.child fileName) then return some (p.child fileName) else firstFile files rest

/-- The nearest settings file in a directory or above it. -/
def find (files : Files) (start : Path) : Except Fault (Option Path) := firstFile files start.ascending

end Stencil.Config
