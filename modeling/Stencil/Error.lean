import Stencil.Text.Quoted
import Stencil.Text.Blank

/-!
# Errors

An error is a cause with its data; the wording is computed from it.

* `Cause`, `CompileError` — what is wrong with a template, and where: the template's name, a line counted from one and
  an excerpt of the markup, each only if known.  `locate` fills in what is still unknown.
* `Fault` — what a running script or a host operation runs into.
* `Error` — everything that a compilation, a rendering or a cache operation can end with.
-/

namespace Stencil

/-- What is wrong with a template. -/
inductive Cause where
  | general (reason : Text)
  | malformed (reason : Text)
  | emptyEcho
  | emptyRawEcho
  | malformedFilter (segment : Text)
  | strayMiddle (directive : Text)
  | strayClose (directive : Text)
  | mismatchedClose (directive opened : Text) (line : Int)
  | openBlock (directive place : Text)
  | invalidProgram
  | nestedSection (outer inner : Text)
  | openSection (name : Text)
  | unknownFilter (name : Text)
  | expansion (directive detail : Text)
  | cycle (names : List Text)
  | depth (limit : Int)
  deriving DecidableEq, Repr

/-- The wording of a cause. -/
def Cause.reason : Cause → Text
  | .general reason | .malformed reason => reason
  | .emptyEcho => "empty interpolation"
  | .emptyRawEcho => "empty raw interpolation"
  | .malformedFilter segment => "malformed filter " ++ Text.quoted segment
  | .strayMiddle directive => "@" ++ directive ++ " outside of a matching block"
  | .strayClose directive => "@" ++ directive ++ " without an open block"
  | .mismatchedClose directive opened line =>
    "@" ++ directive ++ " does not close @" ++ opened ++ " opened on line " ++ Text.ofInt line
  | .openBlock directive place => "unclosed @" ++ directive ++ place
  | .invalidProgram => "invalid Python"
  | .nestedSection outer inner =>
    "Nested sections are not supported: section '" ++ outer ++ "' is still open when section '" ++ inner ++ "' starts"
  | .openSection name => "Unterminated section: '" ++ name ++ "'"
  | .unknownFilter name =>
    "Filter '" ++ name ++ "' is not registered. Use DirectiveRegistry.filter() to register it."
  | .expansion directive detail => "Failed to expand @" ++ directive ++ ": " ++ detail
  | .cycle names => "Cyclic template dependency: " ++ Text.join " -> " names
  | .depth limit => "Maximum template nesting depth exceeded (" ++ Text.ofInt limit ++ ")"

/-- The number of characters of markup that an error shows. -/
def excerptLength : Nat := 100

/-- A fault of a template with what is known about its place. -/
structure CompileError where
  cause : Cause
  template : Option Text := none
  line : Option Int := none
  excerpt : Option Text := none
  deriving DecidableEq, Repr

namespace CompileError

/-- The excerpt as a message shows it: stripped and cut. -/
def shownExcerpt (s : Text) : Text :=
  let s := Text.strip s
  if s.length > excerptLength then s.take excerptLength ++ "..." else s

/-- The message: template, line, reason and excerpt, as far as they are known and not empty. -/
def message (e : CompileError) : Text :=
  let template := match e.template with
    | none | some [] => []
    | some name => [("[" : Text) ++ name ++ "]"]
  let line := match e.line with
    | none => []
    | some n => [("line " : Text) ++ Text.ofInt n ++ ":"]
  let excerpt := match e.excerpt with
    | none | some [] => []
    | some s => [("near " : Text) ++ Text.quoted (shownExcerpt s)]
  Text.join " " (template ++ line ++ [e.cause.reason] ++ excerpt)

/-- Fills in the template and the line where they are unknown. -/
def locate (template : Option Text) (line : Option Int) (e : CompileError) : CompileError :=
  { e with template := e.template <|> template, line := e.line <|> line }

/-- Fills in the excerpt where it is unknown. -/
def excerpted (excerpt : Text) (e : CompileError) : CompileError := { e with excerpt := e.excerpt <|> some excerpt }

end CompileError

/-- What an operation on files runs into. -/
inductive FileProblem where
  | missing
  | exists
  | notDirectory
  | isDirectory
  | nameTooLong
  deriving DecidableEq, Repr

namespace FileProblem

/-- The name of the kind of fault. -/
def kind : FileProblem → Text
  | missing => "FileNotFoundError"
  | .exists => "FileExistsError"
  | notDirectory => "NotADirectoryError"
  | isDirectory => "IsADirectoryError"
  | nameTooLong => "OSError"

/-- The system's number and wording for the problem. -/
def wording : FileProblem → Text
  | missing => "[Errno 2] No such file or directory"
  | .exists => "[Errno 17] File exists"
  | notDirectory => "[Errno 20] Not a directory"
  | isDirectory => "[Errno 21] Is a directory"
  | nameTooLong => "[Errno 36] File name too long"

end FileProblem

/-- What a running script or a host operation runs into; `raised` carries a fault of a registered function. -/
inductive Fault where
  | raised (kind message : Text)
  | unbound (name : Text)
  | zeroDivision (message : Text)
  | missingKey (shown : Text)
  | indexRange (container : Text)
  | wrongType (message : Text)
  | wrongValue (message : Text)
  | noAttribute (message : Text)
  | overflow (message : Text)
  /-- A whole number has more digits than are read, so many, or than are written. -/
  | overlong (digits : Option Nat)
  | tooDeep
  /-- A loop that goes on for longer than any loop may. -/
  | endless
  /-- A part of a program that cannot be run on a page. -/
  | unsupported
  | file (problem : FileProblem) (path : Text)
  deriving DecidableEq, Repr

namespace Fault

/-- The name of the kind of fault. -/
def kind : Fault → Text
  | .raised kind _ => kind
  | .unbound _ => "NameError"
  | .zeroDivision _ => "ZeroDivisionError"
  | .missingKey _ => "KeyError"
  | .indexRange _ => "IndexError"
  | .wrongType _ => "TypeError"
  | .wrongValue _ | .overlong _ => "ValueError"
  | .noAttribute _ => "AttributeError"
  | .overflow _ => "OverflowError"
  | .tooDeep => "RecursionError"
  | .endless => "RuntimeError"
  | .unsupported => "NotImplementedError"
  | .file problem _ => problem.kind

/-- The wording of a fault. -/
def message : Fault → Text
  | .raised _ message | .wrongType message | .wrongValue message | .noAttribute message | .overflow message
  | .zeroDivision message => message
  | .unbound name => "name '" ++ name ++ "' is not defined"
  | .missingKey shown => shown
  | .indexRange container => container ++ " index out of range"
  | .overlong digits =>
    "Exceeds the limit (4300 digits) for integer string conversion" ++
      (digits.elim [] fun n => ": value has " ++ Text.ofNat n ++ " digits" : Text) ++
      "; use sys.set_int_max_str_digits() to increase the limit"
  | .tooDeep => "maximum recursion depth exceeded"
  | .endless => "the loop does not end"
  | .unsupported => "this cannot be run on a page"
  | .file problem path => problem.wording ++ ": " ++ Text.quoted path

end Fault

/-- How a value does not fit a setting. -/
inductive Misfit where
  | missing
  | noText
  | noPath
  | noWhole
  | noWholeText
  | hugeWhole
  | fraction
  | infinite
  | noTruth
  | noTruthText
  | noList
  | noEntry
  | refused
  deriving DecidableEq, Repr

/-- The code of a misfit. -/
def Misfit.code : Misfit → Text
  | missing => "missing"
  | noText => "string_type"
  | noPath => "path_type"
  | noWhole => "int_type"
  | noWholeText => "int_parsing"
  | hugeWhole => "int_parsing_size"
  | fraction => "int_from_float"
  | infinite => "finite_number"
  | noTruth => "bool_type"
  | noTruthText => "bool_parsing"
  | noList => "list_type"
  | noEntry => "model_type"
  | refused => "value_error"

/-- What a compilation, a rendering or a cache operation can end with. -/
inductive Error where
  | compile (e : CompileError)
  | config (message : Text)
  /-- Settings that do not fit, each with its name. -/
  | settings (misfits : List (Text × Misfit))
  | missingTemplate (name : Text) (searched : List Text)
  | component (name detail : Text)
  | cacheWrite (path detail : Text)
  | corruptManifest (path detail : Text)
  | evaluation (template : Text) (fault : Fault)
  | fault (f : Fault)
  deriving DecidableEq, Repr

namespace Error

/-- The lines that report one setting that does not fit. -/
def misfitLine (name : Text) (m : Misfit) : Text := "\n" ++ name ++ "\n  [type=" ++ m.code ++ "]"

/-- The report of settings that do not fit. -/
def misfitReport (misfits : List (Text × Misfit)) : Text :=
  let noun : Text := if misfits.length = 1 then " validation error" else " validation errors"
  Text.ofNat misfits.length ++ noun ++ " for ViewConfig" ++ misfits.flatMap fun (name, m) => misfitLine name m

/-- The wording of an error. -/
def message : Error → Text
  | .compile e => e.message
  | .config message => message
  | .settings misfits => misfitReport misfits
  | .missingTemplate name searched =>
    "Template not found: " ++ name ++
      (if searched.isEmpty then [] else " (searched: " ++ Text.join ", " searched ++ ")" : Text)
  | .component name detail => "Component '" ++ name ++ "': " ++ detail
  | .cacheWrite path detail => "Failed to write template cache " ++ path ++ ": " ++ detail
  | .corruptManifest path detail => "Corrupt template manifest " ++ path ++ ": " ++ detail
  | .evaluation template f => "Error rendering template '" ++ template ++ "': " ++ f.kind ++ ": " ++ f.message
  | .fault f => f.message

/-- An error of a template, as a value of the general type. -/
def ofCause (cause : Cause) : Error := .compile { cause }

end Error
end Stencil
