import Stencil.Number.Reading
import Stencil.Store.Basic

/-!
# The command line

A command line is options, the name of a command, and what the command takes.  An option is spelled out behind two
dashes, or is one letter behind a single dash; letters may be written together, and what an option takes may follow it
at once or as the next argument.  Behind two dashes alone stand no options.

Options of the program stand before the command; options of a command stand anywhere behind it.
-/

namespace Stencil.Command

/-- What is to be done. -/
inductive Task where
  | render (name : Text) (data dataFile : Option Text)
  | compile (name : Text)
  /-- Removes one compiled template, or all. -/
  | clear (name : Option Text)
  | purge (age : Int)
  | size
  deriving DecidableEq, Repr

/-- A command line. -/
structure Request where
  config : Option Text := none
  verbose : Bool := false
  debug : Bool := false
  task : Task
  deriving DecidableEq, Repr

/-! ## Options -/

/-- An option: how it is written, and whether it takes a text. -/
structure Switch where
  long : Text
  letter : Option Char := none
  takes : Bool := false
  deriving DecidableEq, Repr

/-- An option that was given, by its long name, with what it takes. -/
abbrev Given := Table Text

/-- The text that an option takes and the arguments behind it; `at_` is what follows the option in its own argument. -/
def taken (at_ : Option Text) (args : List Text) : Option (Text × List Text) :=
  match at_, args with
  | some s, args => some (s, args)
  | none, s :: args => some (s, args)
  | none, [] => none

/-- The options that letters in one argument write, and the arguments behind them. -/
def letters (switches : List Switch) (args : List Text) : Text → Option (Given × List Text)
  | [] => some ([], args)
  | c :: s => do
    let w ← switches.find? (·.letter = some c)
    if w.takes then
      let (v, args) ← taken (if s.isEmpty then none else some s) args
      return ([(w.long, v)], args)
    else
      let (given, args) ← letters switches args s
      return ((w.long, []) :: given, args)

/-- The option that an argument spells out, and the arguments behind it. -/
def spelled (switches : List Switch) (args : List Text) (s : Text) : Option (Given × List Text) := do
  let (name, at_) := match Text.cut? ['='] s with
    | some (name, v) => (name, some v)
    | none => (s, none)
  let w ← switches.find? (·.long = name)
  if w.takes then
    let (v, args) ← taken at_ args
    return ([(w.long, v)], args)
  else if at_.isSome then none
  else return ([(w.long, [])], args)

/-- The options and the other arguments of a command line; unless options may stand `anywhere`, the first other argument
ends them. -/
def options (switches : List Switch) (anywhere : Bool) : Nat → List Text → Option (Given × List Text)
  | 0, _ | _ + 1, [] => some ([], [])
  | _ + 1, ['-', '-'] :: args => some ([], args)
  | fuel + 1, ('-' :: c :: s) :: args => do
    let (given, args) ← if c = '-' then spelled switches args s else letters switches args (c :: s)
    let (more, rest) ← options switches anywhere fuel args
    return (given ++ more, rest)
  | fuel + 1, arg :: args =>
    if anywhere then (options switches anywhere fuel args).map fun (given, rest) => (given, arg :: rest)
    else some ([], arg :: args)

/-- What was given for an option last. -/
def Given.last? (name : Text) (g : Given) : Option Text := Table.get? name g.reverse

/-! ## Commands -/

/-- The options of the program. -/
def programSwitches : List Switch := [
  { long := "config", letter := some 'c', takes := true }, { long := "verbose", letter := some 'v' },
  { long := "debug" }]

/-- The options of rendering. -/
def renderSwitches : List Switch := [{ long := "data", takes := true }, { long := "data-file", takes := true }]

/-- The option of removing old templates. -/
def purgeSwitches : List Switch := [{ long := "max-age", takes := true }]

/-- What is to be done with the store. -/
def storeTask : List Text → Option Task
  | [] => none
  | command :: args =>
    match String.ofList command with
    | "clear" =>
      match options [] true (args.length + 1) args with
      | some (_, []) => some (.clear none)
      | some (_, [name]) => some (.clear (some name))
      | _ => none
    | "purge" =>
      match options purgeSwitches true (args.length + 1) args with
      | some (given, []) =>
        match given.last? "max-age" with
        | none => some (.purge Store.defaultAge)
        | some s => (Number.readInt s).toOption.map .purge
      | _ => none
    | "size" =>
      match options [] true (args.length + 1) args with
      | some (_, []) => some .size
      | _ => none
    | _ => none

/-- What is to be done. -/
def taskOf : List Text → Option Task
  | [] => none
  | command :: args =>
    match String.ofList command with
    | "render" =>
      match options renderSwitches true (args.length + 1) args with
      | some (given, [name]) => some (.render name (given.last? "data") (given.last? "data-file"))
      | _ => none
    | "compile" =>
      match options [] true (args.length + 1) args with
      | some (_, [name]) => some (.compile name)
      | _ => none
    | "cache" => do
      let (_, args) ← options [] false (args.length + 1) args
      storeTask args
    | _ => none

/-- The command line that arguments write, unless it is misused. -/
def Request.read (args : List Text) : Option Request := do
  let (given, rest) ← options programSwitches false (args.length + 1) args
  return {
    config := given.last? "config"
    verbose := (given.last? "verbose").isSome
    debug := (given.last? "debug").isSome
    task := ← taskOf rest }

end Stencil.Command
