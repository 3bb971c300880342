import Stencil.Table
import Stencil.Text.Word
import Stencil.Value.Basic

/-!
# Registries

A registry holds what an application adds to the template language.

* A *directive* turns the argument text of `@name(…)` (none without a group) into program text.
* A *filter* turns the expression before `| name(…)` and the argument text into an expression; the result of a *safe*
  filter is not escaped.
* A *function* can be called by a filter while a page is rendered.

Handlers are functions and may fail: `Raised` says how.
-/

namespace Stencil

/-- How a handler, or reading its arguments, fails. -/
inductive Raised where
  /-- A fault of the template. -/
  | compile (e : CompileError)
  /-- Argument text that cannot be read. -/
  | scan (detail : Text)
  /-- Anything else. -/
  | fault (f : Fault)
  deriving DecidableEq, Repr

/-- A fault of the template without a place. -/
def Raised.ofCause (cause : Cause) : Raised := .compile { cause }

/-- The error that a failure becomes at a place of a template, inside a directive of a given name. -/
def Raised.locate (template : Text) (line : Int) (excerpt directive : Text) : Raised → Error
  | .compile e => .compile ((e.excerpted excerpt).locate (some template) (some line))
  | .scan detail =>
    .compile ⟨.expansion directive detail, some template, some line, some excerpt⟩
  | .fault f => .fault f

/-- Program text for the arguments of a directive; `none` and blank text add nothing. -/
abbrev DirectiveHandler := Option Text → Except Raised (Option Text)

/-- The expression for a filtered value, from the expression for the value and the argument text. -/
abbrev FilterHandler := Text → Option Text → Except Raised Text

/-- A filter: how it is applied, and whether its result is safe to print unescaped. -/
structure Filter where
  handler : FilterHandler
  safe : Bool

/-- What an application adds to the template language. -/
structure Registry where
  directives : Table DirectiveHandler := []
  filters : Table Filter := []
  functions : Table Function := []

namespace Registry

/-- Refuses what is no name. -/
def checkName (what name : Text) : Except Fault Unit :=
  if Text.isName name then .ok () else .error (.wrongValue ("Invalid " ++ what ++ " name: " ++ Text.quoted name))

/-- Registers a directive. -/
def addDirective (name : Text) (handler : DirectiveHandler) (r : Registry) : Except Fault Registry := do
  checkName "directive" name
  return { r with directives := r.directives.put name handler }

/-- Registers a filter. -/
def addFilter (name : Text) (filter : Filter) (r : Registry) : Except Fault Registry := do
  checkName "filter" name
  return { r with filters := r.filters.put name filter }

/-- A call with a value and, unless empty, further argument text. -/
def call (function value : Text) : Option Text → Text
  | none | some [] => function ++ "(" ++ value ++ ")"
  | some args => function ++ "(" ++ value ++ ", " ++ args ++ ")"

/-- The filter that calls a registered function. -/
def callFilter (name : Text) : FilterHandler := fun value args =>
  .ok (call ("_filters[" ++ Text.quoted name ++ "]") value args)

/-- Registers a function together with the filter that calls it. -/
def addFunction (name : Text) (function : Function) (safe : Bool) (r : Registry) : Except Fault Registry := do
  checkName "filter" name
  return { r with
    functions := r.functions.put name function
    filters := r.filters.put name ⟨callFilter name, safe⟩ }

/-- A filter that wraps the value's expression and takes no arguments. -/
def wrapFilter (opening closing : Text) : FilterHandler := fun value _ => .ok (opening ++ value ++ closing)

/-- A filter that calls a helper with its arguments. -/
def helperFilter (function : Text) : FilterHandler := fun value args => .ok (call function value args)

/-- Argument text, or the empty literal where there is none. -/
def orEmpty : Option Text → Text
  | none | some [] => "''"
  | some args => args

/-- The filters that every template knows. -/
def builtinFilters : Table Filter := [
  ("upper", ⟨wrapFilter "_rt.to_str(" ").upper()", false⟩),
  ("lower", ⟨wrapFilter "_rt.to_str(" ").lower()", false⟩),
  ("title", ⟨wrapFilter "_rt.to_str(" ").title()", false⟩),
  ("trim", ⟨wrapFilter "_rt.to_str(" ").strip()", false⟩),
  ("length", ⟨wrapFilter "len(" ")", false⟩),
  ("default", ⟨fun value args => .ok (call "_rt.or_default" value (some (orEmpty args))), false⟩),
  ("date", ⟨helperFilter "_rt.format_date", false⟩),
  ("format", ⟨fun value args => .ok ("(_rt.to_str(" ++ args.getD "None" ++ ") % (" ++ value ++ ",))"), false⟩),
  ("number", ⟨helperFilter "_rt.number_format", false⟩),
  ("escape", ⟨wrapFilter "_rt.e(" ")", true⟩),
  ("attr", ⟨wrapFilter "_rt.e(" ")", true⟩),
  ("url", ⟨wrapFilter "_rt.urlencode(" ")", false⟩),
  ("nl2br", ⟨wrapFilter "_rt.nl2br(" ")", true⟩),
  ("json", ⟨helperFilter "_rt.to_json", true⟩),
  ("raw", ⟨wrapFilter [] [], true⟩)]

/-- The registry with the filters that every template knows. -/
def standard : Registry := { filters := builtinFilters }

end Registry
end Stencil
