import Stencil.Markup.Family
import Stencil.Markup.Directive
import Stencil.Markup.Region
import Stencil.Markup.Structure

/-!
# Reading a template

A template is read in a fixed order of passes; each one turns its own markup into final nodes, and what it has not
recognised stays text for the next one.  Regions come first, then comments and structure, then the families of
directives, and last the doubled `@` that stands for a single one.

A `Reading` holds the includes that were met, up to the first failure, beside the nodes: the included templates are
looked at before a later failure of the including one counts.
-/

namespace Stencil.Markup

/-- Names that mark structure or regions. -/
def outerNames : List Text :=
  ["extends", "section", "endsection", "show", "yield", "verbatim", "endverbatim", "python", "endpython"]

/-- The built-in directives that are read family by family. -/
def innerDirectives : List Directive :=
  csrf ++ json ++ control ++ auth ++ parent ++ permission ++ component ++ componentSlot ++ push

/-- All built-in names. -/
def builtinNames : List Text := innerDirectives.map Directive.name ++ [("include" : Text)] ++ outerNames

/-- All names that a registry knows. -/
def knownNames (registry : Registry) : List Text := builtinNames ++ registry.directives.names

/-- The rule that reads a doubled `@` before a known name as a single one. -/
def escaped (names : List Text) : Rule (List Node) := fun p =>
  match p.rest with
  | '@' :: '@' :: rest =>
    (nameAt? (byLength names) rest).map fun (name, _) =>
      .accepted (name.length + 2) (.ok [.verbatim p.line ('@' :: name)])
  | _ => none

/-- Applies rules one after the other. -/
def rewriteAll (rules : List (Rule (List Node))) (nodes : List Node) : Except Error (List Node) :=
  rules.foldlM (fun nodes rule => rewrite rule nodes) nodes

/-- The rules between structure and includes, in order. -/
def rulesBeforeIncludes (registry : Registry) (template : Text) : List (Rule (List Node)) := [
  family template (custom registry),
  family template csrf,
  echo registry template,
  rawEcho template,
  family template json,
  family template control,
  family template auth,
  family template parent,
  family template permission,
  family template component,
  family template componentSlot]

/-- The rules behind includes, in order. -/
def rulesAfterIncludes (registry : Registry) (template : Text) : List (Rule (List Node)) := [
  family template push,
  escaped (knownNames registry)]

/-- The nodes of a template after its regions and comments are taken out. -/
def readPlain (source : Text) : Except Error (List Node) := do rewrite comment (← extractRegions source)

/-- The nodes of a template after its structure is read. -/
def readStructure (template source : Text) : Except Error (List Node) := do
  structure? template (← readPlain source)

/-- The nodes of a template before its includes are read. -/
def readInner (registry : Registry) (template source : Text) : Except Error (List Node) := do
  rewriteAll (rulesBeforeIncludes registry template) (← readStructure template source)

/-- A template as it was read. -/
structure Reading where
  /-- The includes met before any failure, in document order. -/
  inclusions : List Inclusion
  /-- The nodes, or the first failure. -/
  nodes : Except Error (List Node)

/-- Reads a template under its name. -/
def read (registry : Registry) (template source : Text) : Reading :=
  match readInner registry template source with
  | .error e => ⟨[], .error e⟩
  | .ok nodes =>
    { inclusions := untilFailure (findings ((inclusion template).map Prod.fst) nodes)
      nodes := do
        rewriteAll (rulesAfterIncludes registry template) (← rewrite ((inclusion template).map Prod.snd) nodes) }

/-- The distinct names that a template includes, in order of first occurrence. -/
def Reading.dependencies (r : Reading) : List Text := (r.inclusions.map Inclusion.name).eraseDups

end Stencil.Markup
