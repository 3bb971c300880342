import Stencil.Component.Basic

/-!
# Finding and making components

Components are registered under names, by the application or by the framework; the application's come first.  A
component is made from a mapping: each parameter of its constructor takes the value under its name, and everything in
the mapping becomes data of the component.
-/

namespace Stencil

/-- What may be registered under a name: a class, or something else, by its text. -/
inductive Offer where
  | cls (c : ComponentClass)
  | other (shown : Text)

/-- The classes registered by the application and by the framework. -/
structure ComponentRegistry where
  app : Table ComponentClass := []
  framework : Table ComponentClass := []

namespace ComponentRegistry

/-- A letter of the basic alphabet. -/
def isLetter (c : Char) : Bool := ('a' ≤ c && c ≤ 'z') || ('A' ≤ c && c ≤ 'Z')

/-- A character behind the first one of a component's name. -/
def isNameChar (c : Char) : Bool := isLetter c || ('0' ≤ c && c ≤ '9') || c == '_' || c == '.'

/-- What components can be named: a letter, then letters, digits, underscores and dots, at the end perhaps a newline. -/
def isName (s : Text) : Bool :=
  match if s.getLast? = some '\n' then s.dropLast else s with
  | [] => false
  | c :: rest => isLetter c && rest.all isNameChar

/-- Registers a class. -/
def register (name : Text) (offer : Offer) (framework : Bool) (r : ComponentRegistry) :
    Except Fault ComponentRegistry :=
  if !isName name then .error (.wrongValue ("Invalid component name: " ++ Text.quoted name))
  else match offer with
    | .other shown => .error (.wrongType (shown ++ " is not a Component subclass"))
    | .cls c =>
      if framework then .ok { r with framework := r.framework.put name c }
      else .ok { r with app := r.app.put name c }

/-- The class registered under a name. -/
def resolve (name : Text) (r : ComponentRegistry) : Option ComponentClass := r.app.get? name <|> r.framework.get? name

/-- All names in ascending order. -/
def names (r : ComponentRegistry) : List Text := sortedNames (r.app.names ++ r.framework.names)

/-- The registry with the framework's own components. -/
def standard : ComponentRegistry := { framework := [("alert", .alert)] }

/-! ## Constructing from data -/

/-- What a constructor is called with. -/
structure Arguments where
  positional : List Value := []
  named : Table Value := []
  deriving Repr

/-- Gives a parameter its value, by name if it must be. -/
def Arguments.give (a : Arguments) (p : Parameter) (v : Value) : Arguments :=
  if p.taking = .named then { a with named := a.named.put p.name v }
  else { a with positional := a.positional ++ [v] }

/-- Entries of the data as named arguments. -/
def namedFrom (name : Text) (cls : ComponentClass) (entries : List (Value × Value)) : Except Error (Table Value) :=
  entries.mapM fun (k, v) =>
    match k.text? with
    | some s => .ok (s, v)
    | none => .error (.component name ("cannot construct " ++ cls.name ++ ": keywords must be strings"))

/-- A constructor's parameter takes its value from the data. -/
def takeParameter (name : Text) (cls : ComponentClass) (data : List (Value × Value)) (a : Arguments) (p : Parameter) :
    Except Error Arguments :=
  match p.taking with
  | .allPositional => .ok a
  | .allNamed => do
    let bound := cls.signature.parameters.map Parameter.name
    let rest := data.filter fun (k, _) => (k.text?.map fun s => !bound.contains s).getD true
    return { a with named := a.named ++ (← namedFrom name cls rest) }
  | _ =>
    match Value.lookup (.str p.name) data, p.default with
    | some v, _ => .ok (a.give p v)
    | none, default =>
      if p.name = "data" then .ok (a.give p (.dict data none))
      else match default with
        | some v => .ok (a.give p v)
        | none =>
          .error (.component name ("missing required parameter '" ++ p.name ++ "' for " ++ cls.name))

/-- The arguments of a constructor from the data. -/
def argumentsFrom (name : Text) (cls : ComponentClass) (data : List (Value × Value)) : Except Error Arguments :=
  cls.signature.parameters.foldlM (takeParameter name cls data) {}

/-- An error of a constructor: a wrong type means that the component cannot be constructed. -/
def constructionError (name : Text) (cls : ComponentClass) : Error → Error
  | .fault f =>
    if f.kind = "TypeError" then .component name ("cannot construct " ++ cls.name ++ ": " ++ f.message) else .fault f
  | e => e

end ComponentRegistry
end Stencil
