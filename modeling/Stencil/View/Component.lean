import Stencil.View.Capture
import Stencil.View.Loop

/-!
# Components on a page

A component is rendered inside the pass of the page that shows it.  A template that fails inside a component does not
take the page with it: the failure is reported, and a fragment stands in its place, unless the template could not be
compiled or a component could not be made.

Evaluating a template and rendering a component need each other; `Inner` is what a step may use of both.
-/

namespace Stencil

/-- How templates and components inside a template are evaluated. -/
structure Inner where
  /-- The text of a template with data. -/
  evaluate : Text → List (Value × Value) → Run Text
  /-- The text of a component. -/
  render : Nat → Run Value

namespace Run

/-! ## Texts of values -/

/-- The text of a value; a component is rendered. -/
def textOf (inner : Inner) : Value → Run Value
  | .component id _ => inner.render id
  | v => do return .str (← lift (Value.write (← get).shown (← now v)))

/-- The text that a page shows for a value: nothing for nothing. -/
def printed (inner : Inner) : Value → Run Value
  | .null => return .str []
  | v => textOf inner v

/-- The characters of a text. -/
def characters (v : Value) : Text := v.text?.getD []

/-- Prints a value. -/
def echo (inner : Inner) (v : Value) : Run Unit := do
  if (← pass).captures.isEmpty then raise (.indexRange "list")
  print (characters (← printed inner v))

/-! ## Rendering -/

/-- The text of a composed component. -/
def composeText (inner : Inner) (fragments : List Fragment) : Run Text := do
  let parts ← fragments.mapM fun
    | .literal s => return s
    | .shown v => return characters (← textOf inner v)
  return parts.flatten

/-- Composes a component without a template. -/
def compose (inner : Inner) (id : Nat) : Run Value := do
  let c ← component id
  match c.cls.compose with
  | none => throw (.component c.cls.name "set the 'view' attribute or override compose()")
  | some f => return .str (← composeText inner (← lift (f c.toBag)))

/-- The names that a component's template knows beside its data. -/
def viewData (id : Nat) : Run (List (Value × Value)) := do
  let c ← component id
  let more : List (Value × Value) := [
    (.str "slots", ← settle (.dict c.slots none)), (.str "component", .component id c.cls.name), (.str "slot", .slot .accessor id),
    (.str "has_slot", .slot .probe id), (.str "unescaped_slot", .slot .raw id)]
  return (c.toBag.merge more).data

/-- Renders the template of a component. -/
def renderTemplate (inner : Inner) (id : Nat) : Run Value := do
  let c ← component id
  if !c.attached then throw (.component c.cls.name "no view instance to render with")
  return .markup (← inner.evaluate c.view (← viewData id))

/-- A component shows its errors: it is attached to a view that is debugging. -/
def showsErrors (v : View) (c : Component) : Bool := c.attached && v.config.debug

/-- What stands in the place of a component that failed. -/
def failureFragment (shows : Bool) (message : Text) : Text :=
  if shows then
    "<div class=\"component-error\"><strong>Component Error:</strong> " ++ Text.html message ++ "</div>"
  else "<div class=\"component-error\">Component rendering failed</div>"

/-- Renders a component. -/
def renderComponent (v : View) (inner : Inner) (id : Nat) : Run Value :=
  tryCatch (do if (← component id).view.isEmpty then compose inner id else renderTemplate inner id) fun
    | .compile e => throw (.compile e)
    | .component name detail => throw (.component name detail)
    | e => do
      let c ← component id
      report .error ("Component rendering error in " ++ c.cls.name ++ ": " ++ e.message) true
      return .str (failureFragment (showsErrors v c) e.message)

/-! ## Making components -/

/-- The templates that a component without a class may have. -/
def anonymousTemplates (name : Text) : List Text := ["components." ++ name, name]

/-- The first of several templates that has a file. -/
def firstTemplate (v : View) : List Text → Run (Option Text)
  | [] => return none
  | name :: rest => do
    match v.finder.has (← get).disk.files name with
    | .ok true => return some name
    | .ok false => firstTemplate v rest
    | .error e => throw e

/-- A new component of a class. -/
def construct (cls : ComponentClass) (args : List Value) (named : Table Value) : Run Component := do
  let (data, attributes) ← lift (do cls.construct (← cls.signature.bind args named))
  let data ← entriesOrNone data
  let bag ← lift (cls.prepare { data, attributes })
  return { bag with cls }

/-- A component of a class from data, all of which it holds. -/
def constructFrom (name : Text) (cls : ComponentClass) (data : List (Value × Value)) : Run Component := do
  match ComponentRegistry.argumentsFrom name cls data with
  | .error e => throw e
  | .ok a =>
    let c ← tryCatch (construct cls a.positional a.named) fun e => throw (ComponentRegistry.constructionError name cls e)
    return { c.toBag.merge data with cls, attached := true }

/-- Makes a component from data. -/
def create (v : View) (name : Value) (data : List (Value × Value)) : Run Nat := do
  match name.text? with
  | none => raise (.wrongType ("expected string or bytes-like object, got " ++ Text.quoted name.kind))
  | some name =>
    if !ComponentRegistry.isName name then throw (.component name "invalid component name")
    match v.components.resolve name with
    | some cls => addComponent (← constructFrom name cls data)
    | none =>
      match ← firstTemplate v (anonymousTemplates name) with
      | some template => addComponent { cls := .anonymous template, data, attached := true }
      | none => throw (.component name "no class registered and no template found")

/-- Opens a component. -/
def openComponent (v : View) (name data : Value) : Run Unit := do
  let id ← create v name (← entriesOrNone data)
  openCapture .component name (some id)

/-- The captures inside the innermost component that is open, that component's capture, and the ones around it. -/
def splitAtComponent : List Capture → Option (List Capture × Capture × List Capture)
  | [] => none
  | c :: rest =>
    if c.kind = .component then some ([], c, rest)
    else (splitAtComponent rest).map fun (inside, found, around) => (c :: inside, found, around)

/-- The kinds of captures, outermost first. -/
def kindsOf (captures : List Capture) : Text := Text.join ", " (captures.reverse.map fun c => c.kind.name)

/-- Takes the capture of the innermost component that is open; what was left open inside it is discarded. -/
def takeComponent : Run (Option Capture) := do
  match splitAtComponent (← pass).captures with
  | none =>
    warn "@endcomponent without an open component ignored"
    return none
  | some (inside, capture, around) =>
    if !inside.isEmpty then
      warn ("Discarding unclosed " ++ kindsOf inside ++ " output inside component")
    modifyPass fun p => { p with captures := around }
    return some capture

/-- Renders the component that a capture was opened for, with what the capture collected as its default slot. -/
def fillAndRender (v : View) (inner : Inner) (capture : Capture) : Run Value := do
  let id := capture.component.getD 0
  modifyComponent id fun c => { c with attached := true }
  modifyBag id fun b => b.setSlot (.str "default") (.markup capture.text)
  renderComponent v inner id

/-- Closes the innermost component that is open and gives its text. -/
def closeComponent (v : View) (inner : Inner) : Run Value := do
  match ← takeComponent with
  | none => return .str []
  | some capture => fillAndRender v inner capture

end Run
end Stencil
