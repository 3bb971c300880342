import Stencil.Output.Embedded
import Stencil.Value.Arith
import Stencil.View.Template

/-!
# What a program can ask of its view and of components

A program reaches the view and components by methods with positional and named arguments.  The directives of a template
become calls of the view's methods.
-/

namespace Stencil

/-- A method of the view. -/
inductive ViewMethod where
  | render
  | makePartial
  | compile
  | echo
  | extendsLayout
  | startSection
  | endSection
  | setSection
  | yieldSection
  | sectionExists
  | parentSection
  | startPush
  | endPush
  | yieldPush
  | startComponent
  | renderComponent
  | slot
  | endSlot
  | addLoop
  | popLoop
  | checkAuth
  | allows
  | denies
  | csrfField
  | csrfToken
  | csrfMetaTag
  | toJson
  | asset
  | clearCache
  | clearTemplateCache
  | clearExpiredCache
  | cacheSize
  deriving DecidableEq, Repr

/-- A method of a component. -/
inductive ComponentMethod where
  | get
  | set
  | has
  | remove
  | clearData
  | setData
  | setSlot
  | getSlot
  | hasSlot
  | setSlots
  | clearSlots
  | prepare
  | slotAccessor
  | viewData
  | render
  | renderView
  | compose
  deriving DecidableEq, Repr

namespace Method

/-- A parameter that must be given. -/
def need (name : Text) : Parameter := { name }

/-- A parameter with a default. -/
def may (name : Text) (v : Value) : Parameter := { name, default := some v }

/-- The methods for printing and for what a page is made of, with their parameters. -/
def ofPage : Table (ViewMethod × List Parameter) :=
  [("render", .render, [need "name", may "data" .null]),
    ("make_partial", .makePartial, [need "name", may "data" .null]),
    ("compile", .compile, [need "name"]),
    ("_echo", .echo, [need "value"]),
    ("extends_layout", .extendsLayout, [need "name"]),
    ("start_section", .startSection, [need "name"]),
    ("end_section", .endSection, []),
    ("set_section", .setSection, [need "name", need "content"]),
    ("yield_section", .yieldSection, [need "name", may "default" (.str [])]),
    ("section_exists", .sectionExists, [need "name"]),
    ("parent_section", .parentSection, []),
    ("start_push", .startPush, [need "name"]),
    ("end_push", .endPush, []),
    ("yield_push", .yieldPush, [need "name", may "default" (.str [])]),
    ("start_component", .startComponent, [need "name", may "data" .null]),
    ("render_component", .renderComponent, []),
    ("slot", .slot, [need "name"]),
    ("end_slot", .endSlot, [])]

/-- The methods for loops, the request and the store, with their parameters. -/
def ofRequest : Table (ViewMethod × List Parameter) :=
  [("add_loop", .addLoop, [need "iterable"]),
    ("pop_loop", .popLoop, []),
    ("check_auth", .checkAuth, []),
    ("allows", .allows, [need "ability", { name := "arguments", taking := .allPositional }]),
    ("denies", .denies, [need "ability", { name := "arguments", taking := .allPositional }]),
    ("csrf_field", .csrfField, []),
    ("csrf_token", .csrfToken, []),
    ("csrf_meta_tag", .csrfMetaTag, []),
    ("to_json", .toJson, [need "value", may "indent" .null]),
    ("asset", .asset, [need "path"]),
    ("clear_cache", .clearCache, []),
    ("clear_template_cache", .clearTemplateCache, [need "name"]),
    ("clear_expired_cache", .clearExpiredCache, [may "max_age" (.int Store.defaultAge)]),
    ("cache_size", .cacheSize, [])]

/-- The methods of the view by name, with their parameters. -/
def ofView : Table (ViewMethod × List Parameter) := ofPage ++ ofRequest

/-- The methods of components by name, with their parameters. -/
def ofComponent : Table (ComponentMethod × List Parameter) :=
  [("get", .get, [need "key", may "default" .null]),
    ("set", .set, [need "key", need "value"]),
    ("has", .has, [need "key"]),
    ("remove", .remove, [need "key"]),
    ("clear_data", .clearData, []),
    ("set_data", .setData, [need "data"]),
    ("set_slot", .setSlot, [need "name", need "content"]),
    ("get_slot", .getSlot, [need "name", may "default" (.str [])]),
    ("has_slot", .hasSlot, [need "name"]),
    ("set_slots", .setSlots, [need "slots"]),
    ("clear_slots", .clearSlots, []),
    ("initialize", .prepare, []),
    ("slot_accessor", .slotAccessor, []),
    ("view_data", .viewData, []),
    ("render", .render, []),
    ("render_view", .renderView, []),
    ("compose", .compose, [])]

/-- The signature of a method of the view. -/
def viewSignature (name : Text) (parameters : List Parameter) : Signature :=
  { name := "View." ++ name, parameters, receiver := true }

/-- The signature of a method of components. -/
def componentSignature (name : Text) (parameters : List Parameter) : Signature :=
  { name := "Component." ++ name, parameters, receiver := true }

end Method

namespace Run

/-- Does something that has no result. -/
def quietly (act : Run Unit) : Run Value := do
  act
  return .null

/-- A count as a value. -/
def counted (act : Run Nat) : Run Value := return .int (← act)

/-- An age in seconds. -/
def ageOf : Value → Run Age
  | .int n => return .whole n
  | .bool b => return .truth b
  | .float x => return .fraction x
  | v => raise (Value.unsupported "-" (.int 0) v)

/-- Defines a section by the text of a value, which is asked for only where it is used. -/
def fillSection (inner : Inner) (name content : Value) : Run Unit := do
  match ← sectionText? name with
  | none => define name (characters (← printed inner content))
  | some old => if Text.contains parentMark old then define name (characters (← printed inner content))

/-- The content of a section, or the text of a default. -/
def yieldSection (inner : Inner) (name default : Value) : Run Value := do
  match ← sectionText? name with
  | some s => return .str s
  | none => printed inner default

/-- The bodies of a push, or the text of a default if they are empty. -/
def yieldPush (inner : Inner) (name default : Value) : Run Value := do
  match ← pushText name with
  | [] => printed inner default
  | s => return .str s

/-- Drops every compiled template, stored or remembered. -/
def clearStore (v : View) : Run Nat := do
  modify fun s => { s with memory := s.memory.clear }
  work v.store.clear

/-- Calls a method of the view. -/
def callView (v : View) (inner : Inner) (m : ViewMethod) (b : Bound) : Run Value :=
  let name := b.get "name"
  match m with
  | .render => return .str (← renderPage v inner name (b.get "data"))
  | .makePartial => partialOf v inner name (b.get "data")
  | .compile => do return .str (← compileTemplate v (← templateName v name))
  | .echo => quietly (echo inner (b.get "value"))
  | .extendsLayout => quietly (modifyPass fun p => { p with layout := name })
  | .startSection => quietly (openSection name)
  | .endSection => quietly closeSection
  | .setSection => quietly (fillSection inner name (b.get "content"))
  | .yieldSection => yieldSection inner name (b.get "default")
  | .sectionExists => return .bool (← sectionText? name).isSome
  | .parentSection => return .str parentMark
  | .startPush => quietly (openCapture .push name none)
  | .endPush => quietly closePush
  | .yieldPush => yieldPush inner name (b.get "default")
  | .startComponent => quietly (openComponent v name (b.get "data"))
  | .renderComponent => closeComponent v inner
  | .slot => quietly (openSlot name)
  | .endSlot => quietly closeSlot
  | .addLoop => openLoop (b.get "iterable")
  | .popLoop => quietly closeLoop
  | .checkAuth => return .bool v.context.signedIn
  | .allows => return .bool (v.context.allows (b.get "ability" :: b.extra))
  | .denies => return .bool !(v.context.allows (b.get "ability" :: b.extra))
  | .csrfField => return .markup v.context.tokenField
  | .csrfToken => return .str v.context.token
  | .csrfMetaTag => return .markup v.context.tokenMeta
  | .toJson => return .markup (← lift (Output.json (b.get "value") (b.get "indent")))
  | .asset => lift (v.context.asset (b.get "path"))
  | .clearCache => counted (clearStore v)
  | .clearTemplateCache => counted do work (v.store.forget (← templateName v name))
  | .clearExpiredCache => counted do work (v.store.purge (← ageOf (b.get "max_age")))
  | .cacheSize => counted (work v.store.size)

/-- The content of a slot as a template sees it. -/
def slotFor (inner : Inner) (id : Nat) (name default : Value) : Run Value := do
  lift (Value.checkKey name)
  let c ← component id
  match c.getSlot name default with
  | .markup s => return .markup s
  | content =>
    if !c.cls.escapes then return content
    match ← printed inner content with
    | .markup s => return .markup s
    | s => return .markup (Text.html (characters s))

/-- Calls a method of a component. -/
def callComponent (v : View) (inner : Inner) (id : Nat) (m : ComponentMethod) (b : Bound) : Run Value :=
  let key := b.get "key"
  let name := b.get "name"
  let change (f : Bag → Bag) : Run Value := quietly do
    lift (Value.checkKey key)
    modifyBag id fun bag => .ok (f bag)
  let look {α : Type} (k : Value) (f : Bag → α) : Run α := do
    lift (Value.checkKey k)
    return f (← component id).toBag
  match m with
  | .get => look key (·.get key (b.get "default"))
  | .set => change (·.set key (b.get "value"))
  | .has => return .bool (← look key (·.has key))
  | .remove => do if (← component id).data.isEmpty then return .null else change (·.remove key)
  | .clearData => quietly (modifyBag id fun bag => .ok bag.clear)
  | .setData => quietly do
    let bag := (← component id).toBag
    let (data, fault) ← entriesInto bag.data (b.get "data")
    setBag id { bag with data }
    match fault with
    | some f => raise f
    | none => return
  | .setSlot => quietly (modifyBag id fun bag => bag.setSlot name (b.get "content"))
  | .getSlot => look name (·.getSlot name (b.get "default"))
  | .hasSlot => return .bool (← look name (·.hasSlot name))
  | .setSlots => quietly do
    let slots ← entriesFrom (b.get "slots")
    modifyBag id fun bag => .ok { bag with slots }
  | .clearSlots => quietly (modifyBag id fun bag => .ok { bag with slots := [] })
  | .prepare => quietly do
    let c ← component id
    modifyBag id c.cls.prepare
  | .slotAccessor => return .slot .accessor id
  | .viewData => return .dict (← viewData id) none
  | .render => renderComponent v inner id
  | .renderView => renderTemplate inner id
  | .compose => compose inner id

/-- The signature of a component's slot helper. -/
def slotSignature : SlotHelper → Signature
  | .accessor =>
    { name := "Component.slot_accessor.<locals>.slot"
      parameters := [Method.need "name", Method.may "default" (.str [])] }
  | .probe => Method.componentSignature "has_slot" [Method.need "name"]
  | .raw => Method.componentSignature "get_slot" [Method.need "name", Method.may "default" (.str [])]

/-- Calls a component's slot helper. -/
def callSlot (v : View) (inner : Inner) (helper : SlotHelper) (id : Nat) (b : Bound) : Run Value :=
  match helper with
  | .accessor => slotFor inner id (b.get "name") (b.get "default")
  | .probe => callComponent v inner id .hasSlot b
  | .raw => callComponent v inner id .getSlot b

/-! ## Attributes -/

/-- What a program sees of a loop frame. -/
def frameAttribute? (f : Frame) : Text → Option Value := fun name =>
  Table.get? name [
    ("count", .int f.count), ("depth", .int f.depth), ("iteration", .int f.iteration), ("index", .int f.index),
    ("remaining", .int f.remaining), ("first", .bool f.first), ("last", .bool f.last), ("odd", .bool f.odd),
    ("even", .bool f.even), ("parent", (f.parent.map Value.frame).getD .null)]

/-- What a program sees of the view beside its methods. -/
def viewAttribute? (v : View) (name : Text) : Run (Option Value) := do
  let p ← pass
  return Table.get? name [
    ("last_loop", ← lastLoop), ("loop_depth", .int p.loops.length), ("in_loop", .bool !p.loops.isEmpty),
    ("debug", .bool v.config.debug)]

/-- The data of a component as they are handed out: what changes in them changes in the component. -/
def dataOf (id : Nat) : Run Value := do
  let c ← component id
  match c.who with
  | some who => return .dict c.data who
  | none =>
    match ← settle (.dict c.data none) with
    | .dict data who =>
      modifyComponent id fun c => { c with data, who }
      return .dict data who
    | v => return v

/-- What a program sees of a component: what every component has, its own attributes, what its class says, its data. -/
def componentAttribute (v : View) (id : Nat) (name : Text) : Run Value := do
  let c ← component id
  if name = "data" || name = "_data" then return ← dataOf id
  if name = "slots" || name = "_slots" then return ← settle (.dict c.slots none)
  let common : Table Value := [
    ("debug", .bool (showsErrors v c)), ("_view_instance", if c.attached then .view else .null)]
  let ofClass : Table Value := [("view", .str c.view), ("escape_slots_by_default", .bool c.cls.escapes)]
  let method : Option Value :=
    if Method.ofComponent.has name then some (.method (.component id c.cls.name) name) else none
  match common.get? name <|> c.attributes.get? name <|> ofClass.get? name <|> method <|>
      Value.lookup (.str name) c.data with
  | some found => return found
  | none => raise (Component.noAttribute c.cls.name name)

/-- Gives a component an attribute of its own, unless it is one that every component has. -/
def setComponentAttribute (id : Nat) (name : Text) (v : Value) : Run Unit := do
  let c ← component id
  if name = "data" || name = "slots" || name = "debug" then
    raise (.noAttribute ("property " ++ Text.quoted name ++ " of " ++ Text.quoted c.cls.name ++
      " object has no setter"))
  setBag id { c.toBag with attributes := c.attributes.put name v }

end Run
end Stencil
