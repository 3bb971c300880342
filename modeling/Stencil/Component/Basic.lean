import Stencil.Output.Plain
import Stencil.Value.Access
import Stencil.Value.Call

/-!
# Components

A component is a small thing with data and named slots that a page shows.  It renders a template, or composes its text
itself.

* `Bag` — what a component holds: data, slots and attributes of its own.
* `Fragment` — a part of a composed text: literal, or the text of a value.
* `ComponentClass` — how components of one kind are made, set up and composed.
* `Component` — one component.
-/

namespace Stencil

/-- What a component holds; its data have an identity once they have been handed out. -/
structure Bag where
  data : List (Value × Value) := []
  who : Option Identity := none
  slots : List (Value × Value) := []
  attributes : Table Value := []
  deriving Repr, Inhabited

namespace Bag

/-- The data under a key, or a default. -/
def get (b : Bag) (key default : Value) : Value := (Value.lookup key b.data).getD default

/-- Puts data under a key. -/
def set (b : Bag) (key v : Value) : Bag := { b with data := Value.bind key v b.data }

/-- There is data under a key. -/
def has (b : Bag) (key : Value) : Bool := (Value.lookup key b.data).isSome

/-- Removes the data under a key. -/
def remove (b : Bag) (key : Value) : Bag := { b with data := b.data.filter fun (k, _) => !Value.alike k key }

/-- Without data; what has been handed out stays as it is. -/
def clear (b : Bag) : Bag := { b with data := [], who := none }

/-- Puts several entries into the data; later ones win. -/
def merge (b : Bag) (entries : List (Value × Value)) : Bag :=
  { b with data := entries.foldl (fun d (k, v) => Value.bind k v d) b.data }

/-- The content of a slot without blanks around it; markup stays markup. -/
def slotContent : Value → Except Fault Value
  | .str s => .ok (.str (Text.strip s))
  | .markup s => .ok (.markup (Text.strip s))
  | v => .error (.noAttribute (Text.quoted v.kind ++ " object has no attribute 'strip'"))

/-- Fills a slot. -/
def setSlot (b : Bag) (name content : Value) : Except Fault Bag := do
  let content ← slotContent content
  Value.checkKey name
  return { b with slots := Value.bind name content b.slots }

/-- The content of a slot, or a default. -/
def getSlot (b : Bag) (name default : Value) : Value := (Value.lookup name b.slots).getD default

/-- A slot has content. -/
def hasSlot (b : Bag) (name : Value) : Bool := !Value.equal (b.getSlot name (.str [])) (.str [])

end Bag

/-- A part of a composed text. -/
inductive Fragment where
  | literal (s : Text)
  /-- The text of a value. -/
  | shown (v : Value)
  deriving Repr

/-- A kind of component. -/
structure ComponentClass where
  name : Text
  /-- The template that components of this kind render; without one they compose themselves. -/
  view : Text := []
  /-- Slots are escaped where the template asks for them. -/
  escapes : Bool := true
  /-- How a component is constructed. -/
  signature : Signature :=
    { name := "Component.__init__", parameters := [{ name := "data", default := some .null }], receiver := true }
  /-- The data, from which a mapping is made, and the attributes of a new component. -/
  construct : Bound → Except Fault (Value × Table Value) := fun b => .ok (b.get "data", [])
  /-- Sets up a new component. -/
  prepare : Bag → Except Fault Bag := .ok
  /-- The text of a component without a template. -/
  compose : Option (Bag → Except Fault (List Fragment)) := none

/-- A component; it is attached to the view that renders it. -/
structure Component extends Bag where
  cls : ComponentClass
  attached : Bool := false

instance : Inhabited Component := ⟨{ cls := { name := [] } }⟩

namespace ComponentClass

/-- The kind of components that have a template and no class of their own. -/
def anonymous (view : Text) : ComponentClass :=
  { name := "AnonymousComponent", view }

/-- A notice box; its type selects how it looks. -/
def alert : ComponentClass where
  name := "Alert"
  view := "components.alert"
  prepare b :=
    let b := b.set (.str "type") (b.get (.str "type") (.str "info"))
    .ok (b.set (.str "title") (b.get (.str "title") (.str "Notice")))

end ComponentClass

namespace Component

/-- The template that a component renders. -/
def view (c : Component) : Text := c.cls.view

/-- The fault of an attribute that is neither there nor in the data. -/
def noAttribute (className name : Text) : Fault :=
  .noAttribute (className ++ " has no attribute or data key '" ++ name ++ "'")

end Component
end Stencil
