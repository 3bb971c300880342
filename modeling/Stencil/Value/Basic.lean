import Stencil.Error

/-!
# Values

The values that template data holds and expressions compute.  A value is a tree.  Lists, sets, mappings and records can
change while a page is rendered, and several names may stand for the same one: each carries its *identity*, and what it
holds in the tree is what it held when the tree was taken.  Components, loop frames and streams are named by their
number in the rendering state.  Mappings keep their entries in the order of insertion.
-/

namespace Stencil

/-- A calendar day. -/
structure Day where
  year : Nat
  month : Nat
  day : Nat
  deriving DecidableEq, Repr

/-- A day, a time of day and, if known, the offset from universal time in microseconds. -/
structure Moment where
  day : Day
  hour : Nat := 0
  minute : Nat := 0
  second : Nat := 0
  micro : Nat := 0
  offset : Option Int := none
  deriving DecidableEq, Repr

/-- Which of a component's slot helpers a template calls. -/
inductive SlotHelper where
  | accessor
  | probe
  | raw
  deriving DecidableEq, Repr

/-- What can be listed of a mapping. -/
inductive Listing where
  | keys
  | values
  | items
  deriving DecidableEq, Repr

/-- What tells one thing that can change from another that looks the same: when it came into being, and where in the value
that came into being then. -/
structure Identity where
  birth : Nat
  place : List Text := []
  deriving DecidableEq, Repr

/-- A value of a template; what can change has no identity yet while it is being computed. -/
inductive Value where
  | null
  | bool (b : Bool)
  | int (n : Int)
  | float (x : Float)
  | str (s : Text)
  /-- Text that is markup already. -/
  | markup (s : Text)
  | list (items : List Value) (who : Option Identity)
  | tuple (items : List Value)
  | set (items : List Value) (who : Option Identity)
  | frozenSet (items : List Value)
  | dict (entries : List (Value × Value)) (who : Option Identity)
  /-- What is listed of the mapping with these entries. -/
  | listing (kind : Listing) (entries : List (Value × Value)) (who : Option Identity)
  | range (start stop step : Int)
  | day (d : Day)
  | moment (m : Moment)
  /-- A record of named fields. -/
  | record (fields : List (Text × Value)) (who : Option Identity)
  /-- A list or mapping inside itself. -/
  | within (mapping : Bool) (who : Identity)
  /-- Something that has no text and no serial form. -/
  | object
  /-- The view that renders the page. -/
  | view
  /-- The helpers and the registered functions that a program reaches by name. -/
  | helpers
  | registered
  | frame (id : Nat)
  /-- A component, and the name of its class. -/
  | component (id : Nat) (cls : Text)
  /-- Values that can be taken one after the other, once, and the kind of thing that gives them. -/
  | stream (id : Nat) (source : Text)
  /-- A built-in function. -/
  | builtin (name : Text)
  /-- A function of the helpers, a registered one, a method bound to its receiver, a component's slot helper. -/
  | helper (name : Text)
  | function (name : Text)
  | method (receiver : Value) (name : Text)
  | slot (helper : SlotHelper) (id : Nat)
  deriving Repr, Inhabited

/-- A function that a filter may call while a page is rendered: positional arguments to a value. -/
abbrev Function := List Value → Except Fault Value

end Stencil
