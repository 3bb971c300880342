import Stencil.Json.Printer
import Stencil.Value.Show

/-!
# Values as JSON

Texts, numbers, truth values, lists, tuples and mappings have a JSON form.  Dates become their text, sets become sorted
lists, records become objects, whole numbers are written up to their greatest length.  The keys of a mapping are texts, numbers, truth values or nothing, written as texts.
Everything else has no JSON form, and so has what contains it.
-/

namespace Stencil.Value

/-- The text of a mapping's key in JSON. -/
def keyText? : Value → Option Text
  | .str s | .markup s => some s
  | .int n => if Number.isOverlong n then none else some (Text.ofInt n)
  | .bool b => some (if b then "true" else "false")
  | .null => some "null"
  | .float x => some (Json.number x)
  | _ => none

mutual

/-- The JSON form of a value. -/
def toJson? : Value → Option Json
  | .null => some .null
  | .bool b => some (.bool b)
  | .int n => if Number.isOverlong n then none else some (.int n)
  | .float x => some (.float x)
  | .str s | .markup s => some (.str s)
  | .list items _ | .tuple items => (toJsonAll? items).map .arr
  | .set items _ | .frozenSet items => do
    let pairs ← sortedBy? Prod.fst (items.zip (← toJsonAll? items))
    return .arr (pairs.map Prod.snd)
  | .dict entries _ => (toJsonEntries? entries).map .obj
  | .day d => some (.str d.text)
  | .moment m => some (.str (m.text "T"))
  | .record fields _ => (toJsonFields? fields).map .obj
  | _ => none

/-- The JSON forms of several values. -/
def toJsonAll? : List Value → Option (List Json)
  | [] => some []
  | v :: vs => do return (← toJson? v) :: (← toJsonAll? vs)

/-- The JSON forms of the entries of a mapping. -/
def toJsonEntries? : List (Value × Value) → Option (List (Text × Json))
  | [] => some []
  | (k, v) :: es => do return (← keyText? k, ← toJson? v) :: (← toJsonEntries? es)

/-- The JSON forms of the fields of a record. -/
def toJsonFields? : List (Text × Value) → Option (List (Text × Json))
  | [] => some []
  | (k, v) :: fs => do return (k, ← toJson? v) :: (← toJsonFields? fs)

end

mutual

/-- The value that a JSON document stands for. -/
def ofJson : Json → Value
  | .null => .null
  | .bool b => .bool b
  | .int n => .int n
  | .float x => .float x
  | .str s => .str s
  | .arr items => .list (ofJsonAll items) none
  | .obj members => .dict (ofJsonMembers members) none

/-- The values that several documents stand for. -/
def ofJsonAll : List Json → List Value
  | [] => []
  | j :: js => ofJson j :: ofJsonAll js

/-- The entries that the members of an object stand for. -/
def ofJsonMembers : List (Text × Json) → List (Value × Value)
  | [] => []
  | (k, j) :: ms => (.str k, ofJson j) :: ofJsonMembers ms

end

end Stencil.Value
