import Stencil.Number.Reading
import Stencil.Number.Shortest
import Stencil.Time.Iso
import Stencil.Value.Builtin
import Stencil.Value.Compare

/-!
# The text of values

A value has a *text*, which is printed, and a *display*, which shows it inside other values: texts are quoted there.
Both coincide for most values.  Values that live in the rendering state are shown by a given function.
-/

namespace Stencil.Value

/-- Single items between brackets, with commas. -/
def enclosed (opener closer : Text) (items : List Text) : Text := opener ++ Text.join ", " items ++ closer

/-- The display of an offset from universal time. -/
def zoneDisplay (offset : Int) : Text :=
  if offset = 0 then "datetime.timezone.utc" else "datetime.timezone(" ++ Time.spanText offset ++ ")"

/-- The display of a moment: zero seconds and fractions are left out from the end. -/
def momentDisplay (m : Moment) : Text :=
  let tail : List Nat :=
    if m.micro ≠ 0 then [m.second, m.micro] else if m.second ≠ 0 then [m.second] else []
  let numbers := [m.day.year, m.day.month, m.day.day, m.hour, m.minute] ++ tail
  let zone := match m.offset with
    | none => []
    | some offset => [("tzinfo=" : Text) ++ zoneDisplay offset]
  enclosed "datetime.datetime(" ")" (numbers.map Text.ofNat ++ zone)

/-- The name of a listing. -/
def listingName : Listing → Text
  | .keys => "dict_keys"
  | .values => "dict_values"
  | .items => "dict_items"

mutual

/-- The display of a value. -/
def display (shown : Value → Text) : Value → Text
  | .null => "None"
  | .bool b => if b then "True" else "False"
  | .int n => Text.ofInt n
  | .float x => Number.floatText x
  | .str s => Text.quoted s
  | .markup s => "Markup(" ++ Text.quoted s ++ ")"
  | .list items _ => enclosed "[" "]" (displayAll shown items)
  | .tuple [item] => "(" ++ display shown item ++ ",)"
  | .tuple items => enclosed "(" ")" (displayAll shown items)
  | .set [] _ => "set()"
  | .set items _ => enclosed "\x7b" "\x7d" (displayAll shown items)
  | .frozenSet [] => "frozenset()"
  | .frozenSet items => enclosed "frozenset(\x7b" "\x7d)" (displayAll shown items)
  | .dict entries _ => enclosed "\x7b" "\x7d" (displayEntries shown entries)
  | .listing kind entries _ => listingName kind ++ "(" ++ enclosed "[" "]" (displayListed shown kind entries) ++ ")"
  | .range start stop step =>
    enclosed "range(" ")" (([start, stop] ++ if step = 1 then [] else [step]).map Text.ofInt)
  | .day d => enclosed "datetime.date(" ")" ([d.year, d.month, d.day].map Text.ofNat)
  | .moment m => momentDisplay m
  | .record fields _ => enclosed "Model(" ")" (displayFields shown fields)
  | .within mapping _ => if mapping then "\x7b...\x7d" else "[...]"
  | v => shown v

/-- The displays of several values. -/
def displayAll (shown : Value → Text) : List Value → List Text
  | [] => []
  | v :: vs => display shown v :: displayAll shown vs

/-- The displays of the entries of a mapping. -/
def displayEntries (shown : Value → Text) : List (Value × Value) → List Text
  | [] => []
  | (k, v) :: es => (display shown k ++ ": " ++ display shown v) :: displayEntries shown es

/-- The displays of what is listed of a mapping. -/
def displayListed (shown : Value → Text) (kind : Listing) : List (Value × Value) → List Text
  | [] => []
  | (k, v) :: es =>
    (match kind with
      | .keys => display shown k
      | .values => display shown v
      | .items => "(" ++ display shown k ++ ", " ++ display shown v ++ ")") :: displayListed shown kind es

/-- The displays of the fields of a record. -/
def displayFields (shown : Value → Text) : List (Text × Value) → List Text
  | [] => []
  | (k, v) :: fs => (k ++ "=" ++ display shown v) :: displayFields shown fs

end

/-- The text of a value. -/
def text (shown : Value → Text) : Value → Text
  | .str s | .markup s => s
  | .day d => d.text
  | .moment m => m.text " "
  | .record fields _ => Text.join " " (displayFields shown fields)
  | v => display shown v

mutual

/-- A whole number with more digits than are written stands in the text of a value. -/
def hasOverlong : Value → Bool
  | .int n => Number.isOverlong n
  | .list items _ | .tuple items | .set items _ | .frozenSet items => haveOverlong items
  | .dict entries _ | .listing _ entries _ => entriesHaveOverlong entries
  | .range start stop step => [start, stop, step].any Number.isOverlong
  | .record fields _ => fieldsHaveOverlong fields
  | _ => false

/-- Such a number stands in the text of one of several values. -/
def haveOverlong : List Value → Bool
  | [] => false
  | v :: vs => hasOverlong v || haveOverlong vs

/-- Such a number stands in the text of an entry of a mapping. -/
def entriesHaveOverlong : List (Value × Value) → Bool
  | [] => false
  | (k, v) :: es => hasOverlong k || hasOverlong v || entriesHaveOverlong es

/-- Such a number stands in the text of a field of a record. -/
def fieldsHaveOverlong : List (Text × Value) → Bool
  | [] => false
  | (_, v) :: fs => hasOverlong v || fieldsHaveOverlong fs

end

/-- The text of a value, unless a number in it is too long. -/
def write (shown : Value → Text) (v : Value) : Except Fault Text :=
  if v.hasOverlong then .error (.overlong none) else .ok (text shown v)

/-- The display of a value, unless a number in it is too long. -/
def writeDisplay (shown : Value → Text) (v : Value) : Except Fault Text :=
  if v.hasOverlong then .error (.overlong none) else .ok (display shown v)

/-- A value that has no text of its own, as shown where nothing better is known. -/
def opaqueText (_ : Value) : Text := "<object>"

/-- A value counts as true in a condition: nothing, zero and the empty ones do not. -/
def truthy : Value → Bool
  | .null => false
  | .bool b => b
  | .int n => n != 0
  | .float x => !(x == 0.0)
  | .str s | .markup s => !s.isEmpty
  | .list items _ | .tuple items | .set items _ | .frozenSet items => !items.isEmpty
  | .dict entries _ | .listing _ entries _ => !entries.isEmpty
  | .range start stop step => rangeLength start stop step != 0
  | _ => true

/-- The name of a value's kind. -/
def kind : Value → Text
  | .null => "NoneType"
  | .bool _ => "bool"
  | .int _ => "int"
  | .float _ => "float"
  | .str _ => "str"
  | .markup _ => "Markup"
  | .list .. | .within false _ => "list"
  | .tuple _ => "tuple"
  | .set .. => "set"
  | .frozenSet _ => "frozenset"
  | .dict .. | .within true _ => "dict"
  | .listing kind .. => listingName kind
  | .range .. => "range"
  | .day _ => "datetime.date"
  | .moment _ => "datetime.datetime"
  | .record .. => "Model"
  | .object => "object"
  | .view => "View"
  | .helpers => "module"
  | .registered => "dict"
  | .frame _ => "LoopFrame"
  | .component _ cls => cls
  | .stream _ source => source
  | .builtin name => if name ∈ Builtin.classes then "type" else "builtin_function_or_method"
  | .helper _ | .function _ | .slot .accessor _ => "function"
  | .method .. | .slot _ _ => "method"

end Stencil.Value
