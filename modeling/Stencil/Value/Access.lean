import Stencil.Value.Compare
import Stencil.Value.Show

/-!
# Parts of values

The length of a value, the values it goes through, what belongs to it, its items and its slices.  Positions count from
zero, negative ones from the end.
-/

namespace Stencil.Value

mutual

/-- The part of a value that cannot be the key of a mapping or belong to a set, if there is one: what can change. -/
def changeable? : Value → Option Value
  | .tuple items => changeableOf? items
  | .listing .values .. => none
  | v@(.list ..) | v@(.set ..) | v@(.dict ..) | v@(.listing ..) | v@(.record ..) | v@(.within ..) | v@(.frame _) => some v
  | _ => none

/-- The first part of several values that cannot be a key. -/
def changeableOf? : List Value → Option Value
  | [] => none
  | v :: vs => changeable? v <|> changeableOf? vs

end

/-- Refuses a value that cannot be a key. -/
def checkKey (v : Value) : Except Fault Unit :=
  match changeable? v with
  | none => .ok ()
  | some part => .error (.wrongType ("unhashable type: " ++ Text.quoted part.kind))

/-- The number of a value's items. -/
def length? : Value → Option Nat
  | .str s | .markup s => some s.length
  | .list items _ | .tuple items | .set items _ | .frozenSet items => some items.length
  | .dict entries _ | .listing _ entries _ => some entries.length
  | .range start stop step => some (rangeLength start stop step)
  | _ => none

/-- A whole number that a position can be. -/
def isIndex (n : Int) : Bool := -Int.pow 2 63 ≤ n && n < Int.pow 2 63

/-- The number of a value's items, or a fault. -/
def length (v : Value) : Except Fault Nat :=
  match length? v with
  | some n => if isIndex n then .ok n else .error (.overflow "Python int too large to convert to C ssize_t")
  | none => .error (.wrongType ("object of type " ++ Text.quoted v.kind ++ " has no len()"))

/-- The values that a value goes through, one after the other. -/
def items? : Value → Option (List Value)
  | .str s | .markup s => some (s.map fun c => .str [c])
  | .list items _ | .tuple items | .set items _ | .frozenSet items => some items
  | .dict entries _ => some (entries.map Prod.fst)
  | .listing kind entries _ => some (listed kind entries)
  | .range start stop step =>
    some ((List.range (rangeLength start stop step)).map fun (i : Nat) => .int (start + step * i))
  | .record fields _ => some (fields.map fun (name, v) => .tuple [.str name, v])
  | _ => none

/-- A value that cannot be gone through. -/
def notIterable (v : Value) : Fault := .wrongType (Text.quoted v.kind ++ " object is not iterable")

/-- A value is one of the numbers of a range. -/
def isInRange (a : Value) (start stop step : Int) : Bool :=
  let hit (n : Int) : Bool :=
    if step > 0 then start ≤ n && n < stop && (n - start) % step == 0
    else stop < n && n ≤ start && (start - n) % (-step) == 0
  match worth? a with
  | some (.fraction n 1) => hit n
  | some (.fraction n d) => n % d == 0 && hit (n / d)
  | _ => false

/-- A value belongs to another one. -/
def isMember (a container : Value) : Except Fault Bool :=
  match container with
  | .str s | .markup s =>
    match a.text? with
    | some inner => .ok (Text.contains inner s)
    | none => .error (.wrongType ("'in <string>' requires string as left operand, not " ++ a.kind))
  | .dict entries _ | .listing .keys entries _ => do
    checkKey a
    return (lookup a entries).isSome
  | .set items _ | .frozenSet items => do
    match a with
    | .set .. => return isIn a items
    | a =>
      checkKey a
      return isIn a items
  | .range start stop step => .ok (isInRange a start stop step)
  | v =>
    match items? v with
    | some items => .ok (isIn a items)
    | none => .error (.wrongType ("argument of type " ++ Text.quoted v.kind ++ " is not iterable"))

/-- The place that a position names among `count` items. -/
def place? (count : Nat) (position : Int) : Option Nat :=
  let i := if position < 0 then position + count else position
  if 0 ≤ i ∧ i < count then some i.toNat else none

/-- An item of a list at a position. -/
def atPosition {α : Type} (container : Text) (items : List α) (position : Int) : Except Fault α :=
  match (place? items.length position).bind fun i => items[i]? with
  | some a => .ok a
  | none => .error (.indexRange container)

/-- A value as a position. -/
def position? : Value → Option Int
  | .bool b => some (if b then 1 else 0)
  | .int n => some n
  | _ => none

/-- A position that can be one. -/
def checkIndex (n : Int) : Except Fault Int :=
  if isIndex n then .ok n else .error (.raised "IndexError" "cannot fit 'int' into an index-sized integer")

/-- A value as a position in something that is called by a name. -/
def position (container : Text) (v : Value) : Except Fault Int :=
  match position? v with
  | some n => checkIndex n
  | none => .error (.wrongType (container ++ " indices must be integers or slices, not " ++ v.kind))

/-- The item of a value under an index. -/
def item (shown : Value → Text) (v index : Value) : Except Fault Value :=
  let letter (s : Text) : Except Fault Text :=
    match position? index with
    | some n => do return [← atPosition "string" s (← checkIndex n)]
    | none => .error (.wrongType ("string indices must be integers, not " ++ Text.quoted index.kind))
  match v with
  | .str s => (letter s).map .str
  | .markup s => (letter s).map .markup
  | .list items _ => do atPosition "list" items (← position "list" index)
  | .tuple items => do atPosition "tuple" items (← position "tuple" index)
  | .range start stop step => do
    match position? index with
    | none => .error (.wrongType ("range indices must be integers or slices, not " ++ index.kind))
    | some n =>
      match place? (rangeLength start stop step) n with
      | some i => return .int (start + step * i)
      | none => .error (.indexRange "range object")
  | .dict entries _ => do
    checkKey index
    match lookup index entries with
    | some v => return v
    | none => .error (.missingKey (display shown index))
  | v => .error (.wrongType (Text.quoted v.kind ++ " object is not subscriptable"))

/-- A bound of a slice: nothing, or a whole number. -/
def sliceBound (v : Value) : Except Fault (Option Int) :=
  match v with
  | .null => .ok none
  | v =>
    match position? v with
    | some n => .ok (some n)
    | none => .error (.wrongType "slice indices must be integers or None or have an __index__ method")

/-- A bound counted from the front and kept between two limits. -/
def clamped (count : Nat) (low high bound : Int) : Int :=
  let i := if bound < 0 then bound + count else bound
  if i < low then low else if i > high then high else i

/-- Where a slice of `count` items begins and where it ends; a slice that goes backwards ends before the first item. -/
def sliceEnds (count : Nat) (start stop : Option Int) (step : Int) : Int × Int :=
  let bound (low high default : Int) (b : Option Int) : Int := (b.map (clamped count low high)).getD default
  if step > 0 then (bound 0 count 0 start, bound 0 count count stop)
  else (bound (-1) (count - 1) (count - 1) start, bound (-1) (count - 1) (-1) stop)

/-- The places from one end to the other. -/
def placesBetween (ends : Int × Int) (step : Int) : List Nat :=
  (List.range (rangeLength ends.1 ends.2 step)).map fun (i : Nat) => (ends.1 + step * i).toNat

/-- The items at some places. -/
def atPlaces {α : Type} (items : List α) (places : List Nat) : List α :=
  let all := items.toArray
  places.filterMap fun i => all[i]?

/-- A slice of a value. -/
def slice (v start stop step : Value) : Except Fault Value := do
  let count := (length? v).getD 0
  let ends : Except Fault ((Int × Int) × Int) := do
    let step := (← sliceBound step).getD 1
    if step = 0 then throw (.wrongValue "slice step cannot be zero")
    let start ← sliceBound start
    let stop ← sliceBound stop
    return (sliceEnds count start stop step, step)
  let places : Except Fault (List Nat) := ends.map fun (ends, step) => placesBetween ends step
  match v with
  | .str s => return .str (atPlaces s (← places))
  | .markup s => return .markup (atPlaces s (← places))
  | .list items _ => return .list (atPlaces items (← places)) none
  | .tuple items => return .tuple (atPlaces items (← places))
  | .dict .. => .error (.wrongType "unhashable type: 'slice'")
  | .range start _ by_ => do
    let ((first, last), step) ← ends
    return .range (start + first * by_) (start + last * by_) (by_ * step)
  | v => .error (.wrongType (Text.quoted v.kind ++ " object is not subscriptable"))

/-- Takes the two parts of each of several values as entries into a mapping, as far as they have two parts, and tells the
fault at which it stopped; `n` counts the values. -/
def takePairs (n : Nat) : List Value → List (Value × Value) → List (Value × Value) × Option Fault
  | [], entries => (entries, none)
  | v :: vs, entries =>
    match items? v with
    | none =>
      (entries, some (.wrongType
        ("cannot convert dictionary update sequence element #" ++ Text.ofNat n ++ " to a sequence")))
    | some [k, w] =>
      match checkKey k with
      | .ok _ => takePairs (n + 1) vs (bind k w entries)
      | .error f => (entries, some f)
    | some parts =>
      (entries, some (.wrongValue ("dictionary update sequence element #" ++ Text.ofNat n ++ " has length " ++
        Text.ofNat parts.length ++ "; 2 is required")))

/-- The entries of a mapping that takes the parts of a value: a mapping, or pairs. -/
def entriesOf (v : Value) : Except Fault (List (Value × Value)) :=
  match v with
  | .dict entries _ => .ok entries
  | v =>
    match items? v with
    | none => .error (notIterable v)
    | some items =>
      match takePairs 0 items [] with
      | (entries, none) => .ok entries
      | (_, some f) => .error f

/-- The entries of a mapping made from a value, of which nothing and what is empty make an empty one. -/
def entriesOrNone (v : Value) : Except Fault (List (Value × Value)) := if v.truthy then entriesOf v else .ok []

end Stencil.Value
