import Stencil.Value.Access

/-!
# Values with a part replaced

What a list or mapping holds after an item, or a slice, was replaced.  Nothing else can have its items replaced.
-/

namespace Stencil.Value

/-- The fault of replacing an item of what has none to be replaced. -/
def noReplacement (v : Value) : Fault :=
  .wrongType (Text.quoted v.kind ++ " object does not support item assignment")

/-- A value with one item replaced. -/
def withItem (v index new : Value) : Except Fault Value :=
  match v with
  | .dict entries who => do
    checkKey index
    return .dict (bind index new entries) who
  | .list items who => do
    match place? items.length (← position "list" index) with
    | some i => return .list (items.set i new) who
    | none => throw (.raised "IndexError" "list assignment index out of range")
  | v => .error (noReplacement v)

/-- Items with those at some places replaced. -/
def replaceAt {α : Type} (items : List α) : List Nat → List α → List α
  | i :: places, a :: new => replaceAt (items.set i a) places new
  | _, _ => items

/-- A value with a slice replaced by items, if there are any to replace it by. -/
def withSlice (v start stop step : Value) (new : Option (List Value)) : Except Fault Value :=
  match v with
  | .dict .. => .error (.wrongType "unhashable type: 'slice'")
  | .list items who => do
    let by_ := (← sliceBound step).getD 1
    if by_ = 0 then throw (.wrongValue "slice step cannot be zero")
    let start ← sliceBound start
    let stop ← sliceBound stop
    let ends := sliceEnds items.length start stop by_
    match new with
    | none =>
      throw (.wrongType (if by_ = 1 then "can only assign an iterable" else
        "must assign iterable to extended slice"))
    | some new =>
      if by_ = 1 then
        let first := ends.1.toNat
        return .list (items.take first ++ new ++ items.drop (max first ends.2.toNat)) who
      let places := placesBetween ends by_
      if places.length ≠ new.length then
        throw (.wrongValue ("attempt to assign sequence of size " ++ Text.ofNat new.length ++
          " to extended slice of size " ++ Text.ofNat places.length))
      return .list (replaceAt items places new) who
  | v => .error (noReplacement v)

/-- The fault of an attribute that a value does not have. -/
def noAttribute (v : Value) (name : Text) : Fault :=
  .noAttribute (Text.quoted v.kind ++ " object has no attribute " ++ Text.quoted name)

/-- A record with a field replaced. -/
def withField (v : Value) (name : Text) (new : Value) : Except Fault Value :=
  match v with
  | .record fields who =>
    if fields.any fun field => field.1 = name then
      .ok (.record (fields.map fun (n, old) => if n = name then (n, new) else (n, old)) who)
    else .error (.wrongValue ("\"" ++ v.kind ++ "\" object has no field \"" ++ name ++ "\""))
  | v => .error (noAttribute v name)

end Stencil.Value
