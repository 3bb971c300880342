import Stencil.Number.Binary
import Stencil.Time.Calendar
import Stencil.Value.Basic

/-!
# Comparing values

Numbers of all kinds compare by what they are worth, truth values counting as 0 and 1; markup compares as text.  Lists,
tuples, mappings, sets, ranges and what is listed of a mapping compare by their parts, and sets are ordered by
inclusion.  Moments compare by the instant that they name.  Values of different kinds are never equal and have no order.
-/

namespace Stencil

/-- The instant that a moment names, in microseconds; without an offset the time itself. -/
def Moment.instant (m : Moment) : Int := m.seconds * 1000000 + m.micro - m.offset.getD 0

namespace Value

/-- The exact worth of a number as a fraction; `none` for what is no number. -/
inductive Worth where
  | fraction (num : Int) (den : Nat)
  | infinite (negative : Bool)
  | nan

/-- The exact worth of a floating point number. -/
def worthOf (x : Float) : Worth :=
  match Number.parts x with
  | .nan => .nan
  | .infinite negative => .infinite negative
  | .finite negative m q =>
    let (num, den) := Number.ratio m q
    .fraction (if negative then -(num : Int) else num) den

/-- What a value is worth as a number. -/
def worth? : Value → Option Worth
  | .bool b => some (.fraction (if b then 1 else 0) 1)
  | .int n => some (.fraction n 1)
  | .float x => some (worthOf x)
  | _ => none

/-- Compares two worths; `none` if one is no number. -/
def Worth.compare : Worth → Worth → Option Ordering
  | .nan, _ | _, .nan => none
  | .infinite a, .infinite b => some (if a == b then .eq else if a then .lt else .gt)
  | .infinite a, .fraction .. => some (if a then .lt else .gt)
  | .fraction .., .infinite b => some (if b then .gt else .lt)
  | .fraction a b, .fraction c d => some (Ord.compare (a * d) (c * b))

/-- A floating point value that is no number. -/
def isNan : Value → Bool
  | .float x => x.isNaN
  | _ => false

/-- The text of a value that is text. -/
def text? : Value → Option Text
  | .str s | .markup s => some s
  | _ => none

/-- What is listed of the entries of a mapping. -/
def listed (kind : Listing) (entries : List (Value × Value)) : List Value :=
  match kind with
  | .keys => entries.map Prod.fst
  | .values => entries.map Prod.snd
  | .items => entries.map fun (k, v) => .tuple [k, v]

/-- The members of a set, or of what is listed of a mapping without repetitions. -/
def members? : Value → Option (List Value)
  | .set items _ | .frozenSet items => some items
  | .listing .values .. => none
  | .listing kind entries _ => some (listed kind entries)
  | _ => none

/-- The length of a range. -/
def rangeLength (start stop step : Int) : Nat :=
  if step > 0 then ((stop - start + step - 1) / step).toNat
  else if step < 0 then ((start - stop - step - 1) / (-step)).toNat
  else 0

/-- Ranges are equal if they go through the same numbers. -/
def equalRanges (start stop step start' stop' step' : Int) : Bool :=
  let n := rangeLength start stop step
  n == rangeLength start' stop' step' && (n == 0 || start == start' && (n == 1 || step == step'))

/-- Moments are equal if they name the same instant, or both no instant and the same time. -/
def equalMoments (m n : Moment) : Bool := m.offset.isSome == n.offset.isSome && m.instant == n.instant

mutual

/-- Equality of values. -/
def equal (a b : Value) : Bool :=
  match worth? a, worth? b with
  | some x, some y => x.compare y == some .eq
  | some _, none | none, some _ => false
  | none, none =>
    match a, b with
    | .null, .null => true
    | .str s, .str t | .str s, .markup t | .markup s, .str t | .markup s, .markup t => s == t
    | .list xs _, .list ys _ | .tuple xs, .tuple ys => equalAll xs ys
    | .set xs _, b | .frozenSet xs, b =>
      match members? b with
      | some ys => xs.length == ys.length && allIn xs ys
      | none => false
    | .listing kind xs _, b =>
      match kind, members? b with
      | .values, _ | _, none => false
      | kind, some ys => xs.length == ys.length && allListed kind xs ys
    | .dict xs _, .dict ys _ => xs.length == ys.length && allEntries xs ys
    | .record xs _, .record ys _ => xs.map Prod.fst == ys.map Prod.fst && equalFields xs ys
    | .range a b c, .range d e f => equalRanges a b c d e f
    | .day d, .day e => d == e
    | .moment m, .moment n => equalMoments m n
    | .frame i, .frame j | .component i _, .component j _ | .stream i _, .stream j _ => i == j
    | .view, .view | .helpers, .helpers | .registered, .registered => true
    | .builtin s, .builtin t | .helper s, .helper t | .function s, .function t => s == t
    | .within _ i, .within _ j => i == j
    | _, _ => false
termination_by (sizeOf a, 0)

/-- Equality of parts: what is no number equals itself. -/
def alike (a b : Value) : Bool := equal a b || isNan a && isNan b
termination_by (sizeOf a, 1)

/-- Equality of lists part by part. -/
def equalAll (xs ys : List Value) : Bool :=
  match xs, ys with
  | [], [] => true
  | x :: xs, y :: ys => alike x y && equalAll xs ys
  | _, _ => false
termination_by (sizeOf xs, 0)

/-- Every value of the first list is one of the second. -/
def allIn (xs ys : List Value) : Bool :=
  match xs with
  | [] => true
  | x :: xs => ys.any (fun y => alike x y) && allIn xs ys
termination_by (sizeOf xs, 0)

/-- Everything that is listed of a mapping is in a list. -/
def allListed (kind : Listing) (xs : List (Value × Value)) (ys : List Value) : Bool :=
  match xs with
  | [] => true
  | (k, v) :: xs =>
    ys.any (fun y =>
      match kind, y with
      | .keys, y => alike k y
      | _, .tuple [l, w] => alike k l && alike v w
      | _, _ => false) && allListed kind xs ys
termination_by (sizeOf xs, 0)

/-- Every entry of the first mapping is in the second. -/
def allEntries (xs ys : List (Value × Value)) : Bool :=
  match xs with
  | [] => true
  | (k, v) :: xs => ys.any (fun (l, w) => alike k l && alike v w) && allEntries xs ys
termination_by (sizeOf xs, 0)

/-- Equality of the fields of records. -/
def equalFields (xs ys : List (Text × Value)) : Bool :=
  match xs, ys with
  | [], [] => true
  | (_, v) :: xs, (_, w) :: ys => alike v w && equalFields xs ys
  | _, _ => false
termination_by (sizeOf xs, 0)

end

/-! ## Order -/

/-- Why two values have no order. -/
inductive Incomparable where
  /-- Their kinds have none. -/
  | kinds (a b : Value)
  /-- Only one of two moments names an instant. -/
  | offsets
  /-- One is a moment and the other one a day. -/
  | dayOfMoment

/-- The order of two texts. -/
def compareTexts (s t : Text) : Ordering := if s < t then .lt else if s = t then .eq else .gt

/-- The order of two days. -/
def compareDays (d e : Day) : Ordering :=
  (compare d.year e.year).then ((compare d.month e.month).then (compare d.day e.day))

/-- The order of two sets by inclusion; `none` if neither includes the other. -/
def compareSets (xs ys : List Value) : Option Ordering :=
  match allIn xs ys, allIn ys xs with
  | true, true => some .eq
  | true, false => some .lt
  | false, true => some .gt
  | false, false => none

mutual

/-- The order of two values.  Numbers that are no number are neither less nor greater, nor are sets of which neither
includes the other. -/
def order (a b : Value) : Except Incomparable (Option Ordering) :=
  match worth? a, worth? b, members? a, members? b with
  | some x, some y, _, _ => .ok (x.compare y)
  | _, _, some xs, some ys => .ok (compareSets xs ys)
  | _, _, _, _ =>
    match a, b with
    | .str s, .str t | .str s, .markup t | .markup s, .str t | .markup s, .markup t => .ok (some (compareTexts s t))
    | .list xs _, .list ys _ => orderAll xs ys
    | .tuple xs, .tuple ys => orderAll xs ys
    | .day d, .day e => .ok (some (compareDays d e))
    | .moment m, .moment n =>
      if m.offset.isSome == n.offset.isSome then .ok (some (compare m.instant n.instant)) else .error .offsets
    | .day _, .moment _ | .moment _, .day _ => .error .dayOfMoment
    | a, b => .error (.kinds a b)
termination_by sizeOf a

/-- The order of two lists by their first difference. -/
def orderAll (xs ys : List Value) : Except Incomparable (Option Ordering) :=
  match xs, ys with
  | [], [] => .ok (some .eq)
  | [], _ :: _ => .ok (some .lt)
  | _ :: _, [] => .ok (some .gt)
  | x :: xs, y :: ys => if alike x y then orderAll xs ys else order x y
termination_by sizeOf xs

end

/-- The value is less than the other; `none` if they have no order. -/
def less? (a b : Value) : Option Bool := (order a b).toOption.map (· == some .lt)

/-- Inserts a thing into a list that ascends by its keys; `none` if the keys have no order. -/
def insertBy? {α : Type} (key : α → Value) (a : α) : List α → Option (List α)
  | [] => some [a]
  | b :: bs =>
    match less? (key b) (key a) with
    | none => none
    | some false => some (a :: b :: bs)
    | some true => (insertBy? key a bs).map (b :: ·)

/-- Things in ascending order of their keys; `none` if the keys have no order. -/
def sortedBy? {α : Type} (key : α → Value) (xs : List α) : Option (List α) :=
  xs.foldr (fun a acc => acc.bind (insertBy? key a)) (some [])

/-! ## Mappings and sets -/

/-- The entry of a mapping with a key. -/
def lookup {α : Type} (key : Value) : List (Value × α) → Option α
  | [] => none
  | (k, v) :: rest => if alike k key then some v else lookup key rest

/-- Binds a key of a mapping; a key already bound keeps its place and its spelling. -/
def bind {α : Type} (key : Value) (a : α) : List (Value × α) → List (Value × α)
  | [] => [(key, a)]
  | (k, b) :: rest => if alike k key then (k, a) :: rest else (k, b) :: bind key a rest

/-- A value belongs to a list. -/
def isIn (a : Value) (xs : List Value) : Bool := xs.any fun x => alike x a

/-- The distinct values of a list, the first of equal ones kept. -/
def distinct (xs : List Value) : List Value := xs.foldl (fun seen x => if isIn x seen then seen else seen ++ [x]) []

end Value
end Stencil
