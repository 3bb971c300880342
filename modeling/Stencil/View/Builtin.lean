import Stencil.Value.Arith
import Stencil.View.Component
import Stencil.View.Loop

/-!
# Calling built-in functions

The built-in functions that pages use.  Calling any other one fails.
-/

namespace Stencil

namespace Builtin

/-- A call with a number of arguments other than one. -/
def takesOne (name : Text) (count : Nat) : Fault :=
  .wrongType (name ++ "() takes exactly one argument (" ++ Text.ofNat count ++ " given)")

/-- A value as a whole number. -/
def whole (v : Value) : Except Fault Int :=
  match Value.position? v with
  | some n => .ok n
  | none => .error (.wrongType (Text.quoted v.kind ++ " object cannot be interpreted as an integer"))

/-- A range of whole numbers. -/
def range (args : List Value) : Except Fault Value :=
  match args with
  | [] => .error (.wrongType "range expected at least 1 argument, got 0")
  | [stop] => do return .range 0 (← whole stop) 1
  | [start, stop] => do return .range (← whole start) (← whole stop) 1
  | [start, stop, step] => do
    let start ← whole start
    let stop ← whole stop
    let step ← whole step
    if step = 0 then throw (.wrongValue "range() arg 3 must not be zero")
    return .range start stop step
  | args => .error (.wrongType ("range expected at most 3 arguments, got " ++ Text.ofNat args.length))

/-- The sum of values, from a start on. -/
def total (start : Value) (items : List Value) : Except Fault Value :=
  match start with
  | .str _ | .markup _ => .error (.wrongType "sum() can't sum strings [use ''.join(seq) instead]")
  | start => items.foldlM (Value.operate Value.opaqueText .add) start

/-- Values with their numbers, from a first number on. -/
def numbered (first : Int) (items : List Value) : List Value :=
  items.zipIdx.map fun (v, i) => .tuple [.int (first + i), v]

/-- The least or greatest of several values. -/
def extreme (name : Text) (better : Ordering → Bool) : List Value → Except Fault Value
  | [] => .error (.wrongValue (name ++ "() arg is an empty sequence"))
  | v :: vs =>
    vs.foldlM (fun best w => do
      return if ← Value.ordered (if name = "max" then ">" else "<") better w best then w else best) v

/-- Values in ascending order. -/
def sorted (items : List Value) : Except Fault Value :=
  match Value.sortedBy? id items with
  | some vs => .ok (.list vs none)
  | none =>
    match items with
    | v :: w :: _ => (Value.ordered "<" (· == .lt) w v).map fun _ => .list items none
    | _ => .error .unsupported

end Builtin

namespace Run

/-- Calls a built-in function. -/
def callBuiltin (inner : Inner) (name : Text) (args : List Value) (named : Table Value) : Run Value := do
  if !named.isEmpty && !(name == "enumerate".toList || name == "sum".toList) then raise .unsupported
  let start (n : Nat) : Value := (args[n]? <|> named.get? "start").getD (.int 0)
  match String.ofList name, args with
  | "len", [v] => return .int (← lift (Value.length v))
  | "len", args => raise (Builtin.takesOne "len" args.length)
  | "range", args => lift (Builtin.range args)
  | "sum", [] => raise (.wrongType "sum() takes at least 1 positional argument (0 given)")
  | "sum", v :: _ => lift (Builtin.total (start 1) (← valuesOf v))
  | "str", [] => return .str []
  | "str", [v] => textOf inner v
  | "enumerate", [] => raise (.wrongType "enumerate() missing required argument 'iterable'")
  | "enumerate", v :: _ => do
    let values ← valuesOf v
    streamed name (Builtin.numbered (← lift (Builtin.whole (start 1))) values)
  | "list", [] => return .list [] none
  | "list", [v] => return .list (← valuesOf v) none
  | "tuple", [] => return .tuple []
  | "tuple", [v] => return .tuple (← valuesOf v)
  | "dict", [] => return .dict [] none
  | "dict", [v] => return .dict (← entriesFrom v) none
  | "int", [v] => return .int (← lift (Output.toWhole v))
  | "float", [v] => return .float (← lift (Output.toFloat v))
  | "bool", [v] => return .bool v.truthy
  | "repr", [v] => return .str (← lift (Value.writeDisplay (← get).shown v))
  | "sorted", [v] => do lift (Builtin.sorted (← valuesOf v))
  | "reversed", [v] => do streamed name (← valuesOf v).reverse
  | "min", [v] => lift (Builtin.extreme "min" (· == .lt) (← valuesOf v))
  | "max", [v] => lift (Builtin.extreme "max" (· == .gt) (← valuesOf v))
  | "min", v :: w :: vs => lift (Builtin.extreme "min" (· == .lt) (v :: w :: vs))
  | "max", v :: w :: vs => lift (Builtin.extreme "max" (· == .gt) (v :: w :: vs))
  | "any", [v] => return .bool ((← valuesOf v).any Value.truthy)
  | "all", [v] => return .bool ((← valuesOf v).all Value.truthy)
  | "abs", [.int n] => return .int n.natAbs
  | "abs", [.float x] => return .float x.abs
  | "zip", [v, w] => do
    let pairs := (← valuesOf v).zip (← valuesOf w)
    streamed name (pairs.map fun (a, b) => .tuple [a, b])
  | _, _ => raise .unsupported

end Run
end Stencil
