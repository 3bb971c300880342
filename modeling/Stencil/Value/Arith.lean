import Stencil.Output.Amount
import Stencil.Script.Tree
import Stencil.Text.Html
import Stencil.Value.Access
import Stencil.Value.Identity
import Stencil.Value.Pattern

/-!
# Operators on values

Numbers are computed with exactly as far as they are whole; texts, lists and tuples are joined by `+` and repeated by
`*`; a text pattern is filled by `%`.  What is joined to markup is escaped unless it is markup itself.
-/

namespace Stencil.Value

open Script (UnaryOp BinaryOp CompareOp)

/-- How an operator is written. -/
def symbol : BinaryOp → Text
  | .add => "+"
  | .sub => "-"
  | .mul => "*"
  | .div => "/"
  | .floorDiv => "//"
  | .mod => "%"
  | .pow => "** or pow()"
  | .matMul => "@"
  | .shiftLeft => "<<"
  | .shiftRight => ">>"
  | .bitOr => "|"
  | .bitXor => "^"
  | .bitAnd => "&"

/-- How an operator is written that changes its first operand. -/
def changingSymbol : BinaryOp → Text
  | .pow => "**="
  | op => symbol op ++ "="

/-- An operator that two values do not support. -/
def unsupported (op : Text) (a b : Value) : Fault :=
  .wrongType ("unsupported operand type(s) for " ++ op ++ ": " ++ Text.quoted a.kind ++ " and " ++ Text.quoted b.kind)

/-- A number: whole, or floating point. -/
inductive Numeral where
  | whole (n : Int)
  | float (x : Float)

/-- The number that a value is. -/
def numeral? : Value → Option Numeral
  | .bool b => some (.whole (if b then 1 else 0))
  | .int n => some (.whole n)
  | .float x => some (.float x)
  | _ => none

/-- A number as a floating point number. -/
def Numeral.toFloat : Numeral → Except Fault Float
  | .whole n => Output.floatOfInt n
  | .float x => .ok x

/-- Zero with the sign of a number. -/
def zeroLike (x : Float) : Float := if x.toBits.toNat ≥ Nat.pow 2 63 then -0.0 else 0.0

/-- What remains of `x` after taking `y` out of it as often as it goes in, with the sign of `x`; it is exact. -/
def floatRest (x y : Float) : Float :=
  match worthOf x, worthOf y with
  | .fraction a b, .fraction c d =>
    let rest : Nat := (a.natAbs * d) % (c.natAbs * b)
    if rest = 0 then zeroLike x else Number.ofRatio (a < 0) rest (b * d)
  | .fraction .., .infinite _ => x
  | _, _ => 0.0 / 0.0

/-- The greatest whole number of times that `y` goes into `x`, and what remains with the sign of `y`, for floating point
numbers; the number of times is rounded. -/
def floatDivMod (x y : Float) : Float × Float :=
  let rest := floatRest x y
  let times := (x - rest) / y
  let (times, rest) :=
    if rest == 0.0 then (times, zeroLike y)
    else if (y < 0.0) != (rest < 0.0) then (times - 1.0, rest + y)
    else (times, rest)
  if times == 0.0 then (zeroLike (x / y), rest)
  else if times - times.floor > 0.5 then (times.floor + 1.0, rest)
  else (times.floor, rest)

/-- A quotient of whole numbers. -/
def quotient (m n : Int) : Except Fault Value :=
  if n = 0 then .error (.zeroDivision "division by zero")
  else
    let x := Number.ofRatio ((m < 0) != (n < 0)) m.natAbs n.natAbs
    if x.isInf then .error (.overflow "integer division result too large for a float") else .ok (.float x)

/-- The largest power that is computed, in bits of the result. -/
def powerLimit : Nat := Nat.pow 2 22

/-- Operators on whole numbers. -/
def wholeOp (op : BinaryOp) (m n : Int) : Except Fault Value :=
  match op with
  | .add => .ok (.int (m + n))
  | .sub => .ok (.int (m - n))
  | .mul => .ok (.int (m * n))
  | .div => quotient m n
  | .floorDiv =>
    if n = 0 then .error (.zeroDivision "integer division or modulo by zero") else .ok (.int (Int.fdiv m n))
  | .mod => if n = 0 then .error (.zeroDivision "integer modulo by zero") else .ok (.int (Int.fmod m n))
  | .pow =>
    if n < 0 then
      if m = 0 then .error (.zeroDivision "0.0 cannot be raised to a negative power")
      else .ok (.float ((Float.ofInt m).pow (Float.ofInt n)))
    else if m.natAbs.log2 * n.toNat > powerLimit then .error .unsupported
    else .ok (.int (Int.pow m n.toNat))
  | _ => .error .unsupported

/-- Operators on floating point numbers. -/
def floatOp (op : BinaryOp) (x y : Float) : Except Fault Value :=
  match op with
  | .add => .ok (.float (x + y))
  | .sub => .ok (.float (x - y))
  | .mul => .ok (.float (x * y))
  | .div => if y == 0.0 then .error (.zeroDivision "float division by zero") else .ok (.float (x / y))
  | .floorDiv =>
    if y == 0.0 then .error (.zeroDivision "float floor division by zero") else .ok (.float (floatDivMod x y).1)
  | .mod => if y == 0.0 then .error (.zeroDivision "float modulo") else .ok (.float (floatDivMod x y).2)
  | .pow => .ok (.float (x.pow y))
  | _ => .error .unsupported

/-- Operators on numbers. -/
def numeralOp (op : BinaryOp) (a b : Numeral) : Except Fault Value :=
  match a, b with
  | .whole m, .whole n => wholeOp op m n
  | a, b => do floatOp op (← a.toFloat) (← b.toFloat)

/-- The markup of a value that is joined to markup. -/
def asMarkup : Value → Text
  | .markup s => s
  | .str s => Text.html s
  | _ => []

/-- Joins two texts, lists or tuples. -/
def concat (sign : Text) (a b : Value) : Except Fault Value :=
  let refuse (name : Text) : Except Fault Value :=
    .error (.wrongType ("can only concatenate " ++ name ++ " (not \"" ++ b.kind ++ "\") to " ++ name))
  match a, b with
  | .str s, .str t => .ok (.str (s ++ t))
  | .markup _, .str _ | .str _, .markup _ | .markup _, .markup _ => .ok (.markup (asMarkup a ++ asMarkup b))
  | .str _, _ | .markup _, _ => refuse "str"
  | .list xs _, .list ys _ => .ok (.list (xs ++ ys) none)
  | .list .., _ => refuse "list"
  | .tuple xs, .tuple ys => .ok (.tuple (xs ++ ys))
  | .tuple _, _ => refuse "tuple"
  | a, b => .error (unsupported sign a b)

/-- A list repeated. -/
def repeated {α : Type} (n : Int) (xs : List α) : List α := (List.replicate n.toNat xs).flatten

/-- A text, list or tuple repeated; `none` for any other value. -/
def repeat? (n : Int) : Value → Option Value
  | .str s => some (.str (repeated n s))
  | .markup s => some (.markup (repeated n s))
  | .list xs _ => some (.list (repeated n xs) none)
  | .tuple xs => some (.tuple (repeated n xs))
  | _ => none

/-- A whole number, truth values counting as such. -/
def whole? : Value → Option Int
  | .bool b => some (if b then 1 else 0)
  | .int n => some n
  | _ => none

/-- The most items that a repeated value may have. -/
def repeatLimit : Nat := Nat.pow 2 32

/-- A text, list or tuple repeated, as far as there is room for it. -/
def repeatWithin (n : Int) (v : Value) : Except Fault Value :=
  if !isIndex n then .error (.overflow "cannot fit 'int' into an index-sized integer")
  else if ((length? v).getD 0) * n.toNat > repeatLimit then .error (.raised "MemoryError" [])
  else .ok ((repeat? n v).getD .null)

/-- The product of values that are not both numbers. -/
def product (sign : Text) (a b : Value) : Except Fault Value :=
  let times (s n : Value) : Option (Except Fault Value) :=
    (repeat? 0 s).map fun _ =>
      match whole? n with
      | some k => repeatWithin k s
      | none => .error (.wrongType ("can't multiply sequence by non-int of type " ++ Text.quoted n.kind))
  match times a b <|> times b a with
  | some r => r
  | none => .error (unsupported sign a b)

/-- The values of the first list that are not in the second. -/
def without (xs ys : List Value) : List Value := xs.filter fun x => !isIn x ys

/-- An operator applied to two values, written as a sign. -/
def operateAs (sign : Text) (shown : Value → Text) (op : BinaryOp) (a b : Value) : Except Fault Value :=
  match numeral? a, numeral? b with
  | some m, some n => numeralOp op m n
  | _, _ =>
    match op, a, b with
    | .add, a, b => concat sign a b
    | .mul, a, b => product sign a b
    | .mod, .str s, v => (fill (fillPlain shown) s v).map .str
    | .mod, .markup s, v => (fill (fillMarkup shown) s v).map .markup
    | .sub, .set xs _, .set ys _ | .sub, .set xs _, .frozenSet ys => .ok (.set (without xs ys) none)
    | .sub, .frozenSet xs, .set ys _ | .sub, .frozenSet xs, .frozenSet ys => .ok (.frozenSet (without xs ys))
    | .bitOr, .dict xs _, .dict ys _ => .ok (.dict (ys.foldl (fun d (k, v) => bind k v d) xs) none)
    | _, a, b => .error (unsupported sign a b)

/-- An operator applied to two values. -/
def operate (shown : Value → Text) (op : BinaryOp) (a b : Value) : Except Fault Value :=
  operateAs (symbol op) shown op a b

/-- An operator applied to one value. -/
def operateOne (op : UnaryOp) (a : Value) : Except Fault Value :=
  let refuse (sign : Text) : Except Fault Value :=
    .error (.wrongType ("bad operand type for unary " ++ sign ++ ": " ++ Text.quoted a.kind))
  match op, numeral? a with
  | .minus, some (.whole n) => .ok (.int (-n))
  | .minus, some (.float x) => .ok (.float (-x))
  | .plus, some (.whole n) => .ok (.int n)
  | .plus, some (.float x) => .ok (.float x)
  | .invert, some (.whole n) => .ok (.int (-n - 1))
  | .minus, none => refuse "-"
  | .plus, none => refuse "+"
  | .invert, _ => refuse "~"

/-- Two names stand for one thing. -/
def same (a b : Value) : Bool :=
  match a.identity?, b.identity? with
  | some i, some j => i == j && a.kind == b.kind
  | some _, none | none, some _ => false
  | none, none =>
    match a, b with
    | .null, .null => true
    | .bool a, .bool b => a == b
    | .null, _ | _, .null | .bool _, _ | _, .bool _ => false
    | .moment m, .moment n => m == n
    | a, b => a.kind == b.kind && alike a b

/-- The fault of comparing values that have no order. -/
def Incomparable.toFault (sign : Text) : Incomparable → Fault
  | .kinds a b =>
    .wrongType (Text.quoted sign ++ " not supported between instances of " ++ Text.quoted a.kind ++ " and " ++
      Text.quoted b.kind)
  | .offsets => .wrongType "can't compare offset-naive and offset-aware datetimes"
  | .dayOfMoment => .wrongType "can't compare datetime.datetime to datetime.date"

/-- The order that an operator asks for holds. -/
def ordered (sign : Text) (holds : Ordering → Bool) (a b : Value) : Except Fault Bool :=
  match order a b with
  | .ok o => .ok ((o.map holds).getD false)
  | .error e => .error (e.toFault sign)

end Stencil.Value
