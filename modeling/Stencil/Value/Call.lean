import Stencil.Table
import Stencil.Value.Basic

/-!
# Calls

A callable has a signature: parameters with a name, a kind and perhaps a default.  Binding gives every parameter its
value from the positional and named arguments of a call, or says what is wrong with the call.
-/

namespace Stencil

/-- How a parameter takes its value. -/
inductive Taking where
  /-- By position or by name. -/
  | either
  /-- By position only. -/
  | positional
  /-- All further positional arguments. -/
  | allPositional
  /-- By name only. -/
  | named
  /-- All further named arguments. -/
  | allNamed
  deriving DecidableEq, Repr

namespace Taking

/-- A positional argument fills the parameter. -/
def byPosition : Taking → Bool
  | either | positional => true
  | _ => false

/-- A named argument fills the parameter. -/
def byName : Taking → Bool
  | either | named => true
  | _ => false

end Taking

/-- A parameter. -/
structure Parameter where
  name : Text
  taking : Taking := .either
  default : Option Value := none
  deriving Repr

/-- A callable's name as messages show it, its parameters, and whether a receiver is counted as an argument. -/
structure Signature where
  name : Text
  parameters : List Parameter
  receiver : Bool := false
  deriving Repr

/-- The values of a call's parameters. -/
structure Bound where
  values : Table Value := []
  extra : List Value := []
  more : Table Value := []
  deriving Repr

namespace Signature

/-- Parameters that positional arguments fill, in order. -/
def positional (s : Signature) : List Parameter := s.parameters.filter (·.taking.byPosition)

/-- Parameters that only a name fills. -/
def namedOnly (s : Signature) : List Parameter := s.parameters.filter (·.taking = .named)

/-- Some parameter takes arguments in a given way. -/
def takes (t : Taking) (s : Signature) : Bool := s.parameters.any (·.taking = t)

/-- A fault of a call. -/
def fault {α : Type} (s : Signature) (detail : Text) : Except Fault α :=
  .error (.wrongType (s.name ++ "() " ++ detail))

/-- Names in a list, the last one behind "and". -/
def listed (names : List Text) : Text :=
  match names.map Text.quoted with
  | [] => []
  | [a] => a
  | [a, b] => a ++ " and " ++ b
  | all => Text.join ", " all.dropLast ++ ", and " ++ (all.getLast?).getD []

/-- A count and a noun, in the plural unless the count is one. -/
def counted (n : Nat) (noun : Text) : Text := Text.ofNat n ++ " " ++ noun ++ (if n = 1 then [] else "s" : Text)

/-- Refuses a name that no parameter takes, among the names that a call gives. -/
def refuse {α : Type} (s : Signature) (given : List Text) (name : Text) : Except Fault α :=
  match (s.parameters.filter fun p => p.taking = .positional ∧ p.name ∈ given).map Parameter.name with
  | [] => s.fault ("got an unexpected keyword argument " ++ Text.quoted name)
  | names =>
    s.fault ("got some positional-only arguments passed as keyword arguments: " ++ Text.quoted (Text.join ", " names))

/-- Puts a named argument in its place, among the names that a call gives. -/
def bindNamed (s : Signature) (given : List Text) (b : Bound) (name : Text) (v : Value) : Except Fault Bound :=
  if s.parameters.any (fun p => p.taking.byName && p.name = name) ∨ (s.receiver ∧ name = "self") then
    if b.values.has name ∨ (s.receiver ∧ name = "self") then
      s.fault ("got multiple values for argument " ++ Text.quoted name)
    else .ok { b with values := b.values.put name v }
  else if s.takes .allNamed then .ok { b with more := b.more.put name v }
  else s.refuse given name

/-- Refuses more positional arguments than there are parameters. -/
def checkCount (s : Signature) (given namedGiven : Nat) : Except Fault Unit :=
  let extra := if s.receiver then 1 else 0
  let most := s.positional.length + extra
  let least := (s.positional.filter (·.default.isNone)).length + extra
  if given + extra ≤ most ∨ s.takes .allPositional then .ok ()
  else
    let takes : Text := if least = most then [] else "from " ++ Text.ofNat least ++ " to "
    let were : Text :=
      if namedGiven = 0 then " " ++ (if given + extra = 1 then "was" else "were" : Text) ++ " given"
      else " positional argument" ++ (if given + extra = 1 then [] else "s" : Text) ++ " (and " ++
        counted namedGiven "keyword-only argument" ++ ") were given"
    let noun : Text := if least ≠ most ∨ most ≠ 1 then " positional arguments" else " positional argument"
    s.fault ("takes " ++ takes ++ Text.ofNat most ++ noun ++ " but " ++ Text.ofNat (given + extra) ++ were)

/-- Fills a parameter that has no value yet from its default. -/
def fillDefault (values : Table Value) (p : Parameter) : Table Value :=
  if values.has p.name then values
  else match p.default with
    | none => values
    | some v => values.put p.name v

/-- Refuses parameters without a value. -/
def checkMissing (s : Signature) (values : Table Value) (parameters : List Parameter) (noun : Text) :
    Except Fault Unit :=
  match (parameters.filter fun p => !values.has p.name).map Parameter.name with
  | [] => .ok ()
  | missing => s.fault ("missing " ++ counted missing.length ("required " ++ noun) ++ ": " ++ listed missing)

/-- Binds the arguments of a call. -/
def bind (s : Signature) (args : List Value) (named : Table Value) : Except Fault Bound := do
  let direct : Table Value := (s.positional.map Parameter.name).zip args
  let b ← named.foldlM (fun b (name, v) => s.bindNamed named.names b name v)
    { values := direct, extra := args.drop s.positional.length }
  checkCount s args.length (named.filter fun (n, _) => s.namedOnly.any (·.name = n)).length
  let values := (s.positional ++ s.namedOnly).foldl fillDefault b.values
  s.checkMissing values s.positional "positional argument"
  s.checkMissing values s.namedOnly "keyword-only argument"
  return { b with values }

end Signature

/-- The value of a bound parameter. -/
def Bound.get (b : Bound) (name : Text) : Value := (b.values.get? name).getD .null

end Stencil
