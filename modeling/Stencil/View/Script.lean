import Stencil.View.Expression

/-!
# Running programs

Statements run one after the other, and tell how control goes on.  A value is given to a *place*: a name, an item, a
slice or an attribute.  What holds an item, and where it is, is found out once and before anything changes.
-/

namespace Stencil

/-- How control goes on after a statement. -/
inductive Control where
  | next
  | leave
  | again
  deriving DecidableEq, Repr

namespace Engine

/-! ## Places -/

/-- What a value can be given to. -/
inductive Place where
  | name (s : Text)
  | item (container index : Value)
  | slice (container start stop step : Value)
  | attribute (owner : Value) (name : Text)

/-- The place that an expression stands for. -/
def placeOf (e : Engine) : Script.Expr → Eval Place
  | .name s => return .name s
  | .item a (.slice start stop step) => do
    let v ← eval e a
    let start ← evalOption e start
    let stop ← evalOption e stop
    return .slice v start stop (← evalOption e step)
  | .item a index => do return .item (← eval e a) (← eval e index)
  | .attribute a name => do return .attribute (← eval e a) name
  | _ => raise .unsupported

/-- The value at a place. -/
def read (e : Engine) : Place → Eval Value
  | .name s => valueOf s
  | .item v index => itemOf v index
  | .slice v start stop step => do settled (← lift (Value.slice (← now v) start stop step))
  | .attribute v name => do run (e.attributeOf (← now v) name)

/-- Something that can change holds something else from now on. -/
def changeTo (v : Value) : Eval Unit := do
  match v.identity? with
  | some who => run (Run.changeTo who v)
  | none => return

/-- The values that a slice is replaced by. -/
def replacement? (v : Value) : Eval (Option (List Value)) := do
  match ← now v with
  | .stream .. => return some (← run (Run.valuesOf v))
  | v => return v.items?

/-- Gives a value to a place. -/
def write (place : Place) (new : Value) : Eval Unit := do
  match place with
  | .name s => bindName s new
  | .item v index => changeTo (← lift (Value.withItem (← now v) (← now index) new))
  | .slice v start stop step => do
    let new ← replacement? new
    changeTo (← lift (Value.withSlice (← now v) start stop step new))
  | .attribute v name =>
    match ← now v with
    | .component id _ => run (Run.setComponentAttribute id name new)
    | v => changeTo (← lift (v.withField name new))

/-! ## Several targets -/

/-- The fault of a list whose length does not fit the targets it is given to. -/
def unpackFault (wanted got : Nat) : Fault :=
  if got < wanted then
    .wrongValue ("not enough values to unpack (expected " ++ Text.ofNat wanted ++ ", got " ++ Text.ofNat got ++ ")")
  else .wrongValue ("too many values to unpack (expected " ++ Text.ofNat wanted ++ ")")

/-- The fault of a list that is too short for the targets beside a starred one. -/
def shortFault (least got : Nat) : Fault :=
  .wrongValue ("not enough values to unpack (expected at least " ++ Text.ofNat least ++ ", got " ++ Text.ofNat got ++ ")")

/-- A target that takes all values that are left over. -/
def isStar : Script.Expr → Bool
  | .star _ => true
  | _ => false

/-- The values that are given to several targets; of a stream, no more are taken than show that there are too many. -/
def unpacked (targets : List Script.Expr) (v : Value) : Eval (List Value) := do
  match ← now v with
  | .stream id name =>
    if targets.any isStar then run (Run.valuesOf (.stream id name)) else run (Run.drain id (targets.length + 1))
  | v =>
    match Value.items? v with
    | some items => return items
    | none => raise (.wrongType ("cannot unpack non-iterable " ++ v.kind ++ " object"))

/-- So many values can be given to several targets. -/
def checkCount (targets : List Script.Expr) (count : Nat) : Except Fault Unit :=
  let wanted := targets.length
  if targets.any isStar then
    if count + 1 < wanted then .error (shortFault (wanted - 1) count) else .ok ()
  else if count = wanted then .ok () else .error (unpackFault wanted count)

mutual

/-- Gives a value to a target. -/
def assign (e : Engine) : Script.Expr → Value → Eval Unit
  | .tuple targets, v | .list targets, v => do
    let vs ← unpacked targets v
    lift (checkCount targets vs.length)
    assignAll e targets vs
  | .star target, v => assign e target v
  | target, v => do write (← placeOf e target) v

/-- Gives values to targets, one to each, and all that are left over to a starred one. -/
def assignAll (e : Engine) : List Script.Expr → List Value → Eval Unit
  | .star target :: targets, vs => do
    let count := vs.length - targets.length
    assign e target (← settled (.list (vs.take count) none))
    assignAll e targets (vs.drop count)
  | target :: targets, v :: vs => do
    assign e target v
    assignAll e targets vs
  | _, _ => return

end

/-- The value of a place after an operator has changed it: a list, set or mapping changes itself. -/
def augmented (e : Engine) (op : Script.BinaryOp) (old v : Value) : Eval Value := do
  let changed (new : Value) : Eval Value := do
    changeTo new
    return new
  match op, ← now old, ← now v with
  | .add, .list items who, v => do changed (.list (items ++ (← run (Run.valuesOf v))) who)
  | .mul, .list items who, v => do
    match ← lift (Value.operateAs (Value.changingSymbol .mul) (← shown) .mul (.list items who) v) with
    | .list items _ => changed (.list items who)
    | new => return new
  | .sub, .set items who, .set more _ | .sub, .set items who, .frozenSet more =>
    changed (.set (Value.without items more) who)
  | .bitOr, .dict entries who, v => do
    match ← run (Run.entriesInto entries v) with
    | (entries, none) => changed (.dict entries who)
    | (entries, some f) => do
      changeTo (.dict entries who)
      raise f
  | op, old, v => operate e (Value.changingSymbol op) op old v

/-! ## Statements -/

/-- Does a step for each of up to `count` values of a stream, until one leaves; tells whether none left. -/
def overStream (step : Value → Eval Control) (id : Nat) : Nat → Eval Bool
  | 0 => raise .endless
  | count + 1 => do
    match ← run (Run.next? id) with
    | none => return true
    | some v =>
      match ← step v with
      | .leave => return false
      | _ => overStream step id count

/-- Does a step for each value that a value goes through. -/
def overEach (step : Value → Eval Control) (v : Value) : Eval Bool := do
  let id ← run (Run.streamOf v)
  overStream step id ((← run (Run.left id)) + Run.roundLimit)

/-- Does a step as long as a test holds; tells whether none left. -/
def whileHolds (test : Eval Bool) (step : Eval Control) : Nat → Eval Bool
  | 0 => raise .endless
  | rounds + 1 => do
    if !(← test) then return true
    match ← step with
    | .leave => return false
    | _ => whileHolds test step rounds

mutual

/-- Runs a statement. -/
def exec (e : Engine) : Script.Statement → Eval Control
  | .eval a => do
    let _ ← eval e a
    return .next
  | .assign targets a => do
    let v ← eval e a
    targets.forM fun target => assign e target v
    return .next
  | .augment target op a => do
    let place ← placeOf e target
    let old ← e.read place
    write place (← augmented e op old (← eval e a))
    return .next
  | .declare target _ a => do
    match a with
    | some a => assign e target (← eval e a)
    | none => pure ()
    return .next
  | .branch test body orelse => do
    if ← truth (← eval e test) then execAll e body else execAll e orelse
  | .whileLoop test body orelse => do
    let finished ← whileHolds (do truth (← eval e test)) (execAll e body) Run.roundLimit
    if finished then execAll e orelse else return .next
  | .forLoop target source body orelse => do
    let source ← eval e source
    let finished ← overEach (fun v => do assign e target v; execAll e body) source
    if finished then execAll e orelse else return .next
  | .pass | .outer _ => return .next
  | .breakLoop => return .leave
  | .continueLoop => return .again
  | .finish _ | .simple _ | .block .. | .blocks _ | .definition .. => raise .unsupported

/-- Runs statements one after the other. -/
def execAll (e : Engine) : List Script.Located → Eval Control
  | [] => return .next
  | (_, s) :: rest => do
    match ← exec e s with
    | .next => execAll e rest
    | control => return control

end

end Engine
end Stencil
