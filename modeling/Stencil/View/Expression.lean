import Stencil.Output.Helper
import Stencil.Value.Method
import Stencil.Value.Update
import Stencil.View.Builtin
import Stencil.View.Method

/-!
# Evaluating expressions

The program of a template runs over a scope that binds names to values.  Expressions are evaluated from left to right.
A new list or mapping gets its identity where it is made; a value is looked at as it is at that moment, which may be
later than when it was computed.  What may not be run on a page fails when it is reached.
-/

namespace Stencil

/-- The names of a program with their values.  What is not bound is looked up among the names that every program knows, or
in what the data put in their place. -/
structure Scope where
  bound : Table Value
  known : Option Value := none

/-- A step of a program. -/
abbrev Eval := StateT Scope Run

/-- What a program runs on. -/
structure Engine where
  view : View
  inner : Inner

namespace Engine

/-! ## Attributes and calls -/

/-- An attribute of a value. -/
def attributeOf (e : Engine) (v : Value) (name : Text) : Run Value := do
  let missing : Run Value := Run.raise (v.noAttribute name)
  let method (known : Bool) : Run Value := if known then return .method v name else missing
  match v with
  | .view =>
    match ← Run.viewAttribute? e.view name with
    | some found => return found
    | none => method (Method.ofView.has name)
  | .helpers =>
    match Output.Helper.named? name with
    | some _ => return .helper name
    | none => Run.raise (.noAttribute ("module 'vellum.runtime' has no attribute " ++ Text.quoted name))
  | .frame id =>
    match Run.frameAttribute? ((← get).frame id) name with
    | some found => return found
    | none => method (name == "advance".toList)
  | .component id _ => Run.componentAttribute e.view id name
  | .str _ | .markup _ => method (Value.textMethods.has name)
  | .dict .. => method (Value.dictMethods.has name)
  | .record fields _ =>
    match Table.get? name fields with
    | some found => return found
    | none => missing
  | _ => missing

/-- A value whose text is asked for: a component is replaced by its rendered text. -/
def rendered (e : Engine) : Value → Run Value
  | .component id _ => e.inner.render id
  | v => return v

/-- Calls a helper; what it shows as text is rendered first. -/
def callHelper (e : Engine) (name : Text) (args : List Value) (named : Table Value) : Run Value := do
  match Output.Helper.named? name with
  | none => Run.raise .unsupported
  | some h =>
    match h, args, named with
    | .plain, [.component id _], [] => e.inner.render id
    | _, _, _ =>
      let args ← match args with
        | v :: rest => if h.shows then pure ((← e.rendered v) :: rest) else pure args
        | [] => pure []
      Run.lift (h.call (← get).shown name args named)

/-- A list with streams taken out, as a text's method takes it. -/
def listed (v : Value) : Run Value := do
  match v with
  | .stream .. => return .list (← Run.valuesOf v) none
  | v => return v

/-- Calls a method of a value. -/
def callMethod (e : Engine) (receiver : Value) (name : Text) (args : List Value) (named : Table Value) :
    Run Value := do
  match receiver with
  | .view =>
    match Method.ofView.get? name with
    | some (m, parameters) =>
      Run.callView e.view e.inner m (← Run.lift ((Method.viewSignature name parameters).bind args named))
    | none => Run.raise (receiver.noAttribute name)
  | .component id _ =>
    match Method.ofComponent.get? name with
    | some (m, parameters) =>
      let b ← Run.lift ((Method.componentSignature name parameters).bind args named)
      Run.callComponent e.view e.inner id m b
    | none => Run.raise .unsupported
  | .str s =>
    match Value.textMethods.get? name with
    | some m =>
      if !named.isEmpty then Run.raise (.wrongType ("str." ++ name ++ "() takes no keyword arguments"))
      Run.lift (Value.callText m s (← args.mapM listed))
    | none => Run.raise .unsupported
  | .markup s =>
    match Value.textMethods.get? name with
    | some m => Run.lift (Value.callMarkup (← get).shown m name s (← args.mapM listed) named)
    | none => Run.raise .unsupported
  | .dict entries who =>
    match Value.dictMethods.get? name with
    | some m =>
      if !named.isEmpty then Run.raise (.wrongType ("dict." ++ name ++ "() takes no keyword arguments"))
      Run.lift (Value.callDict m entries who args)
    | none => Run.raise .unsupported
  | .frame id =>
    let _ ← Run.lift (Signature.bind { name := "LoopFrame." ++ name, parameters := [], receiver := true } args named)
    modify fun s => { s with frames := s.frames.modify id Frame.advance }
    return .null
  | _ => Run.raise .unsupported

/-- Calls a value with arguments that are up to date. -/
def callWith (e : Engine) (f : Value) (args : List Value) (named : Table Value) : Run Value := do
  match f with
  | .builtin name => Run.callBuiltin e.inner name args named
  | .helper name => e.callHelper name args named
  | .function name =>
    match e.view.registry.functions.get? name with
    | some function =>
      if !named.isEmpty then Run.raise .unsupported
      Run.lift (function (← args.mapM e.rendered))
    | none => Run.raise (.missingKey (Text.quoted name))
  | .method receiver name => e.callMethod (← Run.now receiver) name args named
  | .slot helper id => Run.callSlot e.view e.inner helper id (← Run.lift ((Run.slotSignature helper).bind args named))
  | f => Run.raise (.wrongType (Text.quoted f.kind ++ " object is not callable"))

/-- Calls a value. -/
def call (e : Engine) (f : Value) (args : List Value) (named : Table Value) : Run Value := do
  let args ← args.mapM Run.now
  let named ← named.mapM fun (name, v) => return (name, ← Run.now v)
  Run.settle (← e.callWith f args named)

/-! ## Expressions -/

/-- Does a step of rendering inside a program. -/
def run {α : Type} (act : Run α) : Eval α := StateT.lift act

/-- Fails with a fault. -/
def raise {α : Type} (f : Fault) : Eval α := run (Run.raise f)

/-- The result of a step that may fail with a fault. -/
def lift {α : Type} (r : Except Fault α) : Eval α := run (Run.lift r)

/-- The texts of values that live in the state. -/
def shown : Eval (Value → Text) := run do return (← get).shown

/-- The value of a name that is not bound. -/
def knownValue (known : Option Value) (name : Text) : Run Value := do
  match known with
  | none =>
    match Builtin.named? name with
    | some v => return v
    | none => Run.raise (.unbound name)
  | some names =>
    let names ← Run.now names
    match Value.item (← get).shown names (.str name) with
    | .ok v => return v
    | .error (.missingKey _) => Run.raise (.unbound name)
    | .error f => Run.raise f

/-- The value of a name. -/
def valueOf (name : Text) : Eval Value := do
  let scope ← get
  match scope.bound.get? name with
  | some v => return v
  | none => run (knownValue scope.known name)

/-- Binds a name. -/
def bindName (name : Text) (v : Value) : Eval Unit :=
  modify fun scope => { scope with bound := scope.bound.put name v }

/-- Gives identities to a new value. -/
def settled (v : Value) : Eval Value := run (Run.settle v)

/-- A value as it is now. -/
def now (v : Value) : Eval Value := run (Run.now v)

/-- The values that fill a pattern, components rendered. -/
def renderFillers (e : Engine) : Value → Run Value
  | .tuple items => do return .tuple (← items.mapM e.rendered)
  | v => e.rendered v

/-- An operator, written as a sign, applied to two values. -/
def operate (e : Engine) (sign : Text) (op : Script.BinaryOp) (a b : Value) : Eval Value := do
  let a ← now a
  let b ← now b
  let b ← match op, a with
    | .mod, .str _ | .mod, .markup _ => run (e.renderFillers b)
    | _, _ => pure b
  settled (← lift (Value.operateAs sign (← shown) op a b))

/-- A value belongs to another one; loop frames compare by what they say. -/
def isMember (a container : Value) : Eval Bool := do
  let unfold := (← run get).unfold
  match container with
  | .stream .. => return Value.isIn (unfold a) ((← run (Run.valuesOf container)).map unfold)
  | .list items _ | .tuple items => return Value.isIn (unfold a) (items.map unfold)
  | container => lift (Value.isMember a container)

/-- Two values are equal; loop frames compare by what they say. -/
def areEqual (a b : Value) : Eval Bool := do
  let unfold := (← run get).unfold
  return Value.equal (unfold a) (unfold b)

/-- A comparison of two values. -/
def compareValues (op : Script.CompareOp) (a b : Value) : Eval Bool := do
  let a ← now a
  let b ← now b
  match op with
  | .eq => areEqual a b
  | .ne => return !(← areEqual a b)
  | .lt => lift (Value.ordered "<" (· == .lt) a b)
  | .le => lift (Value.ordered "<=" (· != .gt) a b)
  | .gt => lift (Value.ordered ">" (· == .gt) a b)
  | .ge => lift (Value.ordered ">=" (· != .lt) a b)
  | .isIn => isMember a b
  | .isNotIn => return !(← isMember a b)
  | .same => return Value.same a b
  | .different => return !Value.same a b

/-- The item of a value under an index. -/
def itemOf (v index : Value) : Eval Value := do
  match ← now v with
  | .registered =>
    match index.text? with
    | some name => return .function name
    | none => raise (.missingKey (Value.display (← shown) index))
  | v => lift (Value.item (← shown) v (← now index))

/-- Binds new entries of a mapping; their keys must be such as keys can be. -/
def bindEntries (new entries : List (Value × Value)) : Except Fault (List (Value × Value)) :=
  new.foldlM (fun entries (k, v) => do
    Value.checkKey k
    return Value.bind k v entries) entries

/-- The truth of a value in a condition. -/
def truth (v : Value) : Eval Bool := return (← now v).truthy

mutual

/-- The value of an expression. -/
def eval (e : Engine) : Script.Expr → Eval Value
  | .name s => valueOf s
  | .const v => return v
  | .list items => do settled (.list (← evalAll e items) none)
  | .tuple items => return .tuple (← evalAll e items)
  | .set items => do
    let vs ← evalAll e items
    vs.forM fun v => lift (Value.checkKey v)
    settled (.set (Value.distinct vs) none)
  | .dict entries => do settled (.dict (← evalEntries e entries [] []) none)
  | .star _ => raise .unsupported
  | .unary op a => do lift (Value.operateOne op (← eval e a))
  | .binary op a b => do operate e (Value.symbol op) op (← eval e a) (← eval e b)
  | .compare first rest => do evalChain e (← eval e first) rest
  | .both a b => do
    let v ← eval e a
    if ← truth v then eval e b else return v
  | .either a b => do
    let v ← eval e a
    if ← truth v then return v else eval e b
  | .negate a => do return .bool !(← truth (← eval e a))
  | .choice test a b => do if ← truth (← eval e test) then eval e a else eval e b
  | .item a (.slice start stop step) => do
    let v ← eval e a
    let start ← evalOption e start
    let stop ← evalOption e stop
    let step ← evalOption e step
    settled (← lift (Value.slice (← now v) start stop step))
  | .item a index => do itemOf (← eval e a) (← eval e index)
  | .slice .. => raise .unsupported
  | .attribute a name => do run (e.attributeOf (← now (← eval e a)) name)
  | .call f args named => do
    let f ← eval e f
    let args ← evalAll e args
    let named ← evalNamed e named
    run (e.call f args named)
  | .bound name a => do
    let v ← eval e a
    bindName name v
    return v
  | .suspended _ | .inert _ | .foreign _ => raise .unsupported

/-- The value of an expression that may be left out. -/
def evalOption (e : Engine) : Option Script.Expr → Eval Value
  | none => return .null
  | some a => eval e a

/-- The values of several expressions; a starred one stands for all its values. -/
def evalAll (e : Engine) : List Script.Expr → Eval (List Value)
  | [] => return []
  | .star a :: rest => do
    let vs ← run (Run.valuesOf (← eval e a))
    return vs ++ (← evalAll e rest)
  | a :: rest => return (← eval e a) :: (← evalAll e rest)

/-- The entries of a mapping; `pending` are evaluated but not bound yet. -/
def evalEntries (e : Engine) : List (Option Script.Expr × Script.Expr) → (entries pending : List (Value × Value)) →
    Eval (List (Value × Value))
  | [], entries, pending => lift (bindEntries pending entries)
  | (none, a) :: rest, entries, pending => do
    let entries ← lift (bindEntries pending entries)
    let more ← run (Run.entriesFrom (← eval e a))
    evalEntries e rest (more.foldl (fun d (k, v) => Value.bind k v d) entries) []
  | (some k, a) :: rest, entries, pending => do
    let k ← eval e k
    let v ← eval e a
    evalEntries e rest entries (pending ++ [(k, v)])

/-- The named arguments of a call. -/
def evalNamed (e : Engine) : List (Option Text × Script.Expr) → Eval (Table Value)
  | [] => return []
  | (some name, a) :: rest => return (name, ← eval e a) :: (← evalNamed e rest)
  | (none, a) :: rest => do
    let entries ← run (Run.entriesFrom (← eval e a))
    let named ← entries.mapM fun (k, v) =>
      match k.text? with
      | some name => return (name, v)
      | none => raise (.wrongType "keywords must be strings")
    return named ++ (← evalNamed e rest)

/-- The value of a chain of comparisons from a value on. -/
def evalChain (e : Engine) (v : Value) : List (Script.CompareOp × Script.Expr) → Eval Value
  | [] => return .bool true
  | (op, a) :: rest => do
    let w ← eval e a
    if ← compareValues op v w then evalChain e w rest else return .bool false

end

end Engine
end Stencil
