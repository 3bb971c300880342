import Stencil.Proofs.View.Loop
import Stencil.Proofs.View.Scope

/-!
# The statements around a loop

A template's loop is compiled to a loop over what `add_loop` gives: its body begins with reading the frame of the
innermost loop, and behind it that loop is closed and the frame read again.  A template is included by printing what
`make_partial` gives.  All of these ask the view, which programs know by its name.

* `evalFrom` — how a step of a program ends.
* `evalFrom_readLoop`, `evalFrom_popLoop`, `evalFrom_addLoop`, `evalFrom_include` — what these statements do.
* `Clause`, `program` — programs as trees in which a loop and the statements around it are one piece.
* `program_clausesOf` — every program is that of its pieces.
-/

namespace Stencil

open Run

/-! ## Steps of programs -/

/-- How a step of a program ends over a scope and from a state. -/
def evalFrom {α : Type} (act : Eval α) (a : Scope) (s : State) : Except Error (α × Scope) × State :=
  runFrom (act.run a) s

section Steps

variable {α β : Type} {x : Eval α} {f : α → Eval β} {a b : Scope} {s t : State}

@[simp] theorem evalFrom_pure (y : α) (a : Scope) (s : State) : evalFrom (pure y : Eval α) a s = (.ok (y, a), s) := rfl

theorem evalFrom_bind (x : Eval α) (f : α → Eval β) (a : Scope) (s : State) :
    evalFrom (x >>= f) a s = match evalFrom x a s with
      | (.ok (y, b), t) => evalFrom (f y) b t
      | (.error e, t) => (.error e, t) := by
  unfold evalFrom
  rw [StateT.run_bind, runFrom_bind]
  rcases runFrom (x.run a) s with ⟨e | ⟨y, b⟩, t⟩ <;> rfl

theorem evalFrom_bind_ok {y : α} (h : evalFrom x a s = (.ok (y, b), t)) (f : α → Eval β) :
    evalFrom (x >>= f) a s = evalFrom (f y) b t := by
  rw [evalFrom_bind, h]

theorem evalFrom_bind_error {e : Error} (h : evalFrom x a s = (.error e, t)) (f : α → Eval β) :
    evalFrom (x >>= f) a s = (.error e, t) := by
  rw [evalFrom_bind, h]

/-- A step of rendering leaves the scope alone. -/
theorem evalFrom_run (act : Run α) (a : Scope) (s : State) :
    evalFrom (Engine.run act) a s = match runFrom act s with
      | (.ok y, t) => (.ok (y, a), t)
      | (.error e, t) => (.error e, t) := by
  change runFrom (act >>= fun y => pure (y, a)) s = _
  rw [runFrom_bind]
  rcases runFrom act s with ⟨e | y, t⟩ <;> rfl

theorem evalFrom_run_ok {act : Run α} {y : α} (h : runFrom act s = (.ok y, t)) (a : Scope) :
    evalFrom (Engine.run act) a s = (.ok (y, a), t) := by
  rw [evalFrom_run, h]

theorem evalFrom_now (w : Value) (a : Scope) (s : State) : evalFrom (Engine.now w) a s = (.ok (s.now w, a), s) :=
  evalFrom_run_ok (runFrom_now w s) a

theorem evalFrom_valueOf {name : Text} {w : Value} (h : a.bound.get? name = some w) :
    evalFrom (Engine.valueOf name) a s = (.ok (w, a), s) := by
  rw [evalFrom, run_valueOf_of_bound h]
  rfl

end Steps

/-! ## What the statements of a loop do -/

namespace Script

/-- A call of a method of the view. -/
def Expr.asking (method : Text) (args : List Expr) : Expr := .call (.attribute (.name "_view") method) args []

/-- Opens a loop over the value of an expression. -/
def Expr.addLoop (source : Expr) : Expr := .asking "add_loop" [source]

/-- The markup of a template with data. -/
def Expr.makePartial (name : Text) (data : Expr) : Expr := .asking "make_partial" [.const (.str name), data]

/-- Reads the frame of the innermost loop. -/
def Statement.readLoop : Statement := .assign [.name "loop"] (.attribute (.name "_view") "last_loop")

/-- Closes the innermost loop. -/
def Statement.popLoop : Statement := .eval (.asking "pop_loop" [])

/-- Prints another template. -/
def Statement.include (name : Text) (data : Expr) : Statement :=
  .eval (.call (.name "_echo") [Expr.makePartial name data] [])

end Script

/-- A scope in which the view and its way to print have their names. -/
structure Scope.Named (a : Scope) : Prop where
  view : a.bound.get? "_view" = some .view
  echo : a.bound.get? "_echo" = some (.method .view "_echo")

/-- A scope with a name bound anew. -/
def Scope.put (a : Scope) (name : Text) (w : Value) : Scope := { a with bound := a.bound.put name w }

/-- The frame of the innermost loop, as a program sees it. -/
def State.lastLoop (s : State) : Value := (s.pass.loops.head?.map Value.frame).getD .null

section Statements

variable {e : Engine} {a b : Scope} {s t : State}

theorem State.now_view (s : State) : s.now .view = .view := by
  unfold State.now
  split <;> rfl

theorem State.now_str (s : State) (text : Text) : s.now (.str text) = .str text := by
  unfold State.now
  split <;> rfl

/-- A method of the view is found by its name. -/
theorem evalFrom_method (h : a.Named) {m : Text} (hmethod : Method.ofView.has m = true)
    (hattribute : runFrom (viewAttribute? e.view m) s = (.ok none, s)) :
    evalFrom (Engine.eval e (.attribute (.name "_view") m)) a s = (.ok (.method .view m, a), s) := by
  have hfound : runFrom (e.attributeOf .view m) s = (.ok (.method .view m), s) := by
    rw [Engine.attributeOf, runFrom_bind_ok hattribute, hmethod]
    rfl
  rw [Engine.eval, Engine.eval, evalFrom_bind_ok (evalFrom_valueOf h.view), evalFrom_bind_ok (evalFrom_now .view a s),
    State.now_view, evalFrom_run_ok hfound]

theorem runFrom_mapM_now (args : List Value) (s : State) : runFrom (args.mapM now) s = (.ok (args.map s.now), s) := by
  induction args with
  | nil => rfl
  | cons w args ih =>
    rw [List.mapM_cons, runFrom_bind_ok (runFrom_now w s), runFrom_bind_ok ih]
    rfl

/-- A call looks at its arguments as they are now. -/
theorem runFrom_call (f : Value) (args : List Value) (s : State) :
    runFrom (e.call f args []) s = runFrom (e.callWith f (args.map s.now) [] >>= settle) s := by
  rw [Engine.call, runFrom_bind_ok (runFrom_mapM_now args s), List.mapM_nil, pure_bind]

/-- Calling a method of the view binds its arguments. -/
theorem runFrom_callWith_view {m : Text} {method : ViewMethod} {parameters : List Parameter} {args : List Value}
    {b : Bound} (hm : Method.ofView.get? m = some (method, parameters))
    (hb : (Method.viewSignature m parameters).bind args [] = .ok b) (s : State) :
    runFrom (e.callWith (.method .view m) args []) s = runFrom (callView e.view e.inner method b) s := by
  rw [Engine.callWith, runFrom_bind_ok (runFrom_now .view s), State.now_view, Engine.callMethod, hm]
  dsimp only
  rw [hb]
  rfl

theorem evalFrom_readLoop (h : a.Named) :
    evalFrom (Engine.exec e .readLoop) a s = (.ok (.next, a.put "loop" s.lastLoop), s) := by
  have hread : evalFrom (Engine.eval e (.attribute (.name "_view") "last_loop")) a s = (.ok (s.lastLoop, a), s) := by
    rw [Engine.eval, Engine.eval, evalFrom_bind_ok (evalFrom_valueOf h.view), evalFrom_bind_ok (evalFrom_now .view a s),
      State.now_view]
    rfl
  rw [Script.Statement.readLoop, Engine.exec, evalFrom_bind_ok hread]
  rfl

theorem evalFrom_popLoop (h : a.Named) :
    evalFrom (Engine.exec e .popLoop) a s =
      (.ok (.next, a), { s with pass := { s.pass with loops := s.pass.loops.tail } }) := by
  have hcall : runFrom (e.call (.method .view "pop_loop") [] []) s =
      (.ok .null, { s with pass := { s.pass with loops := s.pass.loops.tail } }) := by
    have hclosed : runFrom (e.callWith (.method .view "pop_loop") [] []) s =
        (.ok .null, { s with pass := { s.pass with loops := s.pass.loops.tail } }) := by
      have hm : Method.ofView.get? "pop_loop" = some (.popLoop, []) := rfl
      have hb : (Method.viewSignature "pop_loop" []).bind [] [] = .ok {} := rfl
      rw [runFrom_callWith_view hm hb]
      rfl
    rw [runFrom_call, List.map_nil, runFrom_bind_ok hclosed]
    rfl
  rw [Script.Statement.popLoop, Script.Expr.asking, Engine.exec, Engine.eval, Engine.evalAll, Engine.evalNamed,
    bind_assoc, evalFrom_bind_ok (evalFrom_method h rfl rfl)]
  simp only [pure_bind]
  rw [evalFrom_bind_ok (evalFrom_run_ok hcall a)]
  rfl

/-- What a loop goes through, as it is listed when the loop is opened. -/
def Engine.listing (e : Engine) (source : Script.Expr) : Eval Pending := do
  let w ← Engine.now (← e.eval source)
  run (pendingOf (← Engine.now w))

theorem evalAll_single {source : Script.Expr} (h : Engine.isStar source = false) (rest : List Script.Expr) :
    e.evalAll (source :: rest) = (do return (← e.eval source) :: (← e.evalAll rest)) := by
  rw [Engine.evalAll]
  rintro inner rfl
  cases h

/-- What opening a loop gives has no parts that need an identity. -/
theorem runFrom_openLoop_settle (w : Value) (s : State) :
    runFrom (openLoop w >>= settle) s = runFrom (openLoop w) s := by
  rw [runFrom_bind, runFrom_openLoop]
  rcases runFrom (pendingOf (s.now w)) s with ⟨e | rest, u⟩
  · rfl
  · dsimp only
    generalize (if (Value.length? (s.now w)).isSome = true then Value.length (s.now w) else Except.ok rest.count) = c
    cases c <;> rfl

/-- Opening a loop evaluates what it goes through, and looks at it as it is then. -/
theorem evalFrom_addLoop (h : a.Named) {source : Script.Expr} (hsource : Engine.isStar source = false) :
    evalFrom (Engine.eval e source.addLoop) a s =
      evalFrom (do let w ← Engine.now (← e.eval source); Engine.run (openLoop w)) a s := by
  have hcall : ∀ (w : Value) (s : State), runFrom (e.call (.method .view "add_loop") [w] []) s =
      runFrom (openLoop (s.now w)) s := by
    intro w s
    have hm : Method.ofView.get? "add_loop" = some (.addLoop, [Method.need "iterable"]) := rfl
    have hb : (Method.viewSignature "add_loop" [Method.need "iterable"]).bind [s.now w] [] =
        .ok { values := [("iterable", s.now w)] } := rfl
    have hopen : runFrom (e.callWith (.method .view "add_loop") [s.now w] []) s = runFrom (openLoop (s.now w)) s :=
      runFrom_callWith_view hm hb s
    rw [← runFrom_openLoop_settle, runFrom_bind, ← hopen, ← runFrom_bind, runFrom_call]
    rfl
  rw [Script.Expr.addLoop, Script.Expr.asking, Engine.eval, Engine.evalNamed, evalAll_single hsource, Engine.evalAll,
    evalFrom_bind_ok (evalFrom_method h rfl rfl)]
  simp only [bind_assoc, pure_bind]
  rw [evalFrom_bind, evalFrom_bind]
  rcases evalFrom (e.eval source) a s with ⟨x | ⟨w, b⟩, t⟩
  · rfl
  · dsimp only
    rw [evalFrom_bind_ok (evalFrom_now w b t), evalFrom_run, evalFrom_run, hcall]

/-- The data of a template that is included. -/
def Engine.entries (e : Engine) (data : Script.Expr) : Eval (List (Value × Value)) := do
  let w ← Engine.now (← e.eval data)
  run (entriesOrNone w)

theorem State.now_markup (s : State) (text : Text) : s.now (.markup text) = .markup text := by
  unfold State.now
  split <;> rfl

/-- The markup of a template is what evaluating it gives. -/
theorem runFrom_call_makePartial (name : Text) (w : Value) (s : State) :
    runFrom (e.call (.method .view "make_partial") [.str name, w] []) s =
      runFrom (do
        let entries ← entriesOrNone (s.now w)
        return .markup (← e.inner.evaluate name entries)) s := by
  have hm : Method.ofView.get? "make_partial" =
      some (.makePartial, [Method.need "name", Method.may "data" .null]) := rfl
  have hb : (Method.viewSignature "make_partial" [Method.need "name", Method.may "data" .null]).bind
      [.str name, s.now w] [] = .ok { values := [("name", .str name), ("data", s.now w)] } := rfl
  have hpartial : runFrom (e.callWith (.method .view "make_partial") [.str name, s.now w] []) s =
      runFrom (partialOf e.view e.inner (.str name) (s.now w)) s := runFrom_callWith_view hm hb s
  rw [runFrom_call, List.map_cons, List.map_cons, List.map_nil, State.now_str, runFrom_bind, hpartial, partialOf,
    runFrom_bind, runFrom_bind]
  rcases runFrom (entriesOrNone (s.now w)) s with ⟨x | entries, t⟩
  · rfl
  · dsimp only
    rw [templateName, Value.text?, pure_bind, runFrom_bind]
    rcases runFrom (e.inner.evaluate name entries) t with ⟨x | text, u⟩ <;> rfl

/-- Printing calls the view. -/
theorem runFrom_call_echo (w : Value) (s : State) :
    runFrom (e.call (.method .view "_echo") [w] []) s =
      runFrom (do
        echo e.inner (s.now w)
        return .null) s := by
  have hm : Method.ofView.get? "_echo" = some (.echo, [Method.need "value"]) := rfl
  have hb : (Method.viewSignature "_echo" [Method.need "value"]).bind [s.now w] [] =
      .ok { values := [("value", s.now w)] } := rfl
  have hecho : runFrom (e.callWith (.method .view "_echo") [s.now w] []) s =
      runFrom (quietly (echo e.inner (s.now w))) s := runFrom_callWith_view hm hb s
  rw [runFrom_call, List.map_cons, List.map_nil, runFrom_bind, hecho, quietly, runFrom_bind]
  rcases runFrom (echo e.inner (s.now w)) s with ⟨x | _, t⟩ <;> rfl

/-- A statement that prints evaluates what it prints first. -/
theorem evalFrom_echo (h : a.Named) {x : Script.Expr} (hx : Engine.isStar x = false) :
    evalFrom (Engine.exec e (.eval (.call (.name "_echo") [x] []))) a s = evalFrom (do
      let w ← Engine.now (← e.eval x)
      Engine.run (echo e.inner w)
      return .next) a s := by
  have hprint : evalFrom (e.eval (.name "_echo")) a s = (.ok (.method .view "_echo", a), s) := by
    rw [Engine.eval]
    exact evalFrom_valueOf h.echo
  rw [Engine.exec, Engine.eval, Engine.evalNamed, evalAll_single hx, Engine.evalAll]
  simp only [bind_assoc, pure_bind]
  rw [evalFrom_bind_ok hprint, evalFrom_bind, evalFrom_bind]
  rcases evalFrom (e.eval x) a s with ⟨y | ⟨w, b⟩, t⟩
  · rfl
  · dsimp only
    rw [evalFrom_bind_ok (evalFrom_now w b t), evalFrom_bind, evalFrom_bind, evalFrom_run, evalFrom_run,
      runFrom_call_echo, runFrom_bind]
    rcases runFrom (echo e.inner (t.now w)) t with ⟨y | _, u⟩ <;> rfl

/-- The markup of a template is what evaluating the template over its data gives. -/
theorem evalFrom_makePartial (h : a.Named) (name : Text) {data : Script.Expr} (hdata : Engine.isStar data = false) :
    evalFrom (Engine.eval e (.makePartial name data)) a s = evalFrom (do
      let entries ← e.entries data
      return .markup (← Engine.run (e.inner.evaluate name entries))) a s := by
  rw [Script.Expr.makePartial, Script.Expr.asking, Engine.eval, Engine.evalNamed, evalAll_single rfl,
    evalAll_single hdata, Engine.evalAll, Engine.eval]
  simp only [bind_assoc, pure_bind]
  rw [evalFrom_bind_ok (evalFrom_method h rfl rfl), Engine.entries]
  simp only [bind_assoc]
  rw [evalFrom_bind, evalFrom_bind]
  rcases evalFrom (e.eval data) a s with ⟨x | ⟨w, b⟩, t⟩
  · rfl
  · dsimp only
    rw [evalFrom_bind_ok (evalFrom_now w b t), evalFrom_bind, evalFrom_run, evalFrom_run, runFrom_call_makePartial,
      runFrom_bind]
    rcases runFrom (entriesOrNone (t.now w)) t with ⟨x | entries, u⟩
    · rfl
    · dsimp only
      rw [runFrom_bind, evalFrom_bind, evalFrom_run]
      rcases runFrom (e.inner.evaluate name entries) u with ⟨x | text, u'⟩ <;> rfl

/-- Including a template evaluates its data, then the template, and prints what came out. -/
theorem evalFrom_include (h : a.Named) (name : Text) {data : Script.Expr} (hdata : Engine.isStar data = false) :
    evalFrom (Engine.exec e (.include name data)) a s = evalFrom (do
      let entries ← e.entries data
      let text ← Engine.run (e.inner.evaluate name entries)
      Engine.run (echo e.inner (.markup text))
      return .next) a s := by
  rw [Script.Statement.include, evalFrom_echo h rfl, evalFrom_bind, evalFrom_makePartial h name hdata, evalFrom_bind,
    evalFrom_bind]
  rcases evalFrom (e.entries data) a s with ⟨x | ⟨entries, b⟩, t⟩
  · rfl
  · dsimp only
    rw [evalFrom_bind, evalFrom_bind]
    rcases evalFrom (Engine.run (e.inner.evaluate name entries)) b t with ⟨x | ⟨text, c⟩, u⟩
    · rfl
    · dsimp only [evalFrom_pure]
      rw [evalFrom_bind_ok (evalFrom_now _ c u), State.now_markup]

end Statements

/-! ## Programs as trees -/

/-- An expression that stands for one value where several may stand. -/
structure Operand where
  expr : Script.Expr
  single : Engine.isStar expr = false

/-- A piece of a program: a branch, a loop with what is done around it, another template, or any other statement.  The
numbers are the lines of the statements. -/
inductive Clause where
  | plain (line : Nat) (st : Script.Statement)
  | branch (line : Nat) (test : Script.Expr) (body orelse : List Clause)
  | loop (line first last behind : Nat) (target : Script.Expr) (source : Operand) (body : List Clause)
  | part (line : Nat) (name : Text) (data : Operand)

mutual

/-- The statements of a piece. -/
def Clause.statements : Clause → List Script.Located
  | .plain line st => [(line, st)]
  | .branch line test body orelse => [(line, .branch test (program body) (program orelse))]
  | .loop line first last behind target source body =>
    [(line, .forLoop target source.expr.addLoop ((first, .readLoop) :: program body) []), (last, .popLoop),
      (behind, .readLoop)]
  | .part line name data => [(line, .include name data.expr)]

/-- The statements of several pieces. -/
def program : List Clause → List Script.Located
  | [] => []
  | c :: cs => c.statements ++ program cs

end

namespace Script

/-- The arguments of a call of a method of the view. -/
def Expr.asked? (method : Text) : Expr → Option (List Expr)
  | .call (.attribute (.name view) m) args [] => if view = "_view".toList ∧ m = method then some args else none
  | _ => none

/-- An expression that stands for one value. -/
def Expr.operand? (a : Expr) : Option Operand := if h : Engine.isStar a = false then some ⟨a, h⟩ else none

/-- A statement reads the frame of the innermost loop. -/
def Statement.isReadLoop : Statement → Bool
  | .assign [.name loop] (.attribute (.name view) last) =>
    loop = "loop".toList ∧ view = "_view".toList ∧ last = "last_loop".toList
  | _ => false

/-- A statement closes the innermost loop. -/
def Statement.isPopLoop : Statement → Bool
  | .eval a => (a.asked? "pop_loop").any List.isEmpty
  | _ => false

/-- The name and the data of the template that a statement prints. -/
def Statement.include? : Statement → Option (Text × Operand)
  | .eval (.call (.name echo) [markup] []) =>
    match markup.asked? "make_partial" with
    | some [.const (.str name), data] => if echo = "_echo".toList then data.operand?.map (name, ·) else none
    | _ => none
  | _ => none

/-- The target of a loop, and what it goes through. -/
def Statement.foreach? : Statement → Option (Expr × Operand)
  | .forLoop target source _ [] =>
    match source.asked? "add_loop" with
    | some [source] => source.operand?.map (target, ·)
    | _ => none
  | _ => none

end Script

/-- A statement in front of pieces, given the pieces of its bodies: loops are put together with the statements behind
them. -/
def Clause.attach (line : Nat) (st : Script.Statement) (inner : List Clause × List Clause) (rest : List Clause) :
    List Clause :=
  match st with
  | .branch test _ _ => .branch line test inner.1 inner.2 :: rest
  | st =>
    match st.include? with
    | some (name, data) => .part line name data :: rest
    | none =>
      match st.foreach?, inner.1, rest with
      | some (target, source), .plain first read :: body, .plain last pop :: .plain behind again :: rest' =>
        if read.isReadLoop ∧ pop.isPopLoop ∧ again.isReadLoop then
          .loop line first last behind target source body :: rest'
        else .plain line st :: rest
      | _, _, _ => .plain line st :: rest

mutual

/-- The pieces of the bodies of a statement. -/
def innerClauses : Script.Statement → List Clause × List Clause
  | .branch _ body orelse => (clausesOf body, clausesOf orelse)
  | .forLoop _ _ body _ => (clausesOf body, [])
  | _ => ([], [])

/-- The pieces of a program. -/
def clausesOf : List Script.Located → List Clause
  | [] => []
  | (line, st) :: rest => Clause.attach line st (innerClauses st) (clausesOf rest)

end

namespace Script

variable {a : Expr} {st : Statement}

theorem Expr.eq_asking {method : Text} {args : List Expr} (h : a.asked? method = some args) :
    a = .asking method args := by
  unfold Expr.asked? at h
  split at h
  · split at h
    case isTrue hnames =>
      obtain ⟨rfl, rfl⟩ := hnames
      cases h
      rfl
    case isFalse => cases h
  · cases h

theorem Expr.eq_of_operand? {b : Operand} (h : a.operand? = some b) : a = b.expr := by
  unfold Expr.operand? at h
  split at h <;> cases h
  rfl

theorem Statement.eq_readLoop (h : st.isReadLoop) : st = .readLoop := by
  unfold Statement.isReadLoop at h
  split at h
  · obtain ⟨rfl, rfl, rfl⟩ := of_decide_eq_true h
    rfl
  · cases h

theorem Statement.eq_popLoop (h : st.isPopLoop) : st = .popLoop := by
  unfold Statement.isPopLoop at h
  split at h
  · rename_i a
    obtain ⟨args, hargs, hnone⟩ := Option.any_eq_true _ _ |>.mp h
    rw [List.isEmpty_iff.mp hnone] at hargs
    rw [Expr.eq_asking hargs]
    rfl
  · cases h

theorem Statement.eq_include {name : Text} {data : Operand} (h : st.include? = some (name, data)) :
    st = .include name data.expr := by
  unfold Statement.include? at h
  split at h
  · split at h
    case h_1 hasked =>
      split at h
      case isTrue hecho =>
        obtain ⟨b, hb, hpair⟩ := Option.map_eq_some_iff.mp h
        cases hpair
        rw [hecho, Expr.eq_asking hasked, Expr.eq_of_operand? hb]
        rfl
      case isFalse => cases h
    case h_2 => cases h
  · cases h

theorem Statement.eq_foreach {target : Expr} {source : Operand} (h : st.foreach? = some (target, source)) :
    ∃ body, st = .forLoop target source.expr.addLoop body [] := by
  unfold Statement.foreach? at h
  split at h
  case h_1 =>
    split at h
    case h_1 hasked =>
      obtain ⟨b, hb, hpair⟩ := Option.map_eq_some_iff.mp h
      cases hpair
      exact ⟨_, by rw [Expr.eq_asking hasked, Expr.eq_of_operand? hb]; rfl⟩
    case h_2 => cases h
  case h_2 => cases h

/-- The bodies of a statement are the programs of pieces. -/
def Statement.Bodies (inner : List Clause × List Clause) : Statement → Prop
  | .branch _ body orelse => program inner.1 = body ∧ program inner.2 = orelse
  | .forLoop _ _ body _ => program inner.1 = body
  | _ => True

end Script

theorem program_attach (line : Nat) {st : Script.Statement} {inner : List Clause × List Clause} (h : st.Bodies inner)
    (rest : List Clause) : program (Clause.attach line st inner rest) = (line, st) :: program rest := by
  unfold Clause.attach
  split
  case h_1 test body orelse =>
    obtain ⟨rfl, rfl⟩ := h
    rfl
  case h_2 =>
    split
    case h_1 name data hpart =>
      rw [Script.Statement.eq_include hpart]
      rfl
    case h_2 =>
      split
      case h_1 target source first read body last pop behind again rest' hloop hinner =>
        split
        case isTrue hnames =>
          obtain ⟨body', rfl⟩ := Script.Statement.eq_foreach hloop
          obtain ⟨hread, hpop, hagain⟩ := hnames
          have hbody : program inner.1 = body' := h
          rw [hinner] at hbody
          rw [← hbody, Script.Statement.eq_readLoop hread, Script.Statement.eq_popLoop hpop,
            Script.Statement.eq_readLoop hagain]
          rfl
        case isFalse => rfl
      case h_2 => rfl

mutual

theorem bodies_innerClauses : (st : Script.Statement) → st.Bodies (innerClauses st)
  | .branch _ body orelse => by
    rw [innerClauses]
    exact ⟨program_clausesOf body, program_clausesOf orelse⟩
  | .forLoop _ _ body _ => by
    rw [innerClauses]
    exact program_clausesOf body
  | .eval _ | .assign .. | .augment .. | .declare .. | .whileLoop .. | .pass | .breakLoop | .continueLoop | .finish _
  | .outer _ | .simple _ | .block .. | .blocks _ | .definition .. => trivial

/-- Every program is that of its pieces. -/
theorem program_clausesOf : (p : List Script.Located) → program (clausesOf p) = p
  | [] => rfl
  | (line, st) :: rest => by
    rw [clausesOf, program_attach line (bodies_innerClauses st), program_clausesOf rest]

end

end Stencil
