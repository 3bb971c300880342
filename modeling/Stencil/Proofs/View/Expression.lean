import Stencil.Proofs.Script.Names
import Stencil.Proofs.View.Call

/-!
# What expressions can do

Expressions run over a scope of names.  They look names up and bind them; all else that they do is composed of elementary
steps, whatever the scope.

* `Scoped` — a step of a program is composed of elementary steps, binding names, and looking up certain names.
* `Scoped.stepwise` — from every scope such a step is composed of elementary steps.
* `Scoped.eval` — every expression is such a step, looking up the names that it reads.
-/

namespace Stencil

namespace Run.Stepwise

variable {e : Engine} {α : Type}

/-! ## Attributes and calls -/

theorem attributeOf (w : Value) (name : Text) : Stepwise e.view e.inner (e.attributeOf w name) := by
  have hmethod : ∀ known : Bool, Stepwise e.view e.inner
      (if known then return Value.method w name else Run.raise (w.noAttribute name) : Run Value) := by
    intro known
    split
    · exact .pure _
    · exact raise _
  unfold Engine.attributeOf
  dsimp only
  split
  · refine .bind (viewAttribute? name) fun found => ?_
    split
    · exact .pure _
    · exact hmethod _
  · split
    · exact .pure _
    · exact raise _
  · refine .bind get fun s => ?_
    split
    · exact .pure _
    · exact hmethod _
  · exact componentAttribute _ name
  · exact hmethod _
  · exact hmethod _
  · exact hmethod _
  · split
    · exact .pure _
    · exact raise _
  · exact raise _

theorem rendered (w : Value) : Stepwise e.view e.inner (e.rendered w) := by
  unfold Engine.rendered
  split
  · exact render _
  · exact .pure _

theorem callHelper (name : Text) (args : List Value) (named : Table Value) :
    Stepwise e.view e.inner (e.callHelper name args named) := by
  unfold Engine.callHelper
  cases Output.Helper.named? name with
  | none => exact raise _
  | some h =>
    dsimp only
    split
    · exact render _
    · have hbehind : ∀ args, Stepwise e.view e.inner (do Run.lift (h.call (← MonadState.get).shown name args named)) :=
        fun _ => .bind get fun _ => lift _
      split
      · split
        · exact .bind (rendered _) fun _ => .bind (.pure _) hbehind
        · exact .bind (.pure _) hbehind
      · exact .bind (.pure _) hbehind

theorem listed (w : Value) : Stepwise e.view e.inner (Engine.listed w) := by
  unfold Engine.listed
  split
  · exact .bind (valuesOf _) fun _ => .pure _
  · exact .pure _

theorem callMethod (receiver : Value) (name : Text) (args : List Value) (named : Table Value) :
    Stepwise e.view e.inner (e.callMethod receiver name args named) := by
  unfold Engine.callMethod
  split
  · split
    · exact .bind (lift _) fun _ => callView _ _
    · exact raise _
  · split
    · exact .bind (lift _) fun _ => callComponent _ _ _
    · exact raise _
  · split
    · exact behind (raise _) (.bind (.mapM listed _) fun _ => lift _)
    · exact raise _
  · split
    · exact .bind get fun _ => .bind (.mapM listed _) fun _ => lift _
    · exact raise _
  · split
    · exact behind (raise _) (lift _)
    · exact raise _
  · exact .bind (lift _) fun _ => .bind (modify fun _ => rfl) fun _ => .pure _
  · exact raise _

theorem callWith (f : Value) (args : List Value) (named : Table Value) :
    Stepwise e.view e.inner (e.callWith f args named) := by
  unfold Engine.callWith
  split
  · exact callBuiltin _ _ _
  · exact callHelper _ _ _
  · split
    · exact behind (raise _) (.bind (.mapM rendered _) fun _ => lift _)
    · exact raise _
  · exact .bind (now _) fun _ => callMethod _ _ _ _
  · exact .bind (lift _) fun _ => callSlot _ _ _
  · exact raise _

theorem call (f : Value) (args : List Value) (named : Table Value) : Stepwise e.view e.inner (e.call f args named) := by
  refine .bind (.mapM now _) fun _ => .bind (.mapM (fun arg => ?_) _) fun _ => ?_
  · exact .bind (now _) fun _ => .pure _
  · exact .bind (callWith _ _ _) fun _ => settle _

theorem renderFillers (w : Value) : Stepwise e.view e.inner (e.renderFillers w) := by
  unfold Engine.renderFillers
  split
  · exact .bind (.mapM rendered _) fun _ => .pure _
  · exact rendered _

theorem knownValue (known : Option Value) (name : Text) : Stepwise e.view e.inner (Engine.knownValue known name) := by
  unfold Engine.knownValue
  split
  · split
    · exact .pure _
    · exact raise _
  · refine .bind (now _) fun names => .bind get fun s => ?_
    split
    · exact .pure _
    · exact raise _
    · exact raise _

end Run.Stepwise

/-! ## Steps over a scope -/

open Run

/-- A step of a program is composed of elementary steps, binding names, and looking up names of `N`. -/
inductive Scoped (e : Engine) (N : Text → Prop) : {α : Type} → Eval α → Prop
  | pure {α : Type} (a : α) : Scoped e N (Pure.pure a : Eval α)
  | bind {α β : Type} {x : Eval α} {f : α → Eval β} : Scoped e N x → (∀ a, Scoped e N (f a)) → Scoped e N (x >>= f)
  | run {α : Type} {act : Run α} : Stepwise e.view e.inner act → Scoped e N (Engine.run act)
  | valueOf (name : Text) : N name → Scoped e N (Engine.valueOf name)
  | bindName (name : Text) (w : Value) : Scoped e N (Engine.bindName name w)

namespace Scoped

variable {e : Engine} {N : Text → Prop} {α β : Type}

/-- From every scope a step of a program is composed of elementary steps. -/
theorem stepwise {act : Eval α} (h : Scoped e N act) (scope : Scope) : Stepwise e.view e.inner (act.run scope) := by
  induction h generalizing scope with
  | pure a => exact .pure _
  | bind _ _ ihx ihf =>
    rw [StateT.run_bind]
    exact .bind (ihx scope) fun r => ihf r.1 r.2
  | run h => exact .bind h fun _ => .pure _
  | valueOf name _ =>
    rw [Engine.valueOf, StateT.run_bind]
    refine .bind (.pure _) fun r => ?_
    cases r.1.bound.get? name with
    | some w => exact .pure _
    | none => exact .bind (Stepwise.knownValue _ name) fun _ => .pure _
  | bindName name w => exact .pure _

theorem raise (f : Fault) : Scoped e N (Engine.raise f : Eval α) := run (Stepwise.raise f)

theorem lift (r : Except Fault α) : Scoped e N (Engine.lift r) := run (Stepwise.lift r)

theorem mapM {f : α → Eval β} (hf : ∀ a, Scoped e N (f a)) (l : List α) : Scoped e N (l.mapM f) := by
  induction l with
  | nil => rw [List.mapM_nil]; exact pure _
  | cons a l ih =>
    rw [List.mapM_cons]
    exact bind (hf a) fun b => bind ih fun bs => pure _

theorem forM {f : α → Eval PUnit} (hf : ∀ a, Scoped e N (f a)) (l : List α) : Scoped e N (l.forM f) := by
  induction l with
  | nil => exact pure _
  | cons a l ih => exact bind (hf a) fun _ => ih

theorem shown : Scoped e N Engine.shown := run (.bind Stepwise.get fun _ => .pure _)

theorem settled (w : Value) : Scoped e N (Engine.settled w) := run (Stepwise.settle w)

theorem now (w : Value) : Scoped e N (Engine.now w) := run (Stepwise.now w)

theorem operate (sign : Text) (op : Script.BinaryOp) (a b : Value) : Scoped e N (Engine.operate e sign op a b) := by
  refine bind (now a) fun a => bind (now b) fun b => ?_
  have hbehind : ∀ b, Scoped e N (do
      Engine.settled (← Engine.lift (Value.operateAs sign (← Engine.shown) op a b))) :=
    fun _ => bind shown fun _ => bind (lift _) fun _ => settled _
  split
  · exact bind (run (Stepwise.renderFillers _)) hbehind
  · exact bind (run (Stepwise.renderFillers _)) hbehind
  · exact bind (pure _) hbehind

theorem isMember (a container : Value) : Scoped e N (Engine.isMember a container) := by
  refine bind (run Stepwise.get) fun s => ?_
  dsimp only
  split
  · exact bind (run (Stepwise.valuesOf _)) fun _ => pure _
  · exact pure _
  · exact pure _
  · exact lift _

theorem areEqual (a b : Value) : Scoped e N (Engine.areEqual a b) := bind (run Stepwise.get) fun _ => pure _

theorem compareValues (op : Script.CompareOp) (a b : Value) : Scoped e N (Engine.compareValues op a b) := by
  refine bind (now a) fun a => bind (now b) fun b => ?_
  cases op with
  | eq => exact areEqual a b
  | ne => exact bind (areEqual a b) fun _ => pure _
  | lt => exact lift _
  | le => exact lift _
  | gt => exact lift _
  | ge => exact lift _
  | isIn => exact isMember a b
  | isNotIn => exact bind (isMember a b) fun _ => pure _
  | same => exact pure _
  | different => exact pure _

theorem itemOf (w index : Value) : Scoped e N (Engine.itemOf w index) := by
  refine bind (now w) fun w => ?_
  split
  · split
    · exact pure _
    · exact bind shown fun _ => raise _
  · exact bind shown fun _ => bind (now _) fun _ => lift _

theorem truth (w : Value) : Scoped e N (Engine.truth w) := bind (now w) fun _ => pure _

/-! ## Expressions -/

mutual

/-- An expression is composed of elementary steps, binding names, and looking up the names that it reads. -/
theorem eval : (a : Script.Expr) → (∀ n ∈ a.reads, N n) → Scoped e N (Engine.eval e a)
  | .name s, h => by
    rw [Engine.eval]
    exact valueOf s (h s (by simp [Script.Expr.reads]))
  | .const w, _ => by
    rw [Engine.eval]
    exact pure w
  | .list items, h => by
    rw [Engine.eval]
    exact bind (evalAll items h) fun _ => settled _
  | .tuple items, h => by
    rw [Engine.eval]
    exact bind (evalAll items h) fun _ => pure _
  | .set items, h => by
    rw [Engine.eval]
    exact bind (evalAll items h) fun vs => bind (forM (fun _ => lift _) vs) fun _ => settled _
  | .dict entries, h => by
    rw [Engine.eval]
    exact bind (evalEntries entries [] [] h) fun _ => settled _
  | .star a, _ => by
    rw [Engine.eval]
    exact raise _
  | .unary op a, h => by
    rw [Engine.eval]
    exact bind (eval a h) fun _ => lift _
  | .binary op a b, h => by
    rw [Script.Expr.reads, List.forall_mem_append] at h
    rw [Engine.eval]
    exact bind (eval a h.1) fun _ => bind (eval b h.2) fun _ => operate _ _ _ _
  | .compare first rest, h => by
    rw [Script.Expr.reads, List.forall_mem_append] at h
    rw [Engine.eval]
    exact bind (eval first h.1) fun w => evalChain w rest h.2
  | .both a b, h => by
    rw [Script.Expr.reads, List.forall_mem_append] at h
    rw [Engine.eval]
    refine bind (eval a h.1) fun w => bind (truth w) fun t => ?_
    split
    · exact eval b h.2
    · exact pure w
  | .either a b, h => by
    rw [Script.Expr.reads, List.forall_mem_append] at h
    rw [Engine.eval]
    refine bind (eval a h.1) fun w => bind (truth w) fun t => ?_
    split
    · exact pure w
    · exact eval b h.2
  | .negate a, h => by
    rw [Engine.eval]
    exact bind (eval a h) fun w => bind (truth w) fun _ => pure _
  | .choice test a b, h => by
    rw [Script.Expr.reads, List.forall_mem_append, List.forall_mem_append] at h
    rw [Engine.eval]
    refine bind (eval test h.1) fun w => bind (truth w) fun t => ?_
    split
    · exact eval a h.2.1
    · exact eval b h.2.2
  | .item a index, h => by
    rw [Script.Expr.reads, List.forall_mem_append] at h
    have ha := eval a h.1
    have hindex := eval index h.2
    cases index with
    | slice start stop step =>
      have hparts := h.2
      rw [Script.Expr.reads, List.forall_mem_append, List.forall_mem_append] at hparts
      have hstart := evalOption start hparts.1
      have hstop := evalOption stop hparts.2.1
      have hstep := evalOption step hparts.2.2
      rw [Engine.eval]
      refine bind ha fun w => bind hstart fun _ => bind hstop fun _ => bind hstep fun _ => ?_
      exact bind (now w) fun _ => bind (lift _) fun _ => settled _
    | _ =>
      rw [Engine.eval]
      · exact bind ha fun _ => bind hindex fun _ => itemOf _ _
      · simp
  | .slice start stop step, _ => by
    rw [Engine.eval]
    exact raise _
  | .attribute a name, h => by
    rw [Engine.eval]
    exact bind (eval a h) fun w => bind (now w) fun _ => run (Stepwise.attributeOf _ name)
  | .call f args named, h => by
    rw [Script.Expr.reads, List.forall_mem_append, List.forall_mem_append] at h
    rw [Engine.eval]
    refine bind (eval f h.1) fun _ => bind (evalAll args h.2.1) fun _ => bind (evalNamed named h.2.2) fun _ => ?_
    exact run (Stepwise.call _ _ _)
  | .bound name a, h => by
    rw [Engine.eval]
    exact bind (eval a h) fun w => bind (bindName name w) fun _ => pure w
  | .suspended parts, _ => by
    rw [Engine.eval]
    exact raise _
  | .inert imaginary, _ => by
    rw [Engine.eval]
    exact raise _
  | .foreign parts, _ => by
    rw [Engine.eval]
    exact raise _

theorem evalOption : (a : Option Script.Expr) → (∀ n ∈ Script.readsOption a, N n) → Scoped e N (Engine.evalOption e a)
  | none, _ => by
    rw [Engine.evalOption]
    exact pure _
  | some a, h => by
    rw [Engine.evalOption]
    exact eval a h

theorem evalAll : (items : List Script.Expr) → (∀ n ∈ Script.readsAll items, N n) → Scoped e N (Engine.evalAll e items)
  | [], _ => by
    rw [Engine.evalAll]
    exact pure _
  | a :: rest, h => by
    rw [Script.readsAll, List.forall_mem_append] at h
    have ha := eval a h.1
    have hrest := evalAll rest h.2
    cases a with
    | star a =>
      have ha := eval a h.1
      rw [Engine.evalAll]
      exact bind ha fun _ => bind (run (Stepwise.valuesOf _)) fun _ => bind hrest fun _ => pure _
    | _ =>
      rw [Engine.evalAll]
      · exact bind ha fun _ => bind hrest fun _ => pure _
      · simp

theorem evalEntries : (entries : List (Option Script.Expr × Script.Expr)) → (known pending : List (Value × Value)) →
    (∀ n ∈ Script.readsEntries entries, N n) → Scoped e N (Engine.evalEntries e entries known pending)
  | [], known, pending, _ => by
    rw [Engine.evalEntries]
    exact lift _
  | (none, a) :: rest, known, pending, h => by
    rw [Script.readsEntries, List.forall_mem_append, List.forall_mem_append] at h
    rw [Engine.evalEntries]
    refine bind (lift _) fun _ => bind (eval a h.2.1) fun _ => bind (run (Stepwise.entriesFrom _)) fun _ => ?_
    exact evalEntries rest _ [] h.2.2
  | (some k, a) :: rest, known, pending, h => by
    rw [Script.readsEntries, List.forall_mem_append, List.forall_mem_append] at h
    rw [Engine.evalEntries]
    exact bind (eval k h.1) fun _ => bind (eval a h.2.1) fun _ => evalEntries rest known _ h.2.2

theorem evalNamed : (named : List (Option Text × Script.Expr)) → (∀ n ∈ Script.readsNamed named, N n) →
    Scoped e N (Engine.evalNamed e named)
  | [], _ => by
    rw [Engine.evalNamed]
    exact pure _
  | (some name, a) :: rest, h => by
    rw [Script.readsNamed, List.forall_mem_append] at h
    rw [Engine.evalNamed]
    exact bind (eval a h.1) fun _ => bind (evalNamed rest h.2) fun _ => pure _
  | (none, a) :: rest, h => by
    rw [Script.readsNamed, List.forall_mem_append] at h
    rw [Engine.evalNamed]
    refine bind (eval a h.1) fun _ => bind (run (Stepwise.entriesFrom _)) fun entries => ?_
    refine bind (mapM (fun entry => ?_) entries) fun _ => bind (evalNamed rest h.2) fun _ => pure _
    dsimp only
    split
    · exact pure _
    · exact raise _

theorem evalChain (w : Value) : (rest : List (Script.CompareOp × Script.Expr)) →
    (∀ n ∈ Script.readsCompared rest, N n) → Scoped e N (Engine.evalChain e w rest)
  | [], _ => by
    rw [Engine.evalChain]
    exact pure _
  | (op, a) :: rest, h => by
    rw [Script.readsCompared, List.forall_mem_append] at h
    rw [Engine.evalChain]
    refine bind (eval a h.1) fun w' => bind (compareValues op w w') fun t => ?_
    split
    · exact evalChain w' rest h.2
    · exact pure _

end

end Scoped
end Stencil
