import Stencil.Proofs.View.Expression

/-!
# What programs can do

Statements run over a scope like expressions do: what they do is composed of elementary steps, of binding names, and of
looking up the names that they read.  So the program of a template keeps what the elementary steps keep.

* `Scoped.execAll` — every program is such a step.
* `Stepwise.runProgram` — running a program over its data is composed of elementary steps.
-/

namespace Stencil

open Run

namespace Scoped

variable {e : Engine} {N : Text → Prop} {α : Type}

/-! ## Places -/

/-- A step behind finding a place: it is found by looking up the names that giving a value to it reads. -/
theorem placeOf_bind {a : Script.Expr} {f : Engine.Place → Eval α} (h : ∀ n ∈ a.placeReads, N n)
    (hname : ∀ s, a = .name s → Scoped e N (f (.name s)))
    (hf : ∀ place, (∀ s, place ≠ .name s) → Scoped e N (f place)) : Scoped e N (Engine.placeOf e a >>= f) := by
  unfold Engine.placeOf
  split
  · rw [pure_bind]
    exact hname _ rfl
  · rw [Script.Expr.placeReads, Script.Expr.reads, List.forall_mem_append, List.forall_mem_append,
      List.forall_mem_append] at h
    simp only [bind_assoc, pure_bind]
    exact bind (eval _ h.1) fun _ => bind (evalOption _ h.2.1) fun _ => bind (evalOption _ h.2.2.1) fun _ =>
      bind (evalOption _ h.2.2.2) fun _ => hf _ (by simp)
  · rw [Script.Expr.placeReads, List.forall_mem_append] at h
    simp only [bind_assoc, pure_bind]
    exact bind (eval _ h.1) fun _ => bind (eval _ h.2) fun _ => hf _ (by simp)
  · rw [Script.Expr.placeReads] at h
    simp only [bind_assoc, pure_bind]
    exact bind (eval _ h) fun _ => hf _ (by simp)
  · exact raise (α := α) .unsupported

/-- A place is read by looking it up if it is a name. -/
theorem read {place : Engine.Place} (h : ∀ s, place = .name s → N s) : Scoped e N (e.read place) := by
  cases place with
  | name s => exact valueOf s (h s rfl)
  | item w index => exact itemOf w index
  | slice w start stop step => exact bind (now w) fun _ => bind (lift _) fun _ => settled _
  | «attribute» w name => exact bind (now w) fun _ => run (Stepwise.attributeOf _ name)

theorem changeTo (w : Value) : Scoped e N (Engine.changeTo w) := by
  unfold Engine.changeTo
  split
  · exact run (Stepwise.changeTo _ _)
  · exact pure _

theorem replacement? (w : Value) : Scoped e N (Engine.replacement? w) := by
  refine bind (now w) fun w' => ?_
  split
  · exact bind (run (Stepwise.valuesOf w)) fun _ => pure _
  · exact pure _

theorem write (place : Engine.Place) (new : Value) : Scoped e N (Engine.write place new) := by
  cases place with
  | name s => exact bindName s new
  | item w index => exact bind (now w) fun _ => bind (now index) fun _ => bind (lift _) fun _ => changeTo _
  | slice w start stop step =>
    exact bind (replacement? new) fun _ => bind (now w) fun _ => bind (lift _) fun _ => changeTo _
  | «attribute» w name =>
    refine bind (now w) fun w => ?_
    split
    · exact run (Stepwise.setComponentAttribute _ _ _)
    · exact bind (lift _) fun _ => changeTo _

/-! ## Several targets -/

theorem unpacked (targets : List Script.Expr) (w : Value) : Scoped e N (Engine.unpacked targets w) := by
  refine bind (now w) fun w => ?_
  split
  · split
    · exact run (Stepwise.valuesOf _)
    · exact run (Stepwise.drain _ _)
  · split
    · exact pure _
    · exact raise _

mutual

theorem assign : (target : Script.Expr) → (w : Value) → (∀ n ∈ target.placeReads, N n) →
    Scoped e N (Engine.assign e target w)
  | target, w, h => by
    cases target with
    | tuple targets =>
      have htargets := assignAll targets
      rw [Engine.assign]
      exact bind (unpacked targets w) fun vs => bind (lift _) fun _ => htargets vs h
    | list targets =>
      have htargets := assignAll targets
      rw [Engine.assign]
      exact bind (unpacked targets w) fun vs => bind (lift _) fun _ => htargets vs h
    | star target =>
      have htarget := assign target w
      rw [Engine.assign]
      exact htarget h
    | _ =>
      rw [Engine.assign]
      · exact placeOf_bind h (fun s _ => write _ w) fun place _ => write place w
      all_goals simp

theorem assignAll : (targets : List Script.Expr) → (vs : List Value) → (∀ n ∈ Script.placeReadsAll targets, N n) →
    Scoped e N (Engine.assignAll e targets vs)
  | [], vs, _ => by
    rw [Engine.assignAll]
    · exact pure _
    all_goals simp
  | target :: targets, vs, h => by
    rw [Script.placeReadsAll, List.forall_mem_append] at h
    have hrest := assignAll targets
    have htarget := assign target
    cases target with
    | star target =>
      have htarget := assign target
      rw [Engine.assignAll]
      exact bind (settled _) fun w => bind (htarget w h.1) fun _ => hrest _ h.2
    | _ =>
      cases vs with
      | nil =>
        rw [Engine.assignAll]
        · exact pure _
        all_goals simp
      | cons w vs =>
        rw [Engine.assignAll]
        · exact bind (htarget w h.1) fun _ => hrest vs h.2
        · simp

end

/-- Giving the same value to several targets. -/
theorem assignEach {targets : List Script.Expr} (w : Value) (h : ∀ n ∈ Script.placeReadsAll targets, N n) :
    Scoped e N (targets.forM fun target => Engine.assign e target w) := by
  induction targets with
  | nil => exact pure _
  | cons target targets ih =>
    rw [Script.placeReadsAll, List.forall_mem_append] at h
    exact bind (assign target w h.1) fun _ => ih h.2

/-- An operator that changes a list, set or mapping. -/
theorem augmented (op : Script.BinaryOp) (old w : Value) : Scoped e N (Engine.augmented e op old w) := by
  have hchanged : ∀ new : Value, Scoped e N (do
      Engine.changeTo new
      return new) := fun new => bind (changeTo new) fun _ => pure new
  refine bind (now old) fun old => bind (now w) fun w => ?_
  split
  · exact bind (run (Stepwise.valuesOf _)) fun _ => hchanged _
  · refine bind shown fun _ => bind (lift _) fun new => ?_
    split
    · exact hchanged _
    · exact pure _
  · exact hchanged _
  · exact hchanged _
  · refine bind (run (Stepwise.entriesInto _ _)) fun r => ?_
    split
    · exact hchanged _
    · exact bind (changeTo _) fun _ => raise _
  · exact operate _ _ _ _

/-! ## Loops -/

theorem overStream {step : Value → Eval Control} (h : ∀ w, Scoped e N (step w)) (id count : Nat) :
    Scoped e N (Engine.overStream step id count) := by
  induction count with
  | zero => exact raise _
  | succ count ih =>
    refine bind (run (Stepwise.next? id)) fun w => ?_
    cases w with
    | none => exact pure _
    | some w =>
      refine bind (h w) fun control => ?_
      cases control with
      | leave => exact pure _
      | next => exact ih
      | again => exact ih

theorem overEach {step : Value → Eval Control} (h : ∀ w, Scoped e N (step w)) (w : Value) :
    Scoped e N (Engine.overEach step w) :=
  bind (run (Stepwise.streamOf w)) fun _ => bind (run (Stepwise.left _)) fun _ => overStream h _ _

theorem whileHolds {test : Eval Bool} {step : Eval Control} (ht : Scoped e N test) (hs : Scoped e N step) (rounds : Nat) :
    Scoped e N (Engine.whileHolds test step rounds) := by
  induction rounds with
  | zero => exact raise _
  | succ rounds ih =>
    refine bind ht fun t => ?_
    split
    · exact pure _
    · refine bind hs fun control => ?_
      cases control with
      | leave => exact pure _
      | next => exact ih
      | again => exact ih

/-! ## Statements -/

mutual

/-- A statement is composed of elementary steps, binding names, and looking up the names that it reads. -/
theorem exec : (s : Script.Statement) → (∀ n ∈ s.reads, N n) → Scoped e N (Engine.exec e s)
  | .eval a, h => by
    rw [Engine.exec]
    exact bind (eval a h) fun _ => pure _
  | .assign targets a, h => by
    rw [Script.Statement.reads, List.forall_mem_append] at h
    rw [Engine.exec]
    exact bind (eval a h.2) fun w => bind (assignEach w h.1) fun _ => pure _
  | .augment target op a, h => by
    rw [Script.Statement.reads, List.forall_mem_append] at h
    have hbehind : ∀ place : Engine.Place, (∀ s, place = .name s → N s) → Scoped e N (do
        let old ← e.read place
        Engine.write place (← Engine.augmented e op old (← Engine.eval e a))
        return Control.next) := fun place hplace =>
      bind (read hplace) fun _ => bind (eval a h.2) fun _ => bind (augmented op _ _) fun _ =>
        bind (write place _) fun _ => pure _
    rw [Engine.exec]
    refine placeOf_bind (fun n hn => h.1 n (target.placeReads_subset hn)) (fun s hs => hbehind _ ?_) fun place hplace =>
      hbehind place fun s hs => absurd hs (hplace s)
    rintro _ ⟨⟩
    exact h.1 s (by simp [hs, Script.Expr.reads])
  | .declare target note none, h => by
    rw [Engine.exec]
    exact pure _
  | .declare target note (some a), h => by
    rw [Script.Statement.reads, List.forall_mem_append] at h
    rw [Engine.exec]
    exact bind (eval a h.2) fun w => bind (assign target w h.1) fun _ => pure _
  | .branch test body orelse, h => by
    rw [Script.Statement.reads, List.forall_mem_append, List.forall_mem_append] at h
    rw [Engine.exec]
    refine bind (eval test h.1) fun w => bind (truth w) fun t => ?_
    split
    · exact execAll body h.2.1
    · exact execAll orelse h.2.2
  | .whileLoop test body orelse, h => by
    rw [Script.Statement.reads, List.forall_mem_append, List.forall_mem_append] at h
    rw [Engine.exec]
    refine bind (whileHolds (bind (eval test h.1) fun w => truth w) (execAll body h.2.1) _) fun finished => ?_
    split
    · exact execAll orelse h.2.2
    · exact pure _
  | .forLoop target source body orelse, h => by
    rw [Script.Statement.reads, List.forall_mem_append, List.forall_mem_append, List.forall_mem_append] at h
    rw [Engine.exec]
    refine bind (eval source h.2.1) fun source => bind (overEach (fun w => ?_) source) fun finished => ?_
    · exact bind (assign target w h.1) fun _ => execAll body h.2.2.1
    · split
      · exact execAll orelse h.2.2.2
      · exact pure _
  | .pass, _ => by
    rw [Engine.exec]
    exact pure _
  | .outer names, _ => by
    rw [Engine.exec]
    exact pure _
  | .breakLoop, _ => by
    rw [Engine.exec]
    exact pure _
  | .continueLoop, _ => by
    rw [Engine.exec]
    exact pure _
  | .finish _, _ => by
    rw [Engine.exec]
    exact raise _
  | .simple _, _ => by
    rw [Engine.exec]
    exact raise _
  | .block .., _ => by
    rw [Engine.exec]
    exact raise _
  | .blocks _, _ => by
    rw [Engine.exec]
    exact raise _
  | .definition .., _ => by
    rw [Engine.exec]
    exact raise _

/-- A program is composed of elementary steps, binding names, and looking up the names that it reads. -/
theorem execAll : (program : List Script.Located) → (∀ n ∈ Script.bodyReads program, N n) →
    Scoped e N (Engine.execAll e program)
  | [], _ => by
    rw [Engine.execAll]
    exact pure _
  | (_, s) :: rest, h => by
    rw [Script.bodyReads, List.forall_mem_append] at h
    rw [Engine.execAll]
    refine bind (exec s h.1) fun control => ?_
    cases control with
    | next => exact execAll rest h.2
    | leave => exact pure _
    | again => exact pure _

end

end Scoped

/-- Running a program over its data is composed of elementary steps. -/
theorem Run.Stepwise.runProgram {v : View} {inner : Inner} (program : List Script.Located)
    (data : List (Value × Value)) : Stepwise v inner (runProgram v inner program data) :=
  .bind ((Scoped.execAll (e := ⟨v, inner⟩) (N := fun _ => True) program fun _ _ => trivial).stepwise (scopeOf data))
    fun _ => .pure _

end Stencil
