import Stencil.Proofs.View.Layer

/-!
# What a program of a template can do

Whatever a program asks of the engine is put together from few elementary steps: looking at the state, changing what no
other template sees, reporting, printing, opening and closing captures, beginning a new page, working on the store, and
evaluating templates and components inside.  What all of these keep is kept by every program.

* `State.core` — what only some of the elementary steps change: disk, compiler's memory, open captures and nesting.
* `Elementary` — the elementary steps of a view, given how templates and components inside are evaluated.
* `Stepwise`, `Calm` — a step of rendering is composed of elementary ones, and catches errors only in layers and where a
  component is constructed; a calm one leaves captures, the page and the store to what it evaluates inside.

Here this is shown of what lives on while a page is rendered, of captures and of loops.
-/

namespace Stencil

/-- What only some of the elementary steps change. -/
def State.core (s : State) : Disk × Compiler.Memory × List Capture × Int :=
  (s.disk, s.memory, s.pass.captures, s.pass.nesting)

namespace Run

/-- The elementary steps of the programs of a view; those that touch captures, the page or the store only if `free`. -/
inductive Elementary (v : View) (inner : Inner) (free : Prop) : {α : Type} → Run α → Prop
  | look : Elementary v inner free (get : Run State)
  | beside {α : Type} (f : State → α × State) (h : ∀ s, (f s).2.core = s.core) :
    Elementary v inner free (modifyGet f : Run α)
  | report (level : Level) (message : Text) (traced : Bool) : Elementary v inner free (report level message traced)
  | print (h : free) (s : Text) : Elementary v inner free (print s)
  | openCapture (h : free) (kind : CaptureKind) (name : Value) (component : Option Nat) (hk : kind ≠ .template) :
    Elementary v inner free (openCapture kind name component)
  | closeCapture (h : free) (kind : CaptureKind) (directive : Text) (hk : kind ≠ .template) :
    Elementary v inner free (closeCapture kind directive)
  | takeComponent (h : free) : Elementary v inner free takeComponent
  | reset (h : free) : Elementary v inner free reset
  | compile (h : free) (name : Text) : Elementary v inner free (compileTemplate v name)
  | clear (h : free) : Elementary v inner free (clearStore v)
  | forget (h : free) (name : Text) : Elementary v inner free (work (v.store.forget name))
  | purge (h : free) (age : Age) : Elementary v inner free (work (v.store.purge age))
  | size (h : free) : Elementary v inner free (work v.store.size)
  | evaluate (name : Text) (data : List (Value × Value)) : Elementary v inner free (inner.evaluate name data)
  | render (id : Nat) : Elementary v inner free (inner.render id)

/-- A step of rendering is composed of elementary ones, and calm unless `free`. -/
abbrev Steps (v : View) (inner : Inner) (free : Prop) {α : Type} (act : Run α) : Prop :=
  Composed (Elementary v inner free) (Guarded v) act

/-- A step of rendering is composed of elementary ones. -/
abbrev Stepwise (v : View) (inner : Inner) {α : Type} (act : Run α) : Prop := Steps v inner True act

/-- A step of rendering that touches captures, the page and the store only by what it evaluates inside. -/
abbrev Calm (v : View) (inner : Inner) {α : Type} (act : Run α) : Prop := Steps v inner False act

namespace Stepwise

variable {v : View} {inner : Inner} {free : Prop} {α : Type}

/-! ## What lives on while a page is rendered -/

theorem get : Steps v inner free (MonadState.get : Run State) := .elementary .look

theorem modifyGet {f : State → α × State} (h : ∀ s, (f s).2.core = s.core) : Steps v inner free (modifyGet f : Run α) :=
  .elementary (.beside f h)

theorem modify {f : State → State} (h : ∀ s, (f s).core = s.core) : Steps v inner free (modify f : Run PUnit) :=
  modifyGet (f := fun s => (PUnit.unit, f s)) h

theorem modifyPass {f : Pass → Pass} (hc : ∀ p, (f p).captures = p.captures) (hn : ∀ p, (f p).nesting = p.nesting) :
    Steps v inner free (modifyPass f) :=
  modify fun s => by simp only [State.core, hc, hn]

theorem report (level : Level) (message : Text) (traced : Bool) : Steps v inner free (report level message traced) :=
  .elementary (.report level message traced)

theorem raise (f : Fault) : Steps v inner free (raise f : Run α) := .throw _

theorem lift (r : Except Fault α) : Steps v inner free (lift r) := by
  cases r with
  | error f => exact raise f
  | ok a => exact .pure a

/-- A step behind a test that may fail. -/
theorem behind {c : Prop} [Decidable c] {test : Run Unit} {rest : Run α} (ht : Steps v inner free test)
    (hr : Steps v inner free rest) : Steps v inner free (if c then test >>= fun _ => rest else rest) := by
  split
  · exact .bind ht fun _ => hr
  · exact hr

theorem pass : Steps v inner free Run.pass := get.bind fun _ => .pure _

theorem addFrame (f : Frame) : Steps v inner free (addFrame f) :=
  get.bind fun _ => .bind (modify fun _ => rfl) fun _ => .pure _

theorem addComponent (c : Component) : Steps v inner free (addComponent c) :=
  get.bind fun _ => .bind (modify fun _ => rfl) fun _ => .pure _

theorem addStream (st : Stream) : Steps v inner free (addStream st) :=
  get.bind fun _ => .bind (modify fun _ => rfl) fun _ => .pure _

theorem component (id : Nat) : Steps v inner free (component id) := get.bind fun _ => .pure _

theorem modifyComponent (id : Nat) (f : Component → Component) : Steps v inner free (modifyComponent id f) :=
  modify fun _ => rfl

theorem changeTo (who : Identity) (w : Value) : Steps v inner free (changeTo who w) := modify fun _ => rfl

theorem setBag (id : Nat) (bag : Bag) : Steps v inner free (setBag id bag) := by
  refine .bind (modifyComponent id _) fun _ => ?_
  cases bag.who with
  | none => exact .pure _
  | some who => exact changeTo who _

theorem modifyBag (id : Nat) (f : Bag → Except Fault Bag) : Steps v inner free (modifyBag id f) :=
  .bind (component id) fun _ => .bind (lift _) fun bag => setBag id bag

theorem settle (w : Value) : Steps v inner free (settle w) := by
  unfold Run.settle
  split
  · exact .pure w
  · exact modifyGet fun _ => rfl

theorem now (w : Value) : Steps v inner free (now w) := get.bind fun _ => .pure _

theorem nameText (name : Value) : Steps v inner free (nameText name) := get.bind fun _ => .pure _

/-! ## Captures, sections, pushes and slots -/

theorem print (s : Text) : Stepwise v inner (print s) := .elementary (.print trivial s)

theorem openCapture {kind : CaptureKind} (h : kind ≠ .template) (name : Value) (component : Option Nat) :
    Stepwise v inner (openCapture kind name component) := .elementary (.openCapture trivial kind name component h)

theorem closeCapture {kind : CaptureKind} (h : kind ≠ .template) (directive : Text) :
    Stepwise v inner (closeCapture kind directive) := .elementary (.closeCapture trivial kind directive h)

/-- Changing sections and pushes leaves the captures alone. -/
theorem define (name : Value) (content : Text) : Steps v inner free (define name content) := by
  refine .bind (lift _) fun _ => modifyPass (fun p => ?_) fun p => ?_ <;>
  · unfold Pass.define
    split
    · rfl
    · split <;> rfl

theorem openSection (name : Value) : Stepwise v inner (openSection name) := by
  refine .bind pass fun p => ?_
  split
  · exact .bind (nameText _) fun _ => .bind (nameText _) fun _ => .throw _
  · exact openCapture (by decide) name none

theorem closeSection : Stepwise v inner closeSection := by
  refine .bind (closeCapture (by decide) _) fun c => ?_
  cases c with
  | none => exact .pure _
  | some c => exact define c.name c.text

theorem sectionText? (name : Value) : Steps v inner free (sectionText? name) :=
  .bind (lift _) fun _ => .bind pass fun _ => .pure _

theorem closePush : Stepwise v inner closePush := by
  refine .bind (closeCapture (by decide) _) fun c => ?_
  cases c with
  | none => exact .pure _
  | some c => exact .bind (lift _) fun _ => modifyPass (fun _ => rfl) fun _ => rfl

theorem pushText (name : Value) : Steps v inner free (pushText name) :=
  .bind (lift _) fun _ => .bind pass fun _ => .pure _

theorem openSlot (name : Value) : Stepwise v inner (openSlot name) := by
  refine .bind pass fun p => ?_
  dsimp only
  split
  · exact .bind (nameText name) fun _ => .bind (report ..) fun _ => openCapture (by decide) name _
  · exact openCapture (by decide) name _

theorem closeSlot : Stepwise v inner closeSlot := by
  refine .bind (closeCapture (by decide) _) fun c => ?_
  split
  · exact modifyBag _ _
  · exact .pure _

/-! ## Loops -/

theorem next? (id : Nat) : Steps v inner free (next? id) := by
  refine .bind get fun s => ?_
  cases s.streams[id]? with
  | none => exact .pure _
  | some st =>
    refine .bind get fun s => .bind (lift _) fun rest => ?_
    cases rest.next? with
    | none => exact .bind (modify fun _ => rfl) fun _ => .pure _
    | some next =>
      refine .bind (modify fun _ => rfl) fun _ => ?_
      cases st.frame with
      | none => exact .bind (now _) fun _ => .pure _
      | some n => exact .bind (modify fun _ => rfl) fun _ => .bind (now _) fun _ => .pure _

theorem drain (id count : Nat) : Steps v inner free (drain id count) := by
  induction count with
  | zero => exact .pure _
  | succ count ih =>
    refine .bind (next? id) fun w => ?_
    cases w with
    | none => exact .pure _
    | some w => exact .bind ih fun _ => .pure _

theorem left (id : Nat) : Steps v inner free (left id) := by
  refine .bind get fun s => ?_
  split <;> exact .pure _

theorem valuesOf (w : Value) : Steps v inner free (valuesOf w) := by
  refine .bind (now w) fun w => ?_
  split
  · exact .bind (left _) fun _ => drain _ _
  · split
    · exact .pure _
    · exact raise _

theorem pendingOf (w : Value) : Steps v inner free (pendingOf w) := by
  unfold Run.pendingOf
  split
  · exact .pure _
  · exact .bind (valuesOf _) fun _ => .pure _

theorem streamOf (w : Value) : Steps v inner free (streamOf w) := by
  refine .bind (now w) fun w => ?_
  split
  · exact .pure _
  · exact .bind (pendingOf _) fun _ => addStream _

theorem streamed (name : Text) (vs : List Value) : Steps v inner free (streamed name vs) :=
  .bind (addStream _) fun _ => .pure _

theorem openLoop (w : Value) : Steps v inner free (openLoop w) := by
  refine .bind (now w) fun w => .bind (pendingOf w) fun rest => ?_
  have hbehind : ∀ (source : Option Value) (count : Nat), Steps v inner free (do
      let loops := (← Run.pass).loops
      let frame ← Run.addFrame { count, depth := loops.length + 1, parent := loops.head? }
      Run.modifyPass fun p => { p with loops := frame :: p.loops }
      return Value.stream (← Run.addStream { rest, source, frame := some frame }) "generator") := by
    intro source count
    refine .bind pass fun p => .bind (addFrame _) fun frame => ?_
    exact .bind (modifyPass (fun _ => rfl) fun _ => rfl) fun _ => .bind (addStream _) fun _ => .pure _
  dsimp only
  split
  · exact .bind (lift _) (hbehind _)
  · exact .bind (.pure _) (hbehind _)

theorem closeLoop : Steps v inner free closeLoop := modifyPass (fun _ => rfl) fun _ => rfl

theorem lastLoop : Steps v inner free lastLoop := .bind pass fun _ => .pure _

theorem entriesInto (entries : List (Value × Value)) (w : Value) : Steps v inner free (entriesInto entries w) := by
  refine .bind (now w) fun w => ?_
  split
  · exact .pure _
  · exact .bind (valuesOf _) fun _ => .pure _

theorem entriesFrom (w : Value) : Steps v inner free (entriesFrom w) := by
  refine .bind (entriesInto [] w) fun r => ?_
  split
  · exact .pure _
  · exact raise _

theorem entriesOrNone (w : Value) : Steps v inner free (entriesOrNone w) := by
  refine .bind (now w) fun w => ?_
  split
  · exact entriesFrom w
  · exact .pure _

end Stepwise
end Run
end Stencil
