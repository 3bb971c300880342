import Stencil.Proofs.Step
import Stencil.View.Evaluate

/-!
# Layers of a page

While a page is rendered, templates, components and pages run inside each other.  Each is a layer around what runs inside
it, and looks at the errors that come out: a template tells its name with a fault, a component puts a fragment in its
place unless the error is one of compiling or of components, and a page raises what it must and shows its error fragment
for the rest.

* `Layer` — a template, a component or a page that runs.
* `Layer.lets` — the error that leaves a layer when one comes out of what runs inside.
* `Guards` — where the layers catch errors, and what they do then; `Guards.error` and `Guards.lets_eq_some` say that they
  let out just those errors.
* `Guarded` — all the places where errors are caught.
-/

namespace Stencil

/-- Errors of compiling and of components are for the whole page: no component puts a fragment in their place. -/
def Error.isForPage : Error → Bool
  | .compile _ | .component .. => true
  | _ => false

/-- An error of compiling. -/
def Error.isCompile : Error → Bool
  | .compile _ => true
  | _ => false

theorem Error.isForPage_of_isCompile {e : Error} (h : e.isCompile = true) : e.isForPage = true := by
  cases e <;> first | rfl | cases h

theorem Error.not_isCompile_of_not_isForPage {e : Error} (h : e.isForPage = false) : e.isCompile = false := by
  cases e <;> first | rfl | cases h

/-- Naming a template leaves errors of the engine as they are, and turns faults into such. -/
@[simp] theorem Error.inTemplate_inTemplate (e : Error) (name name' : Text) :
    (e.inTemplate name).inTemplate name' = e.inTemplate name := by
  cases e <;> rfl

@[simp] theorem Error.isForPage_inTemplate (e : Error) (name : Text) : (e.inTemplate name).isForPage = e.isForPage := by
  cases e <;> rfl

@[simp] theorem Error.isCompile_inTemplate (e : Error) (name : Text) : (e.inTemplate name).isCompile = e.isCompile := by
  cases e <;> rfl

theorem Error.inTemplate_of_isForPage {e : Error} (h : e.isForPage = true) (name : Text) : e.inTemplate name = e := by
  cases e <;> first | rfl | cases h

namespace Run

/-- What runs around something: a template, a component or a page. -/
inductive Layer where
  | template (name : Text)
  | component (id : Nat)
  | page
  deriving DecidableEq

/-- The error that leaves a layer when an error comes out of what runs inside, if one does. -/
def Layer.lets (v : View) : Layer → Error → Option Error
  | template name, e => some (e.inTemplate name)
  | component _, e => if e.isForPage then some e else none
  | page, e => if e.isCompile || v.config.debug then some e else none

/-! ## Where errors are caught -/

variable {v : View} {inner : Inner} {α : Type} {e : Error} {s : State}

/-- The text of a component, before errors are looked at. -/
def componentText (inner : Inner) (id : Nat) : Run Value := do
  if (← component id).view.isEmpty then compose inner id else renderTemplate inner id

/-- What is done with an error inside a component. -/
def componentFailed (v : View) (id : Nat) : Error → Run Value
  | .compile e => throw (.compile e)
  | .component name detail => throw (.component name detail)
  | e => do
    let c ← component id
    report .error ("Component rendering error in " ++ c.cls.name ++ ": " ++ e.message) true
    return .str (failureFragment (showsErrors v c) e.message)

theorem renderComponent_eq (v : View) (inner : Inner) (id : Nat) :
    renderComponent v inner id = tryCatch (componentText inner id) (componentFailed v id) := rfl

/-- What is done with an error on a page. -/
def pageFailed (v : View) (name : Value) (e : Error) : Run Text := do
  reset
  match e with
  | .compile c => throw (.compile c)
  | e =>
    if v.config.debug then throw e
    report .error ("Failed to render " ++ (← nameText name) ++ ": " ++ e.message) true
    return v.config.errorFragment

theorem renderPage_eq (v : View) (inner : Inner) (name data : Value) :
    renderPage v inner name data = reset >>= fun _ => tryCatch (pageText v inner name data) (pageFailed v name) := rfl

/-- What is done with an error inside a template. -/
def templateFailed (name : Text) (captures loops : Nat) (e : Error) : Run α := do
  modifyPass fun p =>
    { p with captures := outer captures p.captures, loops := outer loops p.loops, nesting := p.nesting - 1 }
  throw (e.inTemplate name)

theorem framed_eq (name : Text) (captures loops : Nat) (act : Run α) :
    framed name captures loops act = (do
      modifyPass fun p => { p with nesting := p.nesting + 1 }
      let a ← tryCatch act (templateFailed name captures loops)
      modifyPass fun p => { p with nesting := p.nesting - 1 }
      return a) := rfl

/-- Where a layer catches the errors of what runs inside it, and what it does with them. -/
inductive Guards (v : View) : Layer → {α : Type} → Run α → (Error → Run α) → Prop
  | template {α : Type} (name : Text) (captures loops : Nat) (act : Run α) :
    Guards v (.template name) act (templateFailed name captures loops)
  | component (inner : Inner) (id : Nat) : Guards v (.component id) (componentText inner id) (componentFailed v id)
  | page (inner : Inner) (name data : Value) : Guards v .page (pageText v inner name data) (pageFailed v name)

/-- Where errors are caught: in layers, and where a component is constructed. -/
inductive Guarded (v : View) : {α : Type} → Run α → (Error → Run α) → Prop
  | layer {α : Type} {l : Layer} {x : Run α} {h : Error → Run α} : Guards v l x h → Guarded v x h
  | construction (name : Text) (cls : ComponentClass) (args : List Value) (named : Table Value) :
    Guarded v (construct cls args named) fun e => throw (ComponentRegistry.constructionError name cls e)

/-! ## What the handlers do -/

/-- A component lets errors for the page through, and puts a fragment in the place of all others. -/
theorem runFrom_componentFailed (v : View) (id : Nat) (e : Error) (s : State) :
    (e.isForPage = true → runFrom (componentFailed v id e) s = (.error e, s)) ∧
    (e.isForPage = false → ∃ t, runFrom (componentFailed v id e) s =
      (.ok (.str (failureFragment (showsErrors v (s.component id)) e.message)), t)) := by
  cases e with
  | compile c => exact ⟨fun _ => rfl, fun h => (by cases h)⟩
  | component name detail => exact ⟨fun _ => rfl, fun h => (by cases h)⟩
  | _ => exact ⟨fun h => (by cases h), fun _ => ⟨_, rfl⟩⟩

/-- A page raises errors of compiling, and all others while debugging; it shows its error fragment for the rest. -/
theorem runFrom_pageFailed (v : View) (name : Value) (e : Error) (s : State) :
    ((e.isCompile || v.config.debug) = true → ∃ t, runFrom (pageFailed v name e) s = (.error e, t)) ∧
    ((e.isCompile || v.config.debug) = false →
      ∃ t, runFrom (pageFailed v name e) s = (.ok v.config.errorFragment, t)) := by
  cases hd : v.config.debug with
  | true =>
    refine ⟨fun _ => ⟨{ s with pass := {} }, ?_⟩, fun h => (by simp at h)⟩
    unfold pageFailed
    rw [hd]
    cases e <;> rfl
  | false =>
    unfold pageFailed
    rw [hd]
    cases e with
    | compile c => exact ⟨fun _ => ⟨_, rfl⟩, fun h => (by cases h)⟩
    | _ => exact ⟨fun h => (by cases h), fun _ => ⟨_, rfl⟩⟩

/-- An error that a layer lets out leaves it. -/
theorem Guards.error {l : Layer} {x : Run α} {h : Error → Run α} (hg : Guards v l x h) {e' : Error}
    (hl : l.lets v e = some e') (s : State) : ∃ t, runFrom (h e) s = (.error e', t) := by
  cases hg with
  | template name captures loops act =>
    obtain rfl := Option.some.inj hl
    exact ⟨_, rfl⟩
  | component inner id =>
    obtain ⟨hpage, hsame⟩ := Option.ite_none_right_eq_some.mp hl
    obtain rfl := Option.some.inj hsame
    exact ⟨s, (runFrom_componentFailed v id e s).1 hpage⟩
  | page inner name data =>
    obtain ⟨hraised, hsame⟩ := Option.ite_none_right_eq_some.mp hl
    obtain rfl := Option.some.inj hsame
    exact (runFrom_pageFailed v name e s).1 hraised

/-- A handler ends only with the error that its layer lets out. -/
theorem Guards.lets_eq_some {l : Layer} {x : Run α} {h : Error → Run α} (hg : Guards v l x h) {e' : Error} {t : State}
    (hh : runFrom (h e) s = (.error e', t)) : l.lets v e = some e' := by
  cases hl : l.lets v e with
  | some e₁ =>
    obtain ⟨t', ht'⟩ := hg.error hl s
    rw [hh] at ht'
    obtain ⟨hsame, -⟩ := Prod.mk.inj ht'
    exact congrArg some (Except.error.inj hsame).symm
  | none =>
    have hends : ∃ a t', runFrom (h e) s = (.ok a, t') := by
      cases hg with
      | template name captures loops act => cases hl
      | component inner id =>
        have hpage : e.isForPage = false := by simpa [Layer.lets] using hl
        obtain ⟨t', ht'⟩ := (runFrom_componentFailed v id e s).2 hpage
        exact ⟨_, t', ht'⟩
      | page inner name data =>
        have hshown : (e.isCompile || v.config.debug) = false := by simpa [Layer.lets] using hl
        obtain ⟨t', ht'⟩ := (runFrom_pageFailed v name e s).2 hshown
        exact ⟨_, t', ht'⟩
    obtain ⟨a, t', ht'⟩ := hends
    rw [hh] at ht'
    cases ht'

end Run
end Stencil
