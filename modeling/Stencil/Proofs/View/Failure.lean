import Stencil.Proofs.View.Frame

/-!
# Where errors go

An error that is raised while a page is rendered goes outwards through the layers around it, until one of them absorbs it
or the page ends with it.

* `Within` — a step runs within the run of another one, inside layers; what comes behind it is known.
* `Within.error` — an error that all these layers let out is what the outer step ends with.
* `Within.split` — at each of these layers the run of the outer step comes to what the layer guards.
* `exists_raise` — every error of a step that is composed of elementary ones is raised in a basic one within it.
* `error_routed` — where the errors go that are raised on a page.
* `construction_unabsorbed` — a wrong type in the making of a component goes where errors of components go.
-/

namespace Stencil

/-- A state in which a new pass begins. -/
def State.fresh (s : State) : State := { s with pass := {} }

namespace Run

/-! ## Steps within steps -/

/-- How a step ends: its result, and the state behind it. -/
abbrev Ending (α : Type) := Except Error α × State

/-- How a sequence ends, given how its first part does. -/
def goOn {α β : Type} (f : α → Run β) : Ending α → Ending β
  | (.ok a, t) => runFrom (f a) t
  | (.error e, t) => (.error e, t)

/-- How a step with a handler for errors ends, given how it does without. -/
def handled {α : Type} (h : Error → Run α) : Ending α → Ending α
  | (.ok a, t) => (.ok a, t)
  | (.error e, t) => runFrom (h e) t

theorem runFrom_bind_goOn {α β : Type} (x : Run α) (f : α → Run β) (s : State) :
    runFrom (x >>= f) s = goOn f (runFrom x s) := by
  rw [runFrom_bind]
  rcases runFrom x s with ⟨e | a, t⟩ <;> rfl

theorem runFrom_tryCatch_handled {α : Type} (x : Run α) (h : Error → Run α) (s : State) :
    runFrom (tryCatch x h) s = handled h (runFrom x s) := by
  rw [runFrom_tryCatch]
  rcases runFrom x s with ⟨e | a, t⟩ <;> rfl

/-- A step `y` runs from the state `t` within the run of another step from its state, inside layers that are listed
innermost first.  How the outer step ends is a function of how `y` does. -/
inductive Within (v : View) {β : Type} (y : Run β) (t : State) :
    {α : Type} → Run α → State → List Layer → (Ending β → Ending α) → Prop
  | here : Within v y t y t [] id
  | first {α γ : Type} {x : Run γ} {f : γ → Run α} {s : State} {layers : List Layer} {after : Ending β → Ending γ} :
    Within v y t x s layers after → Within v y t (x >>= f) s layers fun r => goOn f (after r)
  | behind {α γ : Type} {x : Run γ} {f : γ → Run α} {s u : State} {a : γ} {layers : List Layer}
    {after : Ending β → Ending α} : runFrom x s = (.ok a, u) → Within v y t (f a) u layers after →
    Within v y t (x >>= f) s layers after
  | inside {α : Type} {l : Layer} {x : Run α} {h : Error → Run α} {s : State} {layers : List Layer}
    {after : Ending β → Ending α} : Guards v l x h → Within v y t x s layers after →
    Within v y t (tryCatch x h) s (layers ++ [l]) fun r => handled h (after r)

/-- The error that leaves layers, listed innermost first, when an error is raised inside them, if one does. -/
def letsAll (v : View) : List Layer → Error → Option Error
  | [], e => some e
  | l :: layers, e => (l.lets v e).bind (letsAll v layers)

section Within

variable {v : View} {α β : Type} {y : Run β} {act : Run α} {s t u : State} {layers inside outside : List Layer}
  {after : Ending β → Ending α} {e e' : Error}

theorem letsAll_append (v : View) (inside outside : List Layer) (e : Error) :
    letsAll v (inside ++ outside) e = (letsAll v inside e).bind (letsAll v outside) := by
  induction inside generalizing e with
  | nil => rfl
  | cons l inside ih =>
    rw [List.cons_append, letsAll, letsAll]
    cases hl : l.lets v e with
    | none => rfl
    | some e' => exact ih e'

/-- The outer step ends as what is behind the inner one makes of its end. -/
theorem Within.after_eq (h : Within v y t act s layers after) : runFrom act s = after (runFrom y t) := by
  induction h with
  | here => rfl
  | first _ ih => rw [runFrom_bind_goOn, ih]
  | behind hx _ ih => rw [runFrom_bind_ok hx, ih]
  | inside _ _ ih => rw [runFrom_tryCatch_handled, ih]

/-- An error that all layers around it let out is what the outer step ends with. -/
theorem Within.error (h : Within v y t act s layers after) (hy : runFrom y t = (.error e, u))
    (hl : letsAll v layers e = some e') : ∃ w, runFrom act s = (.error e', w) := by
  induction h generalizing e' with
  | here =>
    obtain rfl := Option.some.inj hl
    exact ⟨u, hy⟩
  | first _ ih =>
    obtain ⟨w, hx⟩ := ih hl
    exact ⟨w, runFrom_bind_error hx _⟩
  | behind hx _ ih =>
    obtain ⟨w, hrest⟩ := ih hl
    exact ⟨w, by rw [runFrom_bind_ok hx, hrest]⟩
  | inside hg _ ih =>
    rw [letsAll_append] at hl
    obtain ⟨e₁, hinner, hlayer⟩ := Option.bind_eq_some_iff.mp hl
    obtain ⟨e₂, hlets, hsame⟩ := Option.bind_eq_some_iff.mp hlayer
    obtain rfl := Option.some.inj hsame
    obtain ⟨w, hx⟩ := ih hinner
    obtain ⟨w', hh⟩ := hg.error hlets w
    refine ⟨w', ?_⟩
    rw [runFrom_tryCatch_handled, hx]
    exact hh

/-- At each layer the run of the outer step comes to what the layer guards, and from there to the inner step. -/
theorem Within.split {l : Layer} (h : Within v y t act s (inside ++ l :: outside) after) :
    ∃ (γ : Type) (x : Run γ) (handler : Error → Run γ) (s' : State) (before : Ending β → Ending γ)
      (behind : Ending γ → Ending α), Guards v l x handler ∧ Within v y t x s' inside before ∧
      Within v (tryCatch x handler) s' act s outside behind := by
  generalize hlayers : inside ++ l :: outside = layers at h
  induction h generalizing outside with
  | here => simp at hlayers
  | first _ ih =>
    obtain ⟨γ, x, handler, s', before, behind, hg, hinner, houter⟩ := ih hlayers
    exact ⟨γ, x, handler, s', before, _, hg, hinner, .first houter⟩
  | behind hx _ ih =>
    obtain ⟨γ, x, handler, s', before, behind, hg, hinner, houter⟩ := ih hlayers
    exact ⟨γ, x, handler, s', before, _, hg, hinner, .behind hx houter⟩
  | @inside α l' x h s layers after hg hin ih =>
    -- the layer is the outermost one, or it stands around a step further inside
    rcases List.eq_nil_or_concat outside with rfl | ⟨outside, last, rfl⟩
    · obtain ⟨rfl, hl⟩ := List.append_inj' hlayers rfl
      obtain rfl := (List.cons.inj hl).1
      exact ⟨α, x, h, s, after, _, hg, hin, .here⟩
    · rw [List.concat_eq_append, ← List.cons_append, ← List.append_assoc] at hlayers
      obtain ⟨rfl, hl⟩ := List.append_inj' hlayers rfl
      obtain rfl := (List.cons.inj hl).1
      obtain ⟨γ, x', handler, s', before, behind, hg', hinner, houter⟩ := ih rfl
      rw [List.concat_eq_append]
      exact ⟨γ, x', handler, s', before, _, hg', hinner, .inside hg houter⟩

end Within

/-! ## How the layers come about -/

section Rules

variable {v : View} {inner : Inner} {β : Type} {y : Run β} {s t u : State} {layers : List Layer}

theorem Within.exists_behind {α γ : Type} {x : Run γ} {f : γ → Run α} {a : γ} (hx : runFrom x s = (.ok a, u))
    (h : ∃ after, Within v y t (f a) u layers after) : ∃ after, Within v y t (x >>= f) s layers after := by
  obtain ⟨after, hin⟩ := h
  exact ⟨after, .behind hx hin⟩

/-- A template is a layer around its program. -/
theorem Within.enclosed {act : Run Unit} {after : Ending β → Ending Unit} {name : Text}
    (h : Within v y t act (s.begun name) layers after) :
    ∃ after', Within v y t (enclosed name act) s (layers ++ [.template name]) after' := by
  have hframed : Within v y t (framed name s.pass.captures.length s.pass.loops.length act)
      (s.over ({ kind := .template, name := .str name } :: s.pass.captures)) (layers ++ [.template name]) _ :=
    .behind rfl (.first (.inside (.template name _ _ act) h))
  exact ⟨_, .behind rfl (.behind rfl (.first hframed))⟩

/-- A template that is not too deep and can be loaded is evaluated by running its program. -/
theorem Within.evaluate {levels : Nat} {name : Text} {data : List (Value × Value)} {loaded : Loaded}
    {after : Ending β → Ending Unit} (hdepth : s.pass.nesting < v.config.maxDepth)
    (hload : runFrom (load v name) s = (.ok loaded, u))
    (h : Within v y t (runProgram v (innerAt v levels) loaded.program data) (u.begun name) layers after) :
    ∃ after', Within v y t ((innerAt v (levels + 1)).evaluate name data) s (layers ++ [.template name]) after' := by
  have hchecked : runFrom (checkNesting v name) s = (.ok (), s) := by
    unfold checkNesting
    rw [runFrom_bind_ok (runFrom_pass s), if_neg (by omega)]
    rfl
  obtain ⟨after', hprogram⟩ := Within.enclosed h
  exact ⟨after', .behind hchecked (.behind hload hprogram)⟩

/-- A component is a layer around the template that it renders. -/
theorem Within.component {id : Nat} {data : List (Value × Value)} {after : Ending β → Ending Text}
    (hview : (s.component id).view ≠ []) (hattached : (s.component id).attached = true)
    (hdata : runFrom (viewData id) s = (.ok data, u))
    (h : Within v y t (inner.evaluate (s.component id).view data) u layers after) :
    ∃ after', Within v y t (renderComponent v inner id) s (layers ++ [.component id]) after' := by
  have htemplate : ∃ after', Within v y t (renderTemplate inner id) s layers after' := by
    refine exists_behind rfl ?_
    rw [hattached]
    exact ⟨_, .behind hdata (.first h)⟩
  have htext : ∃ after', Within v y t (componentText inner id) s layers after' := by
    refine exists_behind rfl ?_
    rw [if_neg (by simpa using hview)]
    exact htemplate
  obtain ⟨after', hin⟩ := htext
  exact ⟨_, .inside (.component inner id) hin⟩

/-- The text of a page begins with that of its template. -/
theorem Within.page {name : Text} {data : Value} {entries : List (Value × Value)} {after : Ending β → Ending Text}
    (hdata : runFrom (pageData data) s = (.ok entries, u))
    (h : Within v y t (inner.evaluate name entries) u layers after) :
    ∃ after', Within v y t (pageText v inner (.str name) data) s layers after' :=
  ⟨_, .behind hdata (.behind rfl (.first h))⟩

end Rules

/-! ## Where errors are raised -/

/-- The steps in which errors are raised: an elementary step, whatever templates and components inside do, making a
component, and what is done around the program of a template. -/
inductive Basic (v : View) : {α : Type} → Run α → Prop
  | throw {α : Type} (e : Error) : Basic v (throw e : Run α)
  | elementary {α : Type} {act : Run α} (h : ∀ inner, Elementary v inner True act) : Basic v act
  | construction (name : Text) (cls : ComponentClass) (args : List Value) (named : Table Value) :
    Basic v (tryCatch (construct cls args named) fun e => throw (ComponentRegistry.constructionError name cls e))
  | checkNesting (name : Text) : Basic v (checkNesting v name)
  | load (name : Text) : Basic v (load v name)
  | collect (name : Text) (around : Nat) : Basic v (collect name around)

/-- The errors of a step are raised in basic steps within it, and leave the layers in between. -/
def Raises (v : View) {α : Type} (act : Run α) : Prop :=
  ∀ s e w, runFrom act s = (.error e, w) →
    ∃ (β : Type) (y : Run β) (t u : State) (layers : List Layer) (after : Ending β → Ending α) (e₀ : Error),
      Basic v y ∧ Within v y t act s layers after ∧ runFrom y t = (.error e₀, u) ∧ letsAll v layers e₀ = some e

namespace Raises

variable {v : View} {inner : Inner} {α β : Type}

theorem basic {act : Run α} (h : Basic v act) : Raises v act := fun s e w hact =>
  ⟨α, act, s, w, [], id, e, h, .here, hact, rfl⟩

theorem ok {act : Run α} (h : ∀ s, ∃ a t, runFrom act s = (.ok a, t)) : Raises v act := by
  intro s e w hact
  obtain ⟨a, t, ht⟩ := h s
  rw [hact] at ht
  cases ht

theorem bind {x : Run α} {f : α → Run β} (hx : Raises v x) (hf : ∀ a, Raises v (f a)) : Raises v (x >>= f) := by
  intro s e w h
  rw [runFrom_bind] at h
  rcases hr : runFrom x s with ⟨e' | a, t⟩
  · rw [hr] at h
    obtain ⟨hsame, -⟩ := Prod.mk.inj h
    obtain rfl := Except.error.inj hsame
    obtain ⟨γ, y, u, u', layers, after, e₀, hy, hin, hfails, hlets⟩ := hx s _ t hr
    exact ⟨γ, y, u, u', layers, _, e₀, hy, .first hin, hfails, hlets⟩
  · rw [hr] at h
    obtain ⟨γ, y, u, u', layers, after, e₀, hy, hin, hfails, hlets⟩ := hf a t e w h
    exact ⟨γ, y, u, u', layers, after, e₀, hy, .behind hr hin, hfails, hlets⟩

/-- A handler raises no errors of its own. -/
theorem guarded {l : Layer} {x : Run α} {h : Error → Run α} (hg : Guards v l x h) (hx : Raises v x) :
    Raises v (tryCatch x h) := by
  intro s e w hact
  rw [runFrom_tryCatch] at hact
  rcases hr : runFrom x s with ⟨e' | a, t⟩
  · rw [hr] at hact
    obtain ⟨γ, y, u, u', layers, after, e₀, hy, hin, hfails, hlets⟩ := hx s e' t hr
    refine ⟨γ, y, u, u', layers ++ [l], _, e₀, hy, .inside hg hin, hfails, ?_⟩
    rw [letsAll_append, hlets, Option.bind_some, letsAll, hg.lets_eq_some hact]
    rfl
  · rw [hr] at hact
    cases hact

/-- A step that is composed of elementary ones raises errors like the templates and components that it runs. -/
theorem stepwise (he : ∀ name data, Raises v (inner.evaluate name data)) (hr : ∀ id, Raises v (inner.render id))
    {act : Run α} (h : Stepwise v inner act) : Raises v act := by
  induction h with
  | pure a => exact ok fun s => ⟨a, s, rfl⟩
  | throw e => exact basic (.throw e)
  | bind _ _ ihx ihf => exact bind ihx ihf
  | tryCatch hg _ _ ihx _ =>
    cases hg with
    | layer hg => exact guarded hg ihx
    | construction name cls args named => exact basic (.construction name cls args named)
  | elementary h =>
    cases h with
    | evaluate name data => exact he name data
    | render id => exact hr id
    | look => exact basic (.elementary fun _ => .look)
    | beside f hf => exact basic (.elementary fun _ => .beside f hf)
    | report level message traced => exact basic (.elementary fun _ => .report level message traced)
    | print h s => exact basic (.elementary fun _ => .print h s)
    | openCapture h kind name component hk =>
      exact basic (.elementary fun _ => .openCapture h kind name component hk)
    | closeCapture h kind directive hk => exact basic (.elementary fun _ => .closeCapture h kind directive hk)
    | takeComponent h => exact basic (.elementary fun _ => .takeComponent h)
    | reset h => exact basic (.elementary fun _ => .reset h)
    | compile h name => exact basic (.elementary fun _ => .compile h name)
    | clear h => exact basic (.elementary fun _ => .clear h)
    | forget h name => exact basic (.elementary fun _ => .forget h name)
    | purge h age => exact basic (.elementary fun _ => .purge h age)
    | size h => exact basic (.elementary fun _ => .size h)

/-- Running something as a template raises the errors that it raises. -/
theorem enclosed {act : Run Unit} (h : Raises v act) (name : Text) : Raises v (enclosed name act) := by
  refine bind (ok fun s => ⟨_, _, rfl⟩) fun p => bind (ok fun s => ⟨_, _, rfl⟩) fun _ => bind ?_ fun _ => ?_
  · rw [framed_eq]
    refine bind (ok fun s => ⟨_, _, rfl⟩) fun _ => bind ?_ fun _ => ok fun s => ⟨_, _, rfl⟩
    exact guarded (.template name _ _ act) h
  · exact basic (.collect name _)

/-- Errors of templates and components are raised in basic steps, on every level. -/
theorem innerAt (levels : Nat) :
    (∀ name data, Raises v ((innerAt v levels).evaluate name data)) ∧ ∀ id, Raises v ((innerAt v levels).render id) := by
  induction levels with
  | zero => exact ⟨fun _ _ => basic (.throw _), fun _ => basic (.throw _)⟩
  | succ levels ih =>
    refine ⟨fun name data => ?_, fun id => stepwise ih.1 ih.2 (Stepwise.renderComponent id)⟩
    refine bind (basic (.checkNesting name)) fun _ => bind (basic (.load name)) fun loaded => ?_
    exact enclosed (stepwise ih.1 ih.2 (Stepwise.runProgram loaded.program data)) name

end Raises

/-- Whatever a program, a template or a component of a view fails with is raised in a basic step within it. -/
theorem exists_raise {v : View} {levels : Nat} {α : Type} {act : Run α} (h : Stepwise v (innerAt v levels) act) :
    Raises v act :=
  Raises.stepwise (Raises.innerAt levels).1 (Raises.innerAt levels).2 h

/-! ## The way of an error -/

/-- The template that a layer runs. -/
def Layer.template? : Layer → Option Text
  | template name => some name
  | _ => none

/-- What is told of an error that is raised inside layers, listed innermost first: a fault is one of the innermost
template. -/
def told (layers : List Layer) (e : Error) : Error :=
  match layers.findSome? Layer.template? with
  | some name => e.inTemplate name
  | none => e

section Told

variable {v : View} {layers : List Layer} {e : Error}

theorem told_template (name : Text) (layers : List Layer) (e : Error) :
    told (.template name :: layers) e = told layers (e.inTemplate name) := by
  unfold told
  rw [List.findSome?_cons]
  cases layers.findSome? Layer.template? with
  | none => rfl
  | some name' => exact (e.inTemplate_inTemplate name name').symm

theorem isForPage_told (layers : List Layer) (e : Error) : (told layers e).isForPage = e.isForPage := by
  unfold told
  split
  · exact e.isForPage_inTemplate _
  · rfl

theorem isCompile_told (layers : List Layer) (e : Error) : (told layers e).isCompile = e.isCompile := by
  unfold told
  split
  · exact e.isCompile_inTemplate _
  · rfl

/-- Errors for the page leave templates and components as they are. -/
theorem letsAll_of_isForPage (hpage : .page ∉ layers) (he : e.isForPage = true) : letsAll v layers e = some e := by
  induction layers with
  | nil => rfl
  | cons l layers ih =>
    rw [List.mem_cons, not_or] at hpage
    have hlets : l.lets v e = some e := by
      cases l with
      | template name => exact congrArg some (e.inTemplate_of_isForPage he name)
      | component id => exact if_pos he
      | page => exact absurd rfl hpage.1
    rw [letsAll, hlets]
    exact ih hpage.2

/-- All errors leave templates, and the innermost one is named. -/
theorem letsAll_templates (hpage : .page ∉ layers) (hcomponent : ∀ id, .component id ∉ layers) :
    letsAll v layers e = some (told layers e) := by
  induction layers generalizing e with
  | nil => rfl
  | cons l layers ih =>
    rw [List.mem_cons, not_or] at hpage
    cases l with
    | template name =>
      rw [told_template]
      exact ih hpage.2 fun id hid => hcomponent id (List.mem_cons_of_mem _ hid)
    | component id => exact absurd List.mem_cons_self (hcomponent id)
    | page => exact absurd rfl hpage.1

end Told

/-! ## Pages -/

section Page

variable {v : View} {inner : Inner} {name data : Value} {s t u : State} {e : Error} {layers : List Layer}
  {β : Type} {y : Run β} {after : Ending β → Ending Text}

theorem runFrom_renderPage (v : View) (inner : Inner) (name data : Value) (s : State) :
    runFrom (renderPage v inner name data) s =
      handled (pageFailed v name) (runFrom (pageText v inner name data) s.fresh) := by
  have hreset : runFrom reset s = (.ok (), s.fresh) := rfl
  rw [renderPage_eq, runFrom_bind_ok hreset, runFrom_tryCatch_handled]

/-- What a page ends with whose text cannot be made. -/
theorem page_of_error (h : runFrom (pageText v inner name data) s.fresh = (.error e, u)) :
    (runFrom (renderPage v inner name data) s).1 =
      if e.isCompile || v.config.debug then .error e else .ok v.config.errorFragment := by
  rw [runFrom_renderPage, h]
  have hhandler := runFrom_pageFailed v name e u
  by_cases hraised : (e.isCompile || v.config.debug) = true
  · obtain ⟨w, hw⟩ := hhandler.1 hraised
    rw [if_pos hraised]
    exact congrArg Prod.fst hw
  · obtain ⟨w, hw⟩ := hhandler.2 (Bool.eq_false_iff.mpr hraised)
    rw [if_neg hraised]
    exact congrArg Prod.fst hw

/-- The component around an error that is not for the page, and no other component inside, absorbs it. -/
theorem absorbed {γ : Type} {act : Run γ} {after : Ending β → Ending γ} {inside outside : List Layer} {id : Nat}
    (h : Within v y t act s (inside ++ .component id :: outside) after) (hy : runFrom y t = (.error e, u))
    (hpage : .page ∉ inside) (hcomponent : ∀ k, .component k ∉ inside) (he : e.isForPage = false) :
    ∃ (inner : Inner) (s' t' : State) (attached : Bool) (before : Ending β → Ending Value)
      (behind : Ending Value → Ending γ),
      Within v y t (renderComponent v inner id) s' (inside ++ [.component id]) before ∧
      Within v (renderComponent v inner id) s' act s outside behind ∧
      runFrom (renderComponent v inner id) s' =
        (.ok (.str (failureFragment (attached && v.config.debug) (told inside e).message)), t') := by
  obtain ⟨δ, x, handler, s', before, behind, hg, hinside, houtside⟩ := h.split
  cases hg with
  | component inner =>
    obtain ⟨w, htext⟩ := hinside.error hy (letsAll_templates hpage hcomponent)
    have hshown : (told inside e).isForPage = false := by rw [isForPage_told, he]
    obtain ⟨t', ht'⟩ := (runFrom_componentFailed v id (told inside e) w).2 hshown
    refine ⟨inner, s', t', (w.component id).attached, _, behind, .inside (.component inner id) hinside, houtside, ?_⟩
    rw [renderComponent_eq, runFrom_tryCatch_handled, htext]
    exact ht'

/-- **Where errors go.**  Whatever part of a page fails with an error, at any depth of templates and components inside
each other: an error of compiling is what rendering ends with; another one for the page is raised while debugging and
gives way to the error fragment otherwise, and so does any error outside of all components, told as one of the innermost
template if it is a fault; in all other cases the innermost component absorbs the error: its rendering gives the
fragment that tells of the error, and the page goes on as behind a component with that text.  A view renders pages so,
and what it evaluates inside fails only by what some part of it raises (`exists_raise`). -/
theorem error_routed (hwithin : Within v y t (pageText v inner name data) s.fresh layers after)
    (hpage : .page ∉ layers) (hfails : runFrom y t = (.error e, u)) :
    let page := (runFrom (renderPage v inner name data) s).1
    (e.isCompile = true → page = .error e) ∧
    (e.isForPage = true → e.isCompile = false → page = if v.config.debug then .error e else .ok v.config.errorFragment) ∧
    (e.isForPage = false →
      ((∀ id, .component id ∉ layers) →
        page = if v.config.debug then .error (told layers e) else .ok v.config.errorFragment) ∧
      ∀ inside id outside, layers = inside ++ .component id :: outside → (∀ k, .component k ∉ inside) →
        ∃ (inner' : Inner) (s' t' : State) (attached : Bool) (before : Ending β → Ending Value)
          (behind : Ending Value → Ending Text),
          let fragment := failureFragment (attached && v.config.debug) (told inside e).message
          Within v y t (renderComponent v inner' id) s' (inside ++ [.component id]) before ∧
          Within v (renderComponent v inner' id) s' (pageText v inner name data) s.fresh outside behind ∧
          runFrom (renderComponent v inner' id) s' = (.ok (.str fragment), t') ∧
          runFrom (pageText v inner name data) s.fresh = behind (.ok (.str fragment), t')) := by
  intro page
  have hforPage : e.isForPage = true →
      page = if e.isCompile || v.config.debug then .error e else .ok v.config.errorFragment := by
    intro he
    obtain ⟨w, htext⟩ := hwithin.error hfails (letsAll_of_isForPage hpage he)
    exact page_of_error htext
  refine ⟨?_, ?_, fun he => ⟨?_, ?_⟩⟩
  · intro hcompile
    rw [hforPage (Error.isForPage_of_isCompile hcompile), hcompile]
    rfl
  · intro he hcompile
    rw [hforPage he, hcompile, Bool.false_or]
  · intro hcomponent
    obtain ⟨w, htext⟩ := hwithin.error hfails (letsAll_templates hpage hcomponent)
    have hraised := page_of_error htext
    rw [isCompile_told, Error.not_isCompile_of_not_isForPage he, Bool.false_or] at hraised
    exact hraised
  · intro inside id outside hlayers hcomponent
    rw [hlayers] at hwithin hpage
    have hpageInside : Layer.page ∉ inside := fun h => hpage (List.mem_append_left _ h)
    obtain ⟨inner', s', t', attached, before, behind, hin, hout, hrun⟩ :=
      absorbed hwithin hfails hpageInside hcomponent he
    refine ⟨inner', s', t', attached, before, behind, hin, hout, hrun, ?_⟩
    rw [hout.after_eq, hrun]

end Page

/-! ## A page with a component -/

/-- A view that is debugging. -/
def debugView : View := { plainView with config := { plainView.config with debug := true } }

/-- A state with one component. -/
def cardState : State where
  disk := { files := {} }
  components := #[{ cls := .anonymous "components.card", attached := true }]

/-- Every template does the same. -/
def always (act : Run Unit) : Inner := ⟨fun name _ => enclosed name act, fun _ => raise .tooDeep⟩

/-- Every template shows the component, whose template does something. -/
def showing (v : View) (act : Run Unit) : Inner :=
  always (renderComponent v (always act) 0 >>= fun w => print (characters w))

/-- What the template of the component begins with runs inside it on the page. -/
theorem within_card (v : View) {γ : Type} (x : Run γ) (f : γ → Run Unit) : ∃ t after, Within v x t
    (pageText v (showing v (x >>= f)) (.str "page") .null) cardState.fresh
    [.template "components.card", .component 0, .template "page"] after := by
  let s : State := { cardState with births := 1 }
  have hcard : ∃ t after, Within v x t (renderComponent v (always (x >>= f)) 0) (s.begun "page")
      [.template "components.card", .component 0] after := by
    let u : State := (runFrom (viewData 0) (s.begun "page")).2
    have hprogram : ∃ after, Within v x (u.begun "components.card") (x >>= f) (u.begun "components.card") [] after :=
      ⟨_, .first .here⟩
    obtain ⟨after, hin⟩ := hprogram
    obtain ⟨after, htemplate⟩ := hin.enclosed
    have hview : ((s.begun "page").component 0).view ≠ [] := by decide
    have hcomponent : ∃ after, Within v x (u.begun "components.card") (renderComponent v (always (x >>= f)) 0)
        (s.begun "page") ([.template "components.card"] ++ [.component 0]) after :=
      Within.component hview rfl rfl htemplate
    exact ⟨_, hcomponent⟩
  obtain ⟨t, after, hin⟩ := hcard
  have hprogram : ∃ after, Within v x t (renderComponent v (always (x >>= f)) 0 >>= fun w => print (characters w))
      (s.begun "page") [.template "components.card", .component 0] after := ⟨_, .first hin⟩
  obtain ⟨after, hprogram⟩ := hprogram
  obtain ⟨after, htemplate⟩ := hprogram.enclosed
  exact ⟨t, Within.page rfl htemplate⟩

/-- The template of the component prints a name that is not bound. -/
theorem error_routed_unbound : ∃ (inner : Inner) (s t : State) (attached : Bool),
    runFrom (renderComponent debugView inner 0) s = (.ok (.str (failureFragment (attached && debugView.config.debug)
      "Error rendering template 'components.card': NameError: name 'x' is not defined")), t) := by
  obtain ⟨t, after, hwithin⟩ := within_card debugView (raise (.unbound "x")) fun w => print (characters w)
  have hfails : runFrom (raise (.unbound "x") : Run Value) t = (.error (.fault (.unbound "x")), t) := rfl
  have hrouted := (error_routed hwithin (by decide) hfails).2.2 rfl
  obtain ⟨inner, s, t', attached, before, behind, -, -, hrun, -⟩ :=
    hrouted.2 [.template "components.card"] 0 [.template "page"] rfl (by simp)
  exact ⟨inner, s, t', attached, hrun⟩

/-- A class whose components cannot be made. -/
def picky : ComponentClass := { name := "Picky", construct := fun _ => .error (.wrongType "no value") }

/-- A wrong type in the making of a component is an error of components: the component around it does not absorb it. -/
theorem construction_unabsorbed :
    let program : Run Unit := constructFrom "picky" picky [] >>= fun _ => pure ()
    ∃ t after, Within debugView (constructFrom "picky" picky []) t
        (pageText debugView (showing debugView program) (.str "page") .null) cardState.fresh
        [.template "components.card", .component 0, .template "page"] after ∧
      runFrom (construct picky [.dict [] none] []) t = (.error (.fault (.wrongType "no value")), t) ∧
      (runFrom (renderPage debugView (showing debugView program) (.str "page") .null) cardState).1 =
        .error (.component "picky" "cannot construct Picky: no value") := by
  intro program
  obtain ⟨t, after, hwithin⟩ := within_card debugView (constructFrom "picky" picky []) fun _ => pure ()
  refine ⟨t, after, hwithin, rfl, ?_⟩
  rfl

end Run
end Stencil
