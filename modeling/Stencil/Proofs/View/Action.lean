import Stencil.Proofs.View.Frame

/-!
# Output as a tree

What a template does to its output is a tree: it prints, and it opens and closes sections, pushes, components, slots and
other templates around more of the same.  There are two readings of such a tree.  The calls of the view, one after the
other, work on the stack of captures that all templates share.  The recursion over the tree knows no such stack: a body
has a text, and what is around it hands the text on.

* `Action` — a tree.
* `perform` — the calls of the view.
* `Site` — what is around an action; `gather` — the text of an action, by recursion.
* `Flows` — what the calls of the view do to log and nesting.
-/

namespace Stencil.Run

/-- Something that a template does to its output. -/
inductive Action where
  | echo (text : Text)
  | inSection (name : Value) (body : List Action)
  | push (name : Value) (body : List Action)
  | component (name data : Value) (body : List Action)
  | slot (name : Value) (body : List Action)
  /-- Another template, by what it does. -/
  | part (name : Text) (body : List Action)

/-! ## The calls of the view -/

mutual

/-- The calls of the view for an action. -/
def perform (v : View) (inner : Inner) : Action → Run Unit
  | .echo text => echo inner (.str text)
  | .inSection name body => do
    openSection name
    performAll v inner body
    closeSection
  | .push name body => do
    openCapture .push name none
    performAll v inner body
    closePush
  | .component name data body => do
    openComponent v name data
    performAll v inner body
    echo inner (← closeComponent v inner)
  | .slot name body => do
    openSlot name
    performAll v inner body
    closeSlot
  | .part name body => do
    checkNesting v name
    echo inner (.markup (← enclosed name (performAll v inner body)))

/-- The calls of the view for several actions. -/
def performAll (v : View) (inner : Inner) : List Action → Run Unit
  | [] => return
  | a :: rest => do
    perform v inner a
    performAll v inner rest

end

/-! ## The recursion over the tree -/

/-- What is around an action: the innermost component, and the outermost section.  What is rendered inside can look at
everything that is open around it, and at what that has collected. -/
structure Site where
  component : Option Nat := none
  outermost : Option Value := none
  top : Capture
  around : List Capture := []

namespace Site

/-- All that is open around an action, innermost first. -/
def stack (s : Site) : List Capture := s.top :: s.around

/-- Inside a construct. -/
def inside (s : Site) (c : Capture) : Site where
  component := if c.kind = .component then c.component else s.component
  outermost := if s.outermost.isNone ∧ c.kind = .sectionBody then some c.name else s.outermost
  top := c
  around := s.stack

/-- Behind some text. -/
def behind (s : Site) (text : Text) : Site := { s with top := { s.top with text := s.top.text ++ text } }

end Site

/-- Does something with captures open around it; those of the state stay as they are. -/
def within {α : Type} (around : List Capture) (act : Run α) : Run α := ExceptT.mk fun s =>
  let (r, t) := runFrom act (s.over around)
  (r, t.over s.pass.captures)

/-- Gives a slot of a component a text, if there is one. -/
def fillSlot (component : Option Nat) (name : Value) (text : Text) : Run Unit :=
  match component with
  | some id => modifyBag id fun b => b.setSlot name (.markup text)
  | none => return

/-- Adds a body to a push. -/
def keepPush (name : Value) (text : Text) : Run Unit := do
  lift (Value.checkKey name)
  modifyPass (·.addPush name text)

/-- Refuses a section inside another one. -/
def refuseSection (outermost : Option Value) (name : Value) : Run Unit := do
  match outermost with
  | some outer => throw (.ofCause (.nestedSection (← nameText outer) (← nameText name)))
  | none => return

/-- Reports a slot without a component. -/
def reportSlot (component : Option Nat) (name : Value) : Run Unit := do
  if component.isNone then
    warn ("@slot('" ++ (← nameText name) ++ "') outside of a component; content discarded")

/-- Runs something as a template inside another one. -/
def asPart (v : View) (name : Text) (act : Run Text) : Run Text := do
  checkNesting v name
  let p ← pass
  framed name p.captures.length p.loops.length act

mutual

/-- The text of an action. -/
def gather (v : View) (inner : Inner) (site : Site) : Action → Run Text
  | .echo text => return text
  | .inSection name body => do
    refuseSection site.outermost name
    let text ← gatherAll v inner (site.inside { kind := .sectionBody, name }) body
    define name text
    return []
  | .push name body => do
    let text ← gatherAll v inner (site.inside { kind := .push, name }) body
    keepPush name text
    return []
  | .component name data body => do
    let id ← within site.stack do create v name (← entriesOrNone data)
    let rest ← gatherAll v inner (site.inside { kind := .component, name, component := some id }) body
    modifyComponent id fun c => { c with attached := true }
    fillSlot (some id) (.str "default") rest
    let w ← within site.stack (renderComponent v inner id)
    return characters (← within site.stack (printed inner w))
  | .slot name body => do
    reportSlot site.component name
    let text ← gatherAll v inner (site.inside { kind := .slot, name, component := site.component }) body
    fillSlot site.component name text
    return []
  | .part name body => asPart v name (gatherAll v inner (site.inside { kind := .template, name := .str name }) body)

/-- The texts of several actions, one behind the other. -/
def gatherAll (v : View) (inner : Inner) (site : Site) : List Action → Run Text
  | [] => return []
  | a :: rest => do
    let text ← gather v inner site a
    return text ++ (← gatherAll v inner (site.behind text) rest)

end

/-! ## Log and nesting -/

variable {v : View} {levels : Nat} {α : Type} {s t u : State}

/-- The log grows, and the nesting is the same unless a page was rendered inside, which begins its nesting anew. -/
structure Flows (s t : State) : Prop where
  log : s.disk.log <+: t.disk.log
  nesting : t.pass.nesting = s.pass.nesting ∨ t.pass.nesting < 0

instance : IsPreorder State Flows where
  refl _ := ⟨List.prefix_rfl, .inl rfl⟩
  trans _ _ _ h h' := ⟨h.log.trans h'.log, by have := h.nesting; have := h'.nesting; omega⟩

theorem Restores.flows (h : Restores s t) : Flows s t := ⟨h.log, h.nesting⟩

theorem flows_of_same (hl : s.disk.log <+: t.disk.log) (hn : t.pass.nesting = s.pass.nesting) : Flows s t :=
  ⟨hl, .inl hn⟩

theorem restores_of_calm {act : Run α} (h : Calm v (innerAt v levels) act) : Keeps Restores act :=
  restores_calm (restores_innerAt levels).1 (restores_innerAt levels).2 h

theorem flows_of_calm {act : Run α} (h : Calm v (innerAt v levels) act) : Keeps Flows act :=
  fun s => (restores_of_calm h s).flows

/-- A step that is calm whatever it evaluates inside. -/
theorem flows_of_forall {act : Run α} (h : ∀ v inner, Calm v inner act) : Keeps Flows act :=
  flows_of_calm (h plainView (innerAt plainView 0))

theorem flows_print (text : Text) : Keeps Flows (print text) := by
  intro s
  cases hc : s.pass.captures with
  | nil =>
    rw [runFrom_print_nil hc]
    exact refl s
  | cons top rest =>
    rw [runFrom_print hc]
    exact flows_of_same List.prefix_rfl rfl

theorem flows_openCapture (kind : CaptureKind) (name : Value) (component : Option Nat) :
    Keeps Flows (openCapture kind name component) := fun _ => flows_of_same List.prefix_rfl rfl

theorem flows_closeCapture (kind : CaptureKind) (directive : Text) : Keeps Flows (closeCapture kind directive) := by
  intro s
  by_cases htop : ∃ top rest, s.pass.captures = top :: rest ∧ top.kind = kind
  · obtain ⟨top, rest, hc, rfl⟩ := htop
    rw [runFrom_closeCapture hc]
    exact flows_of_same List.prefix_rfl rfl
  · have hstray : ∀ c ∈ s.pass.captures.head?, c.kind ≠ kind := by
      intro c hc hk
      obtain ⟨rest, hrest⟩ := List.head?_eq_some_iff.mp hc
      exact htop ⟨c, rest, hrest, hk⟩
    rw [runFrom_closeCapture_stray hstray]
    exact flows_of_same (List.prefix_append _ _) rfl

theorem flows_takeComponent : Keeps Flows takeComponent := by
  intro s
  cases hsplit : splitAtComponent s.pass.captures with
  | none =>
    rw [runFrom_takeComponent_stray (splitAtComponent_eq_none.mp hsplit)]
    exact flows_of_same (List.prefix_append _ _) rfl
  | some found =>
    obtain ⟨inside, found, around⟩ := found
    obtain ⟨hc, hfound, hinside⟩ := splitAtComponent_eq_some.mp hsplit
    rw [runFrom_takeComponent hc hfound hinside]
    split
    · exact flows_of_same List.prefix_rfl rfl
    · exact flows_of_same (List.prefix_append _ _) rfl

theorem flows_pass : Keeps Flows pass := flows_of_forall fun _ _ => Stepwise.pass

theorem flows_nameText (name : Value) : Keeps Flows (nameText name) := flows_of_forall fun _ _ => Stepwise.nameText name

theorem flows_echo (w : Value) : Keeps Flows (echo (innerAt v levels) w) := by
  refine flows_pass.bind fun p => ?_
  dsimp only
  split
  · exact Keeps.throw _
  · exact (flows_of_calm (Stepwise.printed w)).bind fun _ => flows_print _

theorem flows_openSection (name : Value) : Keeps Flows (openSection name) := by
  refine flows_pass.bind fun p => ?_
  split
  · exact (flows_nameText _).bind fun _ => (flows_nameText _).bind fun _ => Keeps.throw _
  · exact flows_openCapture _ _ _

theorem flows_closeSection : Keeps Flows closeSection := by
  refine (flows_closeCapture _ _).bind fun c => ?_
  cases c with
  | none => exact Keeps.pure _
  | some c => exact flows_of_forall fun _ _ => Stepwise.define c.name c.text

theorem flows_keepPush (name : Value) (text : Text) : Keeps Flows (keepPush name text) :=
  flows_of_forall fun _ _ => .bind (Stepwise.lift _) fun _ => Stepwise.modifyPass (fun _ => rfl) fun _ => rfl

theorem flows_closePush : Keeps Flows closePush := by
  refine (flows_closeCapture _ _).bind fun c => ?_
  cases c with
  | none => exact Keeps.pure _
  | some c => exact flows_keepPush c.name c.text

theorem flows_openComponent (name data : Value) : Keeps Flows (openComponent v name data) := by
  refine (flows_of_forall fun _ _ => Stepwise.entriesOrNone data).bind fun entries => ?_
  have hcreate : Calm v (innerAt v 0) (create v name entries) := Stepwise.create name entries
  exact (flows_of_calm hcreate).bind fun _ => flows_openCapture _ _ _

theorem flows_closeComponent : Keeps Flows (closeComponent v (innerAt v levels)) := by
  refine flows_takeComponent.bind fun c => ?_
  cases c with
  | none => exact Keeps.pure _
  | some c => exact flows_of_calm (Stepwise.fillAndRender c)

theorem flows_openSlot (name : Value) : Keeps Flows (openSlot name) := by
  refine flows_pass.bind fun p => ?_
  dsimp only
  split
  · refine (flows_nameText name).bind fun _ => Keeps.bind ?_ fun _ => flows_openCapture _ _ _
    exact flows_of_forall fun _ _ => Stepwise.report ..
  · exact flows_openCapture _ _ _

theorem flows_closeSlot : Keeps Flows closeSlot := by
  refine (flows_closeCapture _ _).bind fun c => ?_
  split
  · exact flows_of_forall fun _ _ => Stepwise.modifyBag _ _
  · exact Keeps.pure _

theorem flows_checkNesting (name : Text) : Keeps Flows (checkNesting v name) :=
  fun s => (aloof_checkNesting name s).restores.flows

theorem flows_enclosed {act : Run Unit} (h : Keeps Flows act) (name : Text) : Keeps Flows (enclosed name act) := by
  intro s
  have hact := h (s.begun name)
  rw [runFrom_enclosed]
  generalize runFrom act (s.begun name) = r at hact ⊢
  have hn := hact.nesting
  have hbegun : (s.begun name).pass.nesting = s.pass.nesting + 1 := rfl
  obtain ⟨e | u, t⟩ := r
  · refine ⟨hact.log, ?_⟩
    dsimp only at hn
    change t.pass.nesting - 1 = s.pass.nesting ∨ t.pass.nesting - 1 < 0
    omega
  · have hsteady := steady_collect name s.pass.captures.length (t.nested (-1))
    have hnesting := hsteady.nesting
    rw [State.nested_nesting] at hnesting
    refine ⟨hact.log.trans hsteady.log, ?_⟩
    dsimp only at hn hnesting ⊢
    omega

mutual

/-- The calls of the view for an action only add to the log, and keep the nesting. -/
theorem flows_perform (a : Action) : Keeps Flows (perform v (innerAt v levels) a) := by
  match a with
  | .echo text => exact flows_echo _
  | .inSection name body =>
    exact (flows_openSection name).bind fun _ => (flows_performAll body).bind fun _ => flows_closeSection
  | .push name body =>
    exact (flows_openCapture _ _ _).bind fun _ => (flows_performAll body).bind fun _ => flows_closePush
  | .component name data body =>
    refine (flows_openComponent name data).bind fun _ => (flows_performAll body).bind fun _ => ?_
    exact flows_closeComponent.bind fun _ => flows_echo _
  | .slot name body =>
    exact (flows_openSlot name).bind fun _ => (flows_performAll body).bind fun _ => flows_closeSlot
  | .part name body =>
    refine (flows_checkNesting name).bind fun _ => ?_
    exact (flows_enclosed (flows_performAll body) name).bind fun _ => flows_echo _

theorem flows_performAll (actions : List Action) : Keeps Flows (performAll v (innerAt v levels) actions) := by
  match actions with
  | [] => exact Keeps.pure _
  | a :: rest => exact (flows_perform a).bind fun _ => flows_performAll rest

end

end Stencil.Run
