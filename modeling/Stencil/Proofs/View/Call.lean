import Stencil.Proofs.View.Elementary

/-!
# What calls of methods and built-in functions can do

Rendering and making components, rendering pages inside a page, and every method that a program can call of the view and
of components are composed of elementary steps.
-/

namespace Stencil.Run.Stepwise

variable {v : View} {inner : Inner} {free : Prop} {α : Type}

/-! ## Texts of values -/

theorem evaluate (name : Text) (data : List (Value × Value)) : Steps v inner free (inner.evaluate name data) :=
  .elementary (.evaluate name data)

theorem render (id : Nat) : Steps v inner free (inner.render id) := .elementary (.render id)

theorem textOf (w : Value) : Steps v inner free (textOf inner w) := by
  unfold Run.textOf
  split
  · exact render _
  · exact .bind get fun _ => .bind (now _) fun _ => .bind (lift _) fun _ => .pure _

theorem printed (w : Value) : Steps v inner free (printed inner w) := by
  unfold Run.printed
  split
  · exact .pure _
  · exact textOf w

theorem echo (w : Value) : Stepwise v inner (echo inner w) :=
  .bind pass fun _ => behind (raise _) (.bind (printed w) fun _ => print _)

/-! ## Components -/

theorem composeText (fragments : List Fragment) : Steps v inner free (composeText inner fragments) := by
  refine .bind (.mapM (fun fragment => ?_) fragments) fun _ => .pure _
  cases fragment with
  | literal s => exact .pure s
  | shown w => exact .bind (textOf w) fun _ => .pure _

theorem compose (id : Nat) : Steps v inner free (compose inner id) := by
  refine .bind (component id) fun c => ?_
  cases c.cls.compose with
  | none => exact .throw _
  | some f => exact .bind (lift _) fun _ => .bind (composeText _) fun _ => .pure _

theorem viewData (id : Nat) : Steps v inner free (viewData id) :=
  .bind (component id) fun _ => .bind (settle _) fun _ => .pure _

theorem renderTemplate (id : Nat) : Steps v inner free (renderTemplate inner id) :=
  .bind (component id) fun _ => behind (.throw _) (.bind (viewData id) fun _ => .bind (evaluate ..) fun _ => .pure _)

/-- Errors of compiling and of components pass a component, all others are reported. -/
theorem renderComponent (id : Nat) : Steps v inner free (renderComponent v inner id) := by
  refine .tryCatch (.layer (.component inner id)) (.bind (component id) fun c => ?_) fun e => ?_
  · split
    · exact compose id
    · exact renderTemplate id
  · split
    · exact .throw _
    · exact .throw _
    · exact .bind (component id) fun _ => .bind (report ..) fun _ => .pure _

theorem firstTemplate (names : List Text) : Steps v inner free (firstTemplate v names) := by
  induction names with
  | nil => exact .pure _
  | cons name names ih =>
    refine .bind get fun s => ?_
    split
    · exact .pure _
    · exact ih
    · exact .throw _

theorem construct (cls : ComponentClass) (args : List Value) (named : Table Value) :
    Steps v inner free (construct cls args named) := by
  refine .bind (lift _) fun made => ?_
  exact .bind (entriesOrNone _) fun _ => .bind (lift _) fun _ => .pure _

theorem constructFrom (name : Text) (cls : ComponentClass) (data : List (Value × Value)) :
    Steps v inner free (constructFrom name cls data) := by
  unfold Run.constructFrom
  split
  · exact .throw _
  · exact .bind (.tryCatch (.construction ..) (construct ..) fun _ => .throw _) fun _ => .pure _

theorem create (name : Value) (data : List (Value × Value)) : Steps v inner free (create v name data) := by
  unfold Run.create
  cases name.text? with
  | none => exact raise _
  | some name =>
    refine behind (.throw _) ?_
    cases v.components.resolve name with
    | some cls => exact .bind (constructFrom ..) fun _ => addComponent _
    | none =>
      refine .bind (firstTemplate _) fun template => ?_
      cases template with
      | some template => exact addComponent _
      | none => exact .throw _

theorem openComponent (name data : Value) : Stepwise v inner (openComponent v name data) :=
  .bind (entriesOrNone data) fun _ => .bind (create name _) fun _ => openCapture (by decide) name _

theorem takeComponent : Stepwise v inner takeComponent := .elementary (.takeComponent trivial)

theorem fillAndRender (capture : Capture) : Steps v inner free (fillAndRender v inner capture) :=
  .bind (modifyComponent _ _) fun _ => .bind (modifyBag _ _) fun _ => renderComponent _

theorem closeComponent : Stepwise v inner (closeComponent v inner) := by
  refine .bind takeComponent fun c => ?_
  cases c with
  | none => exact .pure _
  | some c => exact fillAndRender c

/-! ## Built-in functions -/

theorem callBuiltin (name : Text) (args : List Value) (named : Table Value) :
    Stepwise v inner (callBuiltin inner name args named) := by
  unfold Run.callBuiltin
  refine behind (raise _) ?_
  -- a call fails, is answered at once, or goes through the values of its arguments first
  split <;> first
    | exact raise _
    | exact .pure _
    | exact lift _
    | exact textOf _
    | exact .bind (lift _) fun _ => .pure _
    | exact .bind get fun _ => .bind (lift _) fun _ => .pure _
    | exact .bind (entriesFrom _) fun _ => .pure _
    | exact .bind (valuesOf _) fun _ => .pure _
    | exact .bind (valuesOf _) fun _ => lift _
    | exact .bind (valuesOf _) fun _ => streamed _ _
    | exact .bind (valuesOf _) fun _ => .bind (lift _) fun _ => streamed _ _
    | exact .bind (valuesOf _) fun _ => .bind (valuesOf _) fun _ => streamed _ _

/-! ## Templates and pages -/

theorem templateName (name : Value) : Stepwise v inner (templateName v name) := by
  unfold Run.templateName
  split
  · exact .pure _
  · exact raise _

theorem partialOf (name data : Value) : Stepwise v inner (partialOf v inner name data) :=
  .bind (entriesOrNone data) fun _ => .bind (templateName name) fun _ => .bind (evaluate ..) fun _ => .pure _

theorem reset : Stepwise v inner reset := .elementary (.reset trivial)

theorem followLayouts (page : Text) (data : List (Value × Value)) (rounds : Nat) (chain : List Text) (content : Text) :
    Stepwise v inner (followLayouts v inner page data rounds chain content) := by
  induction rounds generalizing chain content with
  | zero => exact raise _
  | succ rounds ih =>
    refine .bind pass fun p => ?_
    split
    · exact .pure _
    · refine .bind (modifyPass (fun _ => rfl) fun _ => rfl) fun _ => .bind (templateName _) fun name => ?_
      exact behind (.throw _) (.bind (report ..) fun _ => .bind (evaluate ..) fun content => ih _ content)

theorem pageData (data : Value) : Stepwise v inner (pageData data) :=
  .bind (entriesOrNone data) fun _ => modifyGet fun _ => rfl

theorem pageText (name data : Value) : Stepwise v inner (pageText v inner name data) := by
  refine .bind (pageData data) fun _ => .bind (templateName name) fun _ => .bind (evaluate ..) fun _ => ?_
  exact .bind (followLayouts ..) fun _ => .pure _

theorem renderPage (name data : Value) : Stepwise v inner (renderPage v inner name data) := by
  refine .bind reset fun _ => .tryCatch (.layer (.page inner name data)) (pageText name data) fun e => ?_
  refine .bind reset fun _ => ?_
  split
  · exact .throw _
  · exact behind (.throw _) (.bind (nameText name) fun _ => .bind (report ..) fun _ => .pure _)

/-! ## Methods of the view -/

theorem quietly {act : Run Unit} (h : Stepwise v inner act) : Stepwise v inner (quietly act) :=
  .bind h fun _ => .pure _

theorem counted {act : Run Nat} (h : Stepwise v inner act) : Stepwise v inner (counted act) :=
  .bind h fun _ => .pure _

theorem ageOf (w : Value) : Stepwise v inner (ageOf w) := by
  unfold Run.ageOf
  split
  · exact .pure _
  · exact .pure _
  · exact .pure _
  · exact raise _

theorem fillSection (name content : Value) : Stepwise v inner (fillSection inner name content) := by
  refine .bind (sectionText? name) fun old => ?_
  cases old with
  | none => exact .bind (printed content) fun _ => define name _
  | some old =>
    dsimp only
    split
    · exact .bind (printed content) fun _ => define name _
    · exact .pure _

theorem yieldSection (name default : Value) : Stepwise v inner (yieldSection inner name default) := by
  refine .bind (sectionText? name) fun s => ?_
  cases s with
  | none => exact printed default
  | some s => exact .pure _

theorem yieldPush (name default : Value) : Stepwise v inner (yieldPush inner name default) := by
  refine .bind (pushText name) fun s => ?_
  split
  · exact printed default
  · exact .pure _

/-- Every method of the view is composed of elementary steps. -/
theorem callView (m : ViewMethod) (b : Bound) : Stepwise v inner (callView v inner m b) := by
  cases m with
  | render => exact .bind (renderPage _ _) fun _ => .pure _
  | makePartial => exact partialOf _ _
  | compile => exact .bind (templateName _) fun name => .bind (.elementary (.compile trivial name)) fun _ => .pure _
  | echo => exact quietly (echo _)
  | extendsLayout => exact quietly (modifyPass (fun _ => rfl) fun _ => rfl)
  | startSection => exact quietly (openSection _)
  | endSection => exact quietly closeSection
  | setSection => exact quietly (fillSection _ _)
  | yieldSection => exact yieldSection _ _
  | sectionExists => exact .bind (sectionText? _) fun _ => .pure _
  | parentSection => exact .pure _
  | startPush => exact quietly (openCapture (by decide) _ none)
  | endPush => exact quietly closePush
  | yieldPush => exact yieldPush _ _
  | startComponent => exact quietly (openComponent _ _)
  | renderComponent => exact closeComponent
  | slot => exact quietly (openSlot _)
  | endSlot => exact quietly closeSlot
  | addLoop => exact openLoop _
  | popLoop => exact quietly closeLoop
  | checkAuth => exact .pure _
  | allows => exact .pure _
  | denies => exact .pure _
  | csrfField => exact .pure _
  | csrfToken => exact .pure _
  | csrfMetaTag => exact .pure _
  | toJson => exact .bind (lift _) fun _ => .pure _
  | asset => exact lift _
  | clearCache => exact counted (.elementary (.clear trivial))
  | clearTemplateCache => exact counted (.bind (templateName _) fun name => .elementary (.forget trivial name))
  | clearExpiredCache => exact counted (.bind (ageOf _) fun age => .elementary (.purge trivial age))
  | cacheSize => exact counted (.elementary (.size trivial))

/-! ## Methods and attributes of components -/

theorem slotFor (id : Nat) (name default : Value) : Stepwise v inner (slotFor inner id name default) := by
  refine .bind (lift _) fun _ => .bind (component id) fun c => ?_
  split
  · exact .pure _
  · split
    · exact .pure _
    · refine .bind (printed _) fun s => ?_
      split <;> exact .pure _

/-- Every method of a component is composed of elementary steps. -/
theorem callComponent (id : Nat) (m : ComponentMethod) (b : Bound) :
    Stepwise v inner (callComponent v inner id m b) := by
  have hchange : ∀ (k : Value) (f : Bag → Except Fault Bag), Stepwise v inner (Run.quietly do
      Run.lift (Value.checkKey k)
      Run.modifyBag id f) := fun _ _ => quietly (.bind (lift _) fun _ => modifyBag id _)
  cases m with
  | get => exact .bind (lift _) fun _ => .bind (component id) fun _ => .pure _
  | set => exact hchange _ _
  | has => exact .bind (.bind (lift _) fun _ => .bind (component id) fun _ => .pure _) fun _ => .pure _
  | remove =>
    refine .bind (component id) fun c => ?_
    split
    · exact .pure _
    · exact hchange _ _
  | clearData => exact quietly (modifyBag id _)
  | setData =>
    refine quietly (.bind (component id) fun c => .bind (entriesInto _ _) fun r => .bind (setBag id _) fun _ => ?_)
    split
    · exact raise _
    · exact .pure _
  | setSlot => exact quietly (modifyBag id _)
  | getSlot => exact .bind (lift _) fun _ => .bind (component id) fun _ => .pure _
  | hasSlot => exact .bind (.bind (lift _) fun _ => .bind (component id) fun _ => .pure _) fun _ => .pure _
  | setSlots => exact quietly (.bind (entriesFrom _) fun _ => modifyBag id _)
  | clearSlots => exact quietly (modifyBag id _)
  | prepare => exact quietly (.bind (component id) fun _ => modifyBag id _)
  | slotAccessor => exact .pure _
  | viewData => exact .bind (viewData id) fun _ => .pure _
  | render => exact renderComponent id
  | renderView => exact renderTemplate id
  | compose => exact compose id

theorem callSlot (helper : SlotHelper) (id : Nat) (b : Bound) : Stepwise v inner (callSlot v inner helper id b) := by
  cases helper with
  | accessor => exact slotFor id _ _
  | probe => exact callComponent id .hasSlot b
  | raw => exact callComponent id .getSlot b

theorem viewAttribute? (name : Text) : Stepwise v inner (viewAttribute? v name) :=
  .bind pass fun _ => .bind lastLoop fun _ => .pure _

theorem dataOf (id : Nat) : Stepwise v inner (dataOf id) := by
  refine .bind (component id) fun c => ?_
  split
  · exact .pure _
  · refine .bind (settle _) fun w => ?_
    split
    · exact .bind (modifyComponent id _) fun _ => .pure _
    · exact .pure _

theorem componentAttribute (id : Nat) (name : Text) : Stepwise v inner (componentAttribute v id name) := by
  refine .bind (component id) fun c => ?_
  dsimp only
  split
  · exact dataOf id
  · split
    · exact settle _
    · split
      · exact .pure _
      · exact raise _

theorem setComponentAttribute (id : Nat) (name : Text) (w : Value) :
    Stepwise v inner (setComponentAttribute id name w) :=
  .bind (component id) fun _ => behind (raise _) (setBag id _)

end Stencil.Run.Stepwise
