import Stencil.Proofs.View.Action

/-!
# The stack of captures does what the tree says

The calls of the view for a tree of actions and the recursion over the tree give the same text and leave the same state
behind, up to the captures that are open: those of the recursion never change.

* `Blind` — a step that neither looks at the open captures nor changes them.
* `Clean` — between two states no closer has discarded the output of a template, and no page was rendered inside.
* `Tracks` — from a state, two steps have the same outcome up to the open captures.
* `tracks_performAll` — the calls of the view and the recursion track each other, wherever the actions stand.
-/

namespace Stencil.Run

variable {v : View} {levels : Nat} {α β γ δ : Type} {base : List Capture} {site : Site} {s t u : State}

/-! ## Steps beside the captures -/

theorem frameText_over (s : State) (cs : List Capture) (levels id : Nat) :
    (s.over cs).frameText levels id = s.frameText levels id := by
  induction levels generalizing id with
  | zero => rfl
  | succ levels ih =>
    unfold State.frameText
    simp only [ih]
    rfl

theorem shown_over (s : State) (cs : List Capture) : (s.over cs).shown = s.shown := by
  funext v
  cases v with
  | frame id => exact frameText_over s cs _ id
  | _ => rfl

/-- A step that neither looks at the open captures nor changes them. -/
def Blind (act : Run α) : Prop :=
  ∀ s cs, runFrom act (s.over cs) = ((runFrom act s).1, (runFrom act s).2.over cs)

namespace Blind

theorem pure (a : α) : Blind (Pure.pure a : Run α) := fun _ _ => rfl

theorem throw (e : Error) : Blind (MonadExcept.throw e : Run α) := fun _ _ => rfl

theorem bind {x : Run α} {f : α → Run β} (hx : Blind x) (hf : ∀ a, Blind (f a)) : Blind (x >>= f) := by
  intro s cs
  rw [runFrom_bind, runFrom_bind, hx]
  rcases runFrom x s with ⟨e | a, t⟩
  · rfl
  · exact hf a t cs

theorem look {f : State → α} (h : ∀ s cs, f (s.over cs) = f s) : Blind (do return f (← get) : Run α) := by
  intro s cs
  simp only [runFrom_bind, runFrom_get, h]
  rfl

theorem modify {f : State → State} (h : ∀ s cs, f (s.over cs) = (f s).over cs) : Blind (modify f : Run PUnit) := by
  intro s cs
  simp only [runFrom_modify, h]

theorem lift (r : Except Fault α) : Blind (lift r) := by
  cases r with
  | error f => exact throw _
  | ok a => exact pure a

theorem modifyBag (id : Nat) (f : Bag → Except Fault Bag) : Blind (modifyBag id f) := by
  refine bind (look fun _ _ => rfl) fun c => bind (lift _) fun bag => bind (modify fun _ _ => rfl) fun _ => ?_
  cases bag.who with
  | none => exact pure _
  | some who => exact modify fun _ _ => rfl

theorem modifyPass {f : Pass → Pass} (h : ∀ p cs, f { p with captures := cs } = { f p with captures := cs }) :
    Blind (modifyPass f) := by
  refine modify fun s cs => ?_
  rw [State.over, h]
  rfl

theorem define (name : Value) (content : Text) : Blind (define name content) := by
  refine bind (lift _) fun _ => modifyPass fun p cs => ?_
  unfold Pass.define
  dsimp only
  split
  · rfl
  · split <;> rfl

theorem keepPush (name : Value) (text : Text) : Blind (keepPush name text) :=
  bind (lift _) fun _ => modifyPass fun _ _ => rfl

theorem fillSlot (component : Option Nat) (name : Value) (text : Text) : Blind (fillSlot component name text) := by
  cases component with
  | none => exact pure _
  | some id => exact modifyBag id fun b => b.setSlot name (.markup text)

theorem checkNesting (name : Text) : Blind (checkNesting v name) := by
  have hrun : ∀ s, runFrom (Run.checkNesting v name) s =
      (if s.pass.nesting ≥ v.config.maxDepth then
        .error (.compile { cause := .depth v.config.maxDepth, template := some name }) else .ok (), s) := by
    intro s
    simp only [Run.checkNesting, runFrom_bind, runFrom_pass]
    split <;> rfl
  intro s cs
  rw [hrun, hrun]
  rfl

/-- What a blind step leaves behind are the captures before. -/
theorem captures {act : Run α} (h : Blind act) (s : State) : (runFrom act s).2.pass.captures = s.pass.captures := by
  have hover := congrArg Prod.snd (h s s.pass.captures)
  rw [State.over_self] at hover
  rw [hover]
  rfl

end Blind

/-! ## Clean runs -/

/-- Between two states no closer has discarded the output of a template, and no page was rendered inside. -/
structure Clean (s t : State) : Prop where
  uncrossed : ¬ Crossed s t
  nesting : 0 ≤ t.pass.nesting

theorem Clean.before (h : Clean s u) (hf : Flows t u) : Clean s t := by
  refine ⟨fun hc => h.uncrossed (hc.then hf.log), ?_⟩
  have hn := h.nesting
  have := hf.nesting
  omega

theorem Clean.behind (h : Clean s u) (hf : Flows s t) : Clean t u := ⟨fun hc => h.uncrossed (hc.behind hf.log), h.nesting⟩

/-- From a state, two steps have the same outcome up to the open captures, if the first one is clean.  The second one
leaves the captures as they are; `post` is what holds of the results and of the captures behind the first one. -/
def Tracks (base : List Capture) (x : Run α) (y : Run β) (s : State) (post : α → β → List Capture → Prop) : Prop :=
  Clean s (runFrom x s).2 →
    (∃ a b t, runFrom x s = (.ok a, t) ∧ runFrom y (s.over base) = (.ok b, t.over base) ∧ post a b t.pass.captures) ∨
    ∃ e t, runFrom x s = (.error e, t) ∧ runFrom y (s.over base) = (.error e, t.over base)

namespace Tracks

variable {x x' : Run α} {y : Run β} {f : α → Run γ} {g : β → Run δ} {post : α → β → List Capture → Prop}
  {post' : γ → δ → List Capture → Prop}

theorem bind (h : Tracks base x y s post) (hx : Keeps Flows x) (hf : ∀ a, Keeps Flows (f a))
    (hfg : ∀ a b t, post a b t.pass.captures → Tracks base (f a) (g b) t post') :
    Tracks base (x >>= f) (y >>= g) s post' := by
  intro hclean
  have hflows := hx s
  rw [runFrom_bind] at hclean
  rcases hr : runFrom x s with ⟨e | a, t⟩ <;> rw [hr] at hclean hflows
  · rcases h (by rw [hr]; exact hclean) with ⟨a, b, t', hx', -, -⟩ | ⟨e', t', hx', hy'⟩
    · rw [hr] at hx'
      cases hx'
    · exact .inr ⟨e', t', runFrom_bind_error hx' f, runFrom_bind_error hy' g⟩
  · rcases h (by rw [hr]; exact hclean.before (hf a t)) with ⟨a', b, t', hx', hy', hpost⟩ | ⟨e', t', hx', -⟩
    · rw [hr] at hx'
      cases hx'
      rw [runFrom_bind_ok hr, runFrom_bind_ok hy']
      exact hfg a b t hpost (hclean.behind hflows)
    · rw [hr] at hx'
      cases hx'

/-- A step behind one that the recursion has told already. -/
theorem then_left (h : Tracks base x y s post) (hx : Keeps Flows x) (hf : ∀ a, Keeps Flows (f a))
    {post' : γ → β → List Capture → Prop}
    (hfg : ∀ a b t, post a b t.pass.captures → Tracks base (f a) (Pure.pure b) t post') :
    Tracks base (x >>= f) y s post' := by
  have hbind := h.bind hx hf hfg
  rwa [bind_pure] at hbind

/-- What a step does may be told by another one, and from a state with other captures open. -/
theorem congr (cs : List Capture) (hx : runFrom x s = runFrom x' (s.over cs))
    (h : Tracks base x' y (s.over cs) post) : Tracks base x y s post := by
  intro hclean
  rw [hx] at hclean ⊢
  exact h ⟨hclean.uncrossed, hclean.nesting⟩

theorem pure {a : α} {b : β} (h : post a b s.pass.captures) : Tracks base (Pure.pure a) (Pure.pure b) s post :=
  fun _ => .inl ⟨a, b, s, rfl, rfl, h⟩

/-- A blind step does the same above other captures. -/
theorem blind {x : Run α} (h : Blind x) : Tracks base x x s fun a b cs => a = b ∧ cs = s.pass.captures := by
  intro _
  have hcaptures := h.captures s
  have hover := h s base
  rcases hr : runFrom x s with ⟨e | a, t⟩ <;> rw [hr] at hcaptures hover
  · exact .inr ⟨e, t, rfl, hover⟩
  · exact .inl ⟨a, a, t, rfl, hover, rfl, hcaptures⟩

/-- A step that restores the captures does the same within them. -/
theorem within {x : Run α} (h : Keeps Restores x) :
    Tracks base x (within s.pass.captures x) s fun a b cs => a = b ∧ cs = s.pass.captures := by
  intro hclean
  have hwithin : runFrom (Run.within s.pass.captures x) (s.over base) =
      ((runFrom x s).1, (runFrom x s).2.over base) := rfl
  have hcaptures : (runFrom x s).2.pass.captures = s.pass.captures := by
    have hn := hclean.nesting
    rcases (h s).captures with hc | hc | hc
    · exact hc
    · exact absurd hc hclean.uncrossed
    · omega
  rcases hr : runFrom x s with ⟨e | a, t⟩ <;> rw [hr] at hwithin hcaptures
  · exact .inr ⟨e, t, rfl, hwithin⟩
  · exact .inl ⟨a, a, t, rfl, hwithin, rfl, hcaptures⟩

/-- The result of the second step is only turned into something else. -/
theorem bind_pure (h : Tracks base x y s post) (k : β → δ) {post' : α → δ → List Capture → Prop}
    (hpost : ∀ a b cs, post a b cs → post' a (k b) cs) : Tracks base x (y >>= fun b => Pure.pure (k b)) s post' := by
  intro hclean
  rcases h hclean with ⟨a, b, t, hx, hy, hp⟩ | ⟨e, t, hx, hy⟩
  · exact .inl ⟨a, k b, t, hx, by rw [runFrom_bind_ok hy]; rfl, hpost a b _ hp⟩
  · exact .inr ⟨e, t, hx, runFrom_bind_error hy _⟩

end Tracks

/-! ## Sites -/

namespace Site

/-- What a site says of the component and the section around it is what the open captures say. -/
structure Sound (site : Site) : Prop where
  component : (site.stack.find? (·.kind = .component)).bind Capture.component = site.component
  outermost : (site.stack.reverse.find? (·.kind = .sectionBody)).map Capture.name = site.outermost

theorem Sound.inside (h : site.Sound) (c : Capture) : (site.inside c).Sound := by
  constructor
  · have hc := h.component
    change Option.bind (List.find? _ (c :: site.stack)) _ = if c.kind = .component then c.component else site.component
    by_cases hk : c.kind = .component
    · simp [hk]
    · simp [hk, hc]
  · have ho := h.outermost
    change Option.map _ (List.find? _ (c :: site.stack).reverse) =
      if site.outermost.isNone ∧ c.kind = .sectionBody then some c.name else site.outermost
    rw [List.reverse_cons, List.find?_append]
    cases hfind : site.stack.reverse.find? (·.kind = .sectionBody) with
    | none =>
      rw [hfind] at ho
      by_cases hk : c.kind = .sectionBody <;> simp [hk, ← ho]
    | some outer =>
      rw [hfind] at ho
      simp [← ho]

/-- More text changes neither. -/
theorem Sound.behind (h : site.Sound) (text : Text) : (site.behind text).Sound := by
  have hc := h.component
  have ho := h.outermost
  simp only [stack, List.find?_cons, List.reverse_cons, List.find?_append] at hc ho
  constructor
  · simp only [Site.behind, stack, List.find?_cons]
    rw [← hc]
    by_cases hk : site.top.kind = .component <;> simp [hk]
  · simp only [Site.behind, stack, List.reverse_cons, List.find?_append, List.find?_cons]
    rw [← ho]
    cases site.around.reverse.find? (·.kind = .sectionBody) with
    | none => by_cases hk : site.top.kind = .sectionBody <;> simp [hk]
    | some outer => rfl

theorem behind_behind (site : Site) (text more : Text) :
    ((site.behind text).behind more) = site.behind (text ++ more) := by
  simp [behind, List.append_assoc]

theorem behind_nil (site : Site) : site.behind [] = site := by simp [behind]

end Site

/-! ## Single calls -/

/-- What a page prints goes to the innermost construct. -/
theorem tracks_print (hs : s.pass.captures = site.stack) (text : Text) :
    Tracks base (print text) (pure text) s fun _ out cs => cs = (site.behind out).stack := by
  intro _
  refine .inl ⟨(), text, s.over (site.behind text).stack, ?_, rfl, rfl⟩
  rw [runFrom_print hs]
  rfl

/-- Some capture is open, so a value is printed by its text. -/
theorem runFrom_echo {c : Capture} {rest : List Capture} (hs : s.pass.captures = c :: rest) (inner : Inner) (w : Value) :
    runFrom (echo inner w) s = runFrom (printed inner w >>= fun text => print (characters text)) s := by
  have hfull : ¬ s.pass.captures.isEmpty = true := by rw [hs]; exact Bool.false_ne_true
  simp only [echo, runFrom_bind, runFrom_pass, if_neg hfull]

/-- The text of a text is the text. -/
theorem runFrom_printed_text {w : Value} {text : Text} (hw : w = .str text ∨ w = .markup text) (inner : Inner) (s : State) :
    runFrom (printed inner w) s = (.ok (.str text), s) := by
  have hprinted : printed inner w = (do return .str (← lift (Value.write (← get).shown (← now w)))) := by
    rcases hw with rfl | rfl <;> rfl
  have hnow : s.now w = w := by
    unfold State.now Value.now
    rcases hw with rfl | rfl <;> split <;> rfl
  have hwrite : Value.write s.shown w = .ok text := by rcases hw with rfl | rfl <;> rfl
  simp only [hprinted, now, runFrom_bind, runFrom_get, runFrom_pure, hnow, hwrite]
  rfl

/-- Printing a text. -/
theorem tracks_echo_text (hs : s.pass.captures = site.stack) {w : Value} {text : Text}
    (hw : w = .str text ∨ w = .markup text) :
    Tracks base (echo (innerAt v levels) w) (pure text) s fun _ out cs => cs = (site.behind out).stack := by
  refine .congr s.pass.captures ?_ (tracks_print hs text)
  rw [runFrom_echo hs, runFrom_bind, runFrom_printed_text hw]
  rfl

/-- Printing a value. -/
theorem tracks_echo (hs : s.pass.captures = site.stack) (w : Value) :
    Tracks base (echo (innerAt v levels) w)
      (do return characters (← within site.stack (printed (innerAt v levels) w)))
      s fun _ out cs => cs = (site.behind out).stack := by
  refine .congr s.pass.captures (runFrom_echo hs _ w) ?_
  have hprinted : Keeps Restores (printed (innerAt v levels) w) := restores_of_calm (Stepwise.printed w)
  rw [← hs]
  refine (Tracks.within hprinted).bind (fun s => (hprinted s).flows) (fun _ => flows_print _) ?_
  rintro w' - t ⟨rfl, ht⟩
  exact tracks_print (ht.trans hs) _

/-- A section opens unless another one is around it. -/
theorem tracks_openSection (hs : s.pass.captures = site.stack) (hsite : site.Sound) (name : Value) :
    Tracks base (openSection name) (refuseSection site.outermost name) s
      fun _ _ cs => cs = (site.inside { kind := .sectionBody, name }).stack := by
  intro _
  have hfind : s.pass.openSection? = site.stack.reverse.find? (·.kind = .sectionBody) := by rw [Pass.openSection?, hs]
  rw [← hsite.outermost]
  cases hopen : site.stack.reverse.find? (·.kind = .sectionBody) with
  | none =>
    rw [hopen] at hfind
    refine .inl ⟨(), (), s.over ({ kind := .sectionBody, name } :: site.stack), ?_, rfl, rfl⟩
    simp only [openSection, runFrom_bind, runFrom_pass, hfind, runFrom_openCapture, hs]
  | some outer =>
    rw [hopen] at hfind
    have hname : ∀ t : State, runFrom (nameText name) t = (.ok (Value.text t.shown name), t) := fun _ => rfl
    have houter : ∀ t : State, runFrom (nameText outer.name) t = (.ok (Value.text t.shown outer.name), t) := fun _ => rfl
    refine .inr ⟨.ofCause (.nestedSection (Value.text s.shown outer.name) (Value.text s.shown name)), s, ?_, ?_⟩
    · simp only [openSection, runFrom_bind, runFrom_pass, hfind, hname, houter, runFrom_throw]
    · simp only [refuseSection, Option.map_some, runFrom_bind, hname, houter, runFrom_throw, shown_over]

/-- A slot outside of a component is reported. -/
theorem tracks_openSlot (hs : s.pass.captures = site.stack) (hsite : site.Sound) (name : Value) :
    Tracks base (openSlot name) (reportSlot site.component name) s
      fun _ _ cs => cs = (site.inside { kind := .slot, name, component := site.component }).stack := by
  intro _
  have hname : ∀ t : State, runFrom (nameText name) t = (.ok (Value.text t.shown name), t) := fun _ => rfl
  have hfind := hsite.component
  cases hc : site.component with
  | none =>
    rw [hc] at hfind
    refine .inl ⟨(), (), (reported ⟨.warning, "@slot('" ++ Value.text s.shown name ++
      "') outside of a component; content discarded", false⟩ s).over ({ kind := .slot, name } :: site.stack), ?_, ?_, rfl⟩
    · simp only [openSlot, runFrom_bind, runFrom_pass, hs, hfind, Option.isNone_none, if_true, hname, runFrom_warn,
        runFrom_openCapture, reported_pass]
    · simp only [reportSlot, Option.isNone_none, if_true, runFrom_bind, hname, runFrom_warn, shown_over]
      rfl
  | some id =>
    rw [hc] at hfind
    refine .inl ⟨(), (), s.over ({ kind := .slot, name, component := some id } :: site.stack), ?_, rfl, rfl⟩
    simp only [openSlot, runFrom_bind, runFrom_pass, hs, hfind, Option.isNone_some, Bool.false_eq_true, if_false,
      runFrom_openCapture]

/-- A component is made where it opens. -/
theorem tracks_openComponent (hs : s.pass.captures = site.stack) (name data : Value) :
    Tracks base (openComponent v name data) (within site.stack do create v name (← entriesOrNone data)) s
      fun _ id cs => cs = (site.inside { kind := .component, name, component := some id }).stack := by
  have hcalm : Calm v (innerAt v 0) (do create v name (← entriesOrNone data)) :=
    .bind (Stepwise.entriesOrNone data) fun entries => Stepwise.create name entries
  have hcreate : Keeps Restores (do create v name (← entriesOrNone data)) := restores_of_calm hcalm
  rw [openComponent, ← bind_assoc, ← hs]
  refine (Tracks.within hcreate).then_left (fun s => (hcreate s).flows) (fun _ => flows_openCapture _ _ _) ?_
  rintro id - t ⟨rfl, ht⟩ _
  refine .inl ⟨(), id, t.over ({ kind := .component, name, component := some id } :: site.stack), ?_, rfl, rfl⟩
  rw [runFrom_openCapture, ht, hs]

/-- A step that only sets something, without a text. -/
theorem tracks_set {x act : Run Unit} (hact : Blind act) (hx : runFrom x s = runFrom act (s.over site.stack)) :
    Tracks base x (do act; return []) s fun _ out cs => cs = (site.behind out).stack := by
  refine .congr site.stack hx (.bind_pure (.blind hact) (fun _ => []) ?_)
  rintro - - cs ⟨-, rfl⟩
  rw [Site.behind_nil, State.over_captures]

theorem runFrom_closeSection {c : Capture} {rest : List Capture} (hs : s.pass.captures = c :: rest)
    (hk : c.kind = .sectionBody) : runFrom closeSection s = runFrom (define c.name c.text) (s.over rest) := by
  rw [closeSection, ← hk, runFrom_bind, runFrom_closeCapture hs]

theorem runFrom_closePush {c : Capture} {rest : List Capture} (hs : s.pass.captures = c :: rest)
    (hk : c.kind = .push) : runFrom closePush s = runFrom (keepPush c.name c.text) (s.over rest) := by
  rw [closePush, ← hk, runFrom_bind, runFrom_closeCapture hs]
  rfl

theorem runFrom_closeSlot {c : Capture} {rest : List Capture} (hs : s.pass.captures = c :: rest) (hk : c.kind = .slot) :
    runFrom closeSlot s = runFrom (fillSlot c.component c.name c.text) (s.over rest) := by
  rw [closeSlot, ← hk, runFrom_bind, runFrom_closeCapture hs]
  obtain ⟨kind, name, _ | id, text⟩ := c <;> rfl

theorem runFrom_closeComponent {c : Capture} {rest : List Capture} (hs : s.pass.captures = c :: rest)
    (hk : c.kind = .component) (inner : Inner) :
    runFrom (closeComponent v inner) s = runFrom (fillAndRender v inner c) (s.over rest) := by
  rw [closeComponent, runFrom_bind, @runFrom_takeComponent _ [] _ _ hs hk (by simp)]
  rfl

/-- A component is rendered where it closes. -/
theorem tracks_closeComponent {name : Value} {id : Nat} {rest : Text}
    (hs : s.pass.captures = { kind := .component, name, component := some id, text := rest } :: site.stack) :
    Tracks base (do echo (innerAt v levels) (← closeComponent v (innerAt v levels))) (do
        modifyComponent id fun c => { c with attached := true }
        fillSlot (some id) (.str "default") rest
        let w ← within site.stack (renderComponent v (innerAt v levels) id)
        return characters (← within site.stack (printed (innerAt v levels) w)))
      s fun _ out cs => cs = (site.behind out).stack := by
  have hcalls : runFrom (do echo (innerAt v levels) (← closeComponent v (innerAt v levels))) s = runFrom (do
      modifyComponent id fun c => { c with attached := true }
      fillSlot (some id) (.str "default") rest
      echo (innerAt v levels) (← renderComponent v (innerAt v levels) id)) (s.over site.stack) := by
    rw [runFrom_bind, runFrom_closeComponent hs rfl, ← runFrom_bind, fillAndRender, bind_assoc]
    simp only [bind_assoc]
    rfl
  have hrender : Keeps Restores (renderComponent v (innerAt v levels) id) := restores_of_calm (Stepwise.renderComponent id)
  have hattach : Blind (modifyComponent id fun c => { c with attached := true }) := .modify fun _ _ => rfl
  have hflows : Keeps Flows (fillSlot (some id) (.str "default") rest) :=
    flows_of_forall fun _ _ => Stepwise.modifyBag id fun b => b.setSlot (.str "default") (.markup rest)
  have hshow : ∀ w, Keeps Flows (echo (innerAt v levels) w) := flows_echo
  refine .congr site.stack hcalls ((Tracks.blind hattach).bind (flows_of_forall fun _ _ => Stepwise.modifyComponent id _)
    (fun _ => hflows.bind fun _ => Keeps.bind (fun s => (hrender s).flows) hshow) ?_)
  rintro - - t ⟨-, ht⟩
  refine (Tracks.blind (.fillSlot _ _ _)).bind hflows (fun _ => Keeps.bind (fun s => (hrender s).flows) hshow) ?_
  rintro - - u ⟨-, hu⟩
  rw [ht] at hu
  change u.pass.captures = site.stack at hu
  rw [← hu]
  refine (Tracks.within hrender).bind (fun s => (hrender s).flows) hshow ?_
  rintro w - t' ⟨rfl, ht'⟩
  rw [hu] at ht' ⊢
  exact tracks_echo ht' w

/-- Running a body as a template. -/
theorem tracks_enclosed {name : Text} {act : Run Unit} {ref : Run Text} (hs : s.pass.captures = site.stack)
    (h : Tracks base act ref (s.begun name)
      fun _ out cs => cs = ((site.inside { kind := .template, name := .str name }).behind out).stack) :
    Tracks base (enclosed name act) (do
        let p ← pass
        framed name p.captures.length p.loops.length ref)
      s fun text out cs => text = out ∧ cs = site.stack := by
  intro hclean
  have href : ∀ u : State, runFrom (do
      let p ← pass
      framed name p.captures.length p.loops.length ref) u =
        match runFrom ref (u.nested 1) with
        | (.ok out, t) => (.ok out, t.nested (-1))
        | (.error e, t) => (.error (e.inTemplate name), t.cutTo u) := by
    intro u
    rw [runFrom_bind_ok (runFrom_pass u), runFrom_framed]
    rcases runFrom ref (u.nested 1) with ⟨e | out, t⟩ <;> rfl
  have hbegun : (s.over base).nested 1 = (s.begun name).over base := rfl
  rw [href, hbegun]
  rw [runFrom_enclosed] at hclean ⊢
  rcases hr : runFrom act (s.begun name) with ⟨e | u, t⟩ <;> rw [hr] at hclean
  · have hinner : Clean (s.begun name) t := by
      refine ⟨hclean.uncrossed, ?_⟩
      have hn : 0 ≤ t.pass.nesting - 1 := hclean.nesting
      omega
    rcases h (by rw [hr]; exact hinner) with ⟨a, b, t', hx, -, -⟩ | ⟨e', t', hx, hy⟩
    · rw [hr] at hx
      cases hx
    · rw [hr] at hx
      cases hx
      refine .inr ⟨e.inTemplate name, t.cutTo s, rfl, ?_⟩
      have hcut : (t.over base).cutTo (s.over base) = (t.cutTo s).over base := by
        have hbase : outer base.length base = base := outer_append [] base
        simp only [State.cutTo, State.over, hbase]
      rw [hy]
      dsimp only
      rw [hcut]
  · have hsteady := steady_collect name s.pass.captures.length (t.nested (-1))
    have hinner : Clean (s.begun name) t := by
      have hn := hclean.nesting
      have hnesting := hsteady.nesting
      rw [State.nested_nesting] at hnesting
      refine ⟨fun hc => hclean.uncrossed (hc.then hsteady.log), ?_⟩
      dsimp only at hn
      omega
    rcases h (by rw [hr]; exact hinner) with ⟨a, b, t', hx, hy, hpost⟩ | ⟨e', t', hx, -⟩
    · rw [hr] at hx
      cases hx
      have hstack : (t.nested (-1)).pass.captures =
          [] ++ { kind := .template, name := .str name, text := b } :: s.pass.captures := by
        rw [State.nested_captures, hpost, hs]
        rfl
      dsimp only
      refine .inl ⟨b, b, _, runFrom_collect hstack name, ?_, rfl, hs⟩
      rw [hy]
      rfl
    · rw [hr] at hx
      cases hx

/-! ## Whole trees -/

mutual

/-- The calls of the view for an action and the recursion track each other, wherever the action stands. -/
theorem tracks_perform (a : Action) (site : Site) (hsite : site.Sound) (s : State) (hs : s.pass.captures = site.stack) :
    Tracks base (perform v (innerAt v levels) a) (gather v (innerAt v levels) site a) s
      fun _ out cs => cs = (site.behind out).stack := by
  match a with
  | .echo text => exact tracks_echo_text hs (.inl rfl)
  | .inSection name body =>
    refine (tracks_openSection hs hsite name).bind (flows_openSection name)
      (fun _ => (flows_performAll body).bind fun _ => flows_closeSection) fun _ _ t ht => ?_
    refine (tracks_performAll body _ (hsite.inside _) t ht).bind (flows_performAll body) (fun _ => flows_closeSection)
      fun _ text u hu => ?_
    exact tracks_set (.define name text) (runFrom_closeSection hu rfl)
  | .push name body =>
    have hopen : runFrom (openCapture .push name none >>= fun _ => performAll v (innerAt v levels) body >>= fun _ => closePush) s =
        runFrom (performAll v (innerAt v levels) body >>= fun _ => closePush)
          (s.over (site.inside { kind := .push, name }).stack) := by
      rw [runFrom_bind, runFrom_openCapture, hs]
      rfl
    refine .congr _ hopen ?_
    refine (tracks_performAll body _ (hsite.inside _) _ rfl).bind (flows_performAll body) (fun _ => flows_closePush)
      fun _ text u hu => ?_
    exact tracks_set (.keepPush name text) (runFrom_closePush hu rfl)
  | .component name data body =>
    refine (tracks_openComponent hs name data).bind (flows_openComponent name data)
      (fun _ => (flows_performAll body).bind fun _ => flows_closeComponent.bind fun _ => flows_echo _) fun _ id t ht => ?_
    refine (tracks_performAll body _ (hsite.inside _) t ht).bind (flows_performAll body)
      (fun _ => flows_closeComponent.bind fun _ => flows_echo _) fun _ rest u hu => ?_
    exact tracks_closeComponent hu
  | .slot name body =>
    refine (tracks_openSlot hs hsite name).bind (flows_openSlot name)
      (fun _ => (flows_performAll body).bind fun _ => flows_closeSlot) fun _ _ t ht => ?_
    refine (tracks_performAll body _ (hsite.inside _) t ht).bind (flows_performAll body) (fun _ => flows_closeSlot)
      fun _ text u hu => ?_
    exact tracks_set (.fillSlot site.component name text) (runFrom_closeSlot hu rfl)
  | .part name body =>
    refine (Tracks.blind (.checkNesting name)).bind (flows_checkNesting name)
      (fun _ => (flows_enclosed (flows_performAll body) name).bind fun _ => flows_echo _) ?_
    rintro - - t ⟨-, ht⟩
    rw [hs] at ht
    have hbody : (t.begun name).pass.captures = (site.inside { kind := .template, name := .str name }).stack := by
      change _ :: t.pass.captures = _
      rw [ht]
      rfl
    have hinside := tracks_performAll body _ (hsite.inside _) (t.begun name) hbody
    refine (tracks_enclosed ht hinside).then_left (flows_enclosed (flows_performAll body) name) (fun _ => flows_echo _) ?_
    rintro text out u ⟨rfl, hu⟩
    exact tracks_echo_text hu (.inr rfl)

/-- The calls of the view for several actions and the recursion track each other. -/
theorem tracks_performAll (actions : List Action) (site : Site) (hsite : site.Sound) (s : State)
    (hs : s.pass.captures = site.stack) :
    Tracks base (performAll v (innerAt v levels) actions) (gatherAll v (innerAt v levels) site actions) s
      fun _ out cs => cs = (site.behind out).stack := by
  match actions with
  | [] => exact .pure (by rw [hs, Site.behind_nil])
  | a :: rest =>
    refine (tracks_perform a site hsite s hs).bind (flows_perform a) (fun _ => flows_performAll rest) fun _ text t ht => ?_
    refine (tracks_performAll rest _ (hsite.behind text) t ht).bind_pure (fun more => text ++ more) fun _ more cs hcs => ?_
    rw [hcs, Site.behind_behind]

end

/-- **Output as a tree.**  From a state in which only the output of a template is open, the calls of the view for a tree of
actions and the recursion over the tree end the same way: with the same text, or with the same error.  Everything else
that they leave behind is the same, too: sections, pushes, components with their slots, log and disk.  The calls are
`Clean` unless a component that is rendered among them closes one of the tree, or renders a page. -/
theorem performAll_eq_gatherAll (v : View) (levels : Nat) (actions : List Action) (s : State) (c : Capture)
    (hc : c.kind = .template) (hs : s.pass.captures = [c])
    (hclean : Clean s (runFrom (performAll v (innerAt v levels) actions) s).2) :
    match runFrom (gatherAll v (innerAt v levels) { top := c } actions) s with
    | (.ok out, t) =>
      runFrom (performAll v (innerAt v levels) actions) s = (.ok (), t.over [{ c with text := c.text ++ out }])
    | (.error e, t) => ∃ left, runFrom (performAll v (innerAt v levels) actions) s = (.error e, t.over left) := by
  have hsite : Site.Sound { top := c } := by
    constructor <;> simp [Site.stack, hc]
  have hover : s.over [c] = s := by rw [← hs, State.over_self]
  have htracks : Tracks [c] (performAll v (innerAt v levels) actions) (gatherAll v (innerAt v levels) { top := c } actions) s
      fun _ out cs => cs = (({ top := c } : Site).behind out).stack := tracks_performAll actions _ hsite s hs
  rcases htracks hclean with
    ⟨u, out, t, hperform, hgather, hcaptures⟩ | ⟨e, t, hperform, hgather⟩
  · rw [hover] at hgather
    rw [hgather, hperform]
    dsimp only
    rw [State.over_over, ← State.over_self t, hcaptures]
    rfl
  · rw [hover] at hgather
    rw [hgather, hperform]
    exact ⟨t.pass.captures, by rw [State.over_over, State.over_self]⟩

/-- The output of a page, and nothing else. -/
def lonePage : State where
  disk := { files := {} }
  pass := { captures := [⟨.template, .str "page", none, []⟩], nesting := 1 }

/-- A push, a section and another template between two texts. -/
def plainTree : List Action :=
  [.echo "a", .push (.str "p") [.echo "b"], .inSection (.str "s") [.echo "c"], .part "part" [.echo "d"], .echo "e"]

theorem plainTree_text :
    ∃ t, runFrom (performAll plainView (innerAt plainView 1) plainTree) lonePage =
      (.ok (), State.over t [⟨.template, .str "page", none, "ade"⟩]) := by
  have hclean : Clean lonePage (runFrom (performAll plainView (innerAt plainView 1) plainTree) lonePage).2 :=
    ⟨not_crossed (by decide +kernel), by decide +kernel⟩
  have h := performAll_eq_gatherAll plainView 1 plainTree lonePage ⟨.template, .str "page", none, []⟩ rfl rfl hclean
  have htext : (runFrom (gatherAll plainView (innerAt plainView 1) { top := ⟨.template, .str "page", none, []⟩ }
      plainTree) lonePage).1.toOption = some "ade" := by decide +kernel
  generalize runFrom (gatherAll _ _ _ _) _ = r at h htext
  obtain ⟨e | out, t⟩ := r
  · cases htext
  · cases htext
    exact ⟨t, h⟩

/-- Every template prints something and then closes a component that it has not opened. -/
def strayInner : Nat → Inner
  | 0 => innerAt plainView 0
  | levels + 1 =>
    { evaluate := fun name _ => enclosed name (runProgram plainView (strayInner levels) strayCloser [])
      render := renderComponent plainView (strayInner levels) }

/-- The output of a page of an application that has a template for cards. -/
def cardPage : State where
  disk := { files := { entries := [(["app"], .directory), (["app", "components"], .directory),
    (["app", "components", "card.html"], .file [] 0)] } }
  pass := lonePage.pass

/-- A card inside another one. -/
def nestedCards : List Action := [.component (.str "card") .null [.component (.str "card") .null []]]

/-- The template of the inner card closes the outer one, so that the page is torn. -/
theorem nestedCards_torn :
    (runFrom (performAll plainView (strayInner 3) nestedCards) cardPage).1.toOption = none ∧
      (runFrom (gatherAll plainView (strayInner 3) { top := ⟨.template, .str "page", none, []⟩ } nestedCards)
        cardPage).1.toOption.isSome := by
  decide +kernel

end Stencil.Run
