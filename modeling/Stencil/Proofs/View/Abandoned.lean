import Stencil.Proofs.View.Section
import Stencil.Proofs.View.Frame

/-!
# What a failed component leaves behind

A component whose template fails gives a fragment in its place.  The captures and loops that the template opened are
closed and the nesting is counted back; sections, pushes and the layout belong to the page and stay as the template left
them.

* `FailsAt` — the state in which an error comes out of a template: from loading it, or from its program.
* `Abandoned` — what is left of a pass behind a template that failed.
* `evaluateWith_abandoned` — evaluating a template that fails leaves just that.
* `closeComponent_abandoned` — so does a component whose template fails, and its fragment.
-/

namespace Stencil.Run

variable {v : View} {inner : Inner} {name : Text} {data : List (Value × Value)} {s w : State} {e : Error} {id : Nat}
  {c : Capture}

/-! ## Templates that fail -/

/-- Loads a template unless too many are nested. -/
def prepared (v : View) (name : Text) : Run Loaded := do
  checkNesting v name
  load v name

/-- An error comes out of a template: the state in which loading it or its program ended. -/
inductive FailsAt (v : View) (inner : Inner) (name : Text) (data : List (Value × Value)) (s : State) :
    Error → State → Prop
  | loading {e : Error} {f : State} : runFrom (prepared v name) s = (.error e, f) → FailsAt v inner name data s e f
  | running {loaded : Loaded} {t : State} {e : Error} {f : State} : runFrom (prepared v name) s = (.ok loaded, t) →
    runFrom (runProgram v inner loaded.program data) (t.begun name) = (.error e, f) →
    FailsAt v inner name data s (e.inTemplate name) f

/-- What is left of the pass `before` a template that failed, given the pass in which it `failed`: captures, nesting and
loops are restored, unless a loop around the template has been closed; what belongs to the page is as it was left. -/
structure Abandoned (before failed after : Pass) : Prop where
  captures : after.captures = before.captures
  nesting : after.nesting = before.nesting
  loops : before.loops <:+ failed.loops → after.loops = before.loops
  fewer : after.loops.length ≤ before.loops.length
  sections : after.sections = failed.sections
  pushes : after.pushes = failed.pushes
  layout : after.layout = failed.layout

theorem Abandoned.self (p : Pass) : Abandoned p p p := ⟨rfl, rfl, fun _ => rfl, Nat.le_refl _, rfl, rfl, rfl⟩

theorem outer_of_suffix {α : Type} {xs ys : List α} (h : ys <:+ xs) : outer ys.length xs = ys := by
  obtain ⟨above, rfl⟩ := h
  exact outer_append above ys

theorem length_outer {α : Type} (count : Nat) (xs : List α) : (outer count xs).length ≤ count := by
  rw [outer, List.length_drop]
  omega

/-- Loading a template is beside the pass. -/
theorem aloof_prepared (v : View) (name : Text) : Keeps Aloof (prepared v name) :=
  (aloof_checkNesting name).bind fun _ => aloof_load name

theorem evaluateWith_eq (v : View) (inner : Inner) (name : Text) (data : List (Value × Value)) :
    evaluateWith v inner name data =
      prepared v name >>= fun loaded => enclosed name (runProgram v inner loaded.program data) := by
  simp only [evaluateWith, prepared, bind_assoc]

/-- The program of a template leaves the output of the template standing, unless a closer discards it or a page is
rendered inside. -/
theorem stands_runProgram (v : View) (levels : Nat) (name : Text) (program : List Script.Located)
    (data : List (Value × Value)) (s : State) :
    let f := (runFrom (runProgram v (innerAt v levels) program data) (s.begun name)).2
    s.disk.log <+: f.disk.log ∧ (¬ Crossed s f → 0 < f.pass.nesting →
      f.pass.nesting = s.pass.nesting + 1 ∧ Stands s.pass.captures f) := by
  intro f
  have hinside : Inside s.pass.captures (s.begun name) f :=
    (Stepwise.runProgram program data).keeps (inside_elementary
      (fun name data s => ((restores_innerAt levels).1 name data s).inside)
      fun id s => ((restores_innerAt levels).2 id s).inside) (s.begun name)
  refine ⟨hinside.log, fun hc hn => ⟨?_, ?_⟩⟩
  · have hnesting : f.pass.nesting = s.pass.nesting + 1 ∨ f.pass.nesting ≤ 0 := hinside.nesting
    omega
  · rcases hinside.stands ⟨[], _, rfl, rfl⟩ with h | h | h
    · exact h
    · exact absurd h hc
    · omega

/-- A template that fails leaves the pass as where it failed, with captures, nesting and loops restored. -/
theorem evaluateWith_abandoned (levels : Nat)
    (h : runFrom (evaluateWith v (innerAt v levels) name data) s = (.error e, w)) (hc : ¬ Crossed s w)
    (hn : 0 ≤ w.pass.nesting) :
    ∃ f, FailsAt v (innerAt v levels) name data s e f ∧ Abandoned s.pass f.pass w.pass := by
  have haloof := aloof_prepared v name s
  rw [evaluateWith_eq, runFrom_bind] at h
  rcases hp : runFrom (prepared v name) s with ⟨e' | loaded, t⟩
  · rw [hp] at h haloof
    cases h
    refine ⟨w, .loading hp, ?_⟩
    rw [show w.pass = s.pass from haloof.pass]
    exact .self _
  · rw [hp] at h haloof
    dsimp only at h haloof
    rw [runFrom_enclosed] at h
    obtain ⟨hlog, hstands⟩ := stands_runProgram v levels name loaded.program data t
    rcases hr : runFrom (runProgram v (innerAt v levels) loaded.program data) (t.begun name) with ⟨e' | u, f⟩
    · rw [hr] at h hlog hstands
      cases h
      have hcrossed : ¬ Crossed t f := fun hc' => hc (hc'.behind haloof.log)
      have hpositive : 0 < f.pass.nesting := by
        change 0 ≤ f.pass.nesting - 1 at hn
        omega
      obtain ⟨hnesting, above, c, -, hcaptures⟩ := hstands hcrossed hpositive
      have hpass := haloof.pass
      refine ⟨f, .running hp hr, ?_, ?_, ?_, ?_, rfl, rfl, rfl⟩
      · change outer t.pass.captures.length f.pass.captures = s.pass.captures
        dsimp only at hcaptures
        rw [hcaptures, List.append_cons, outer_append, hpass]
      · change f.pass.nesting - 1 = s.pass.nesting
        dsimp only at hnesting
        rw [hnesting, hpass, Int.add_sub_cancel]
      · intro hloops
        change outer t.pass.loops.length f.pass.loops = s.pass.loops
        rw [hpass]
        exact outer_of_suffix hloops
      · change (outer t.pass.loops.length f.pass.loops).length ≤ s.pass.loops.length
        rw [← hpass]
        exact length_outer _ _
    · -- the program ended well, so the template's output is there to be taken
      rw [hr] at h hlog hstands
      dsimp only at h hlog hstands
      have hsteady : Steady (f.nested (-1)) w := by
        have := steady_collect name t.pass.captures.length (f.nested (-1))
        rwa [h] at this
      have hnesting : w.pass.nesting = f.pass.nesting - 1 := hsteady.nesting
      have hcrossed : ¬ Crossed t f := fun hc' => hc ((hc'.behind haloof.log).then hsteady.log)
      obtain ⟨-, above, c, -, hcaptures⟩ := hstands hcrossed (by omega)
      rw [runFrom_collect (s := f.nested (-1)) hcaptures] at h
      cases h

/-! ## Components that fail -/

/-- Attaches the component of a capture and fills its default slot. -/
def fill (capture : Capture) : Run Nat := do
  let id := capture.component.getD 0
  modifyComponent id fun c => { c with attached := true }
  modifyBag id fun b => b.setSlot (.str "default") (.markup capture.text)
  return id

theorem fillAndRender_eq (v : View) (inner : Inner) (capture : Capture) :
    fillAndRender v inner capture = fill capture >>= renderComponent v inner := by
  simp only [fillAndRender, fill, bind_assoc, pure_bind]

/-- A change beside the pass and the log. -/
theorem aloof_modify {g : State → State} (hp : ∀ s, (g s).pass = s.pass) (hd : ∀ s, (g s).disk = s.disk) :
    Keeps Aloof (modify g : Run PUnit) := fun s => ⟨hp s, by simp only [runFrom_modify, hd, List.prefix_rfl]⟩

@[simp] theorem runFrom_component (id : Nat) (s : State) : runFrom (component id) s = (.ok (s.component id), s) := rfl

theorem aloof_component (id : Nat) : Keeps Aloof (component id) := Keeps.get.bind fun _ => Keeps.pure _

/-- Filling a component's default slot is beside the pass. -/
theorem aloof_fill (capture : Capture) : Keeps Aloof (fill capture) := by
  have hmodify : ∀ id f, Keeps Aloof (modifyComponent id f) := fun id f => aloof_modify (fun _ => rfl) fun _ => rfl
  have hset : ∀ id bag, Keeps Aloof (setBag id bag) := by
    refine fun id bag => (hmodify id _).bind fun _ => ?_
    cases bag.who with
    | none => exact Keeps.pure _
    | some who => exact aloof_modify (fun _ => rfl) fun _ => rfl
  have hbag : ∀ id f, Keeps Aloof (modifyBag id f) := by
    refine fun id f => (aloof_component id).bind fun c => ?_
    cases f c.toBag with
    | error fault => exact Keeps.bind (Keeps.throw _) fun _ => hset id _
    | ok bag => exact (Keeps.pure bag).bind fun _ => hset id _
  exact (hmodify _ _).bind fun _ => (hbag _ _).bind fun _ => Keeps.pure _

/-- Telling of a failed component is beside the pass. -/
theorem aloof_componentFailed (v : View) (id : Nat) (e : Error) : Keeps Aloof (componentFailed v id e) := by
  have hreported : ∀ message, Keeps Aloof (report .error message true) :=
    fun message s => ⟨rfl, List.prefix_append _ _⟩
  cases e with
  | compile | component => exact Keeps.throw _
  | _ => exact (aloof_component id).bind fun c => (hreported _).bind fun _ => Keeps.pure _

/-- The names that a component's template knows are always found. -/
theorem runFrom_viewData (id : Nat) (s : State) :
    ∃ data t, runFrom (viewData id) s = (.ok data, t) ∧ Aloof s t := by
  have hsettle : ∀ w, ∃ w' t, runFrom (settle w) s = (.ok w', t) ∧ Aloof s t := by
    intro w
    unfold settle
    split
    · exact ⟨_, _, rfl, refl s⟩
    · exact ⟨_, _, rfl, rfl, List.prefix_rfl⟩
  obtain ⟨slots, t, hslots, ht⟩ := hsettle (.dict (s.component id).slots none)
  unfold viewData
  rw [runFrom_bind, runFrom_component]
  dsimp only
  rw [runFrom_bind_ok hslots]
  exact ⟨_, t, rfl, ht⟩

/-- A component whose template fails: the error comes out of the template with its data. -/
theorem renderTemplate_eq_error {inner : Inner} (h : runFrom (renderTemplate inner id) s = (.error e, w))
    (he : e.isForPage = false) :
    ∃ data t, runFrom (viewData id) s = (.ok data, t) ∧ Aloof s t ∧
      runFrom (inner.evaluate (s.component id).view data) t = (.error e, w) := by
  obtain ⟨data, t, hdata, ht⟩ := runFrom_viewData id s
  refine ⟨data, t, hdata, ht, ?_⟩
  unfold renderTemplate at h
  rw [runFrom_bind, runFrom_component] at h
  dsimp only at h
  split at h
  · cases h
    cases he
  · rw [runFrom_bind_ok hdata, runFrom_bind] at h
    rcases hr : runFrom (inner.evaluate (s.component id).view data) t with ⟨e' | text, t'⟩
    · rw [hr] at h
      cases h
      rfl
    · rw [hr] at h
      cases h

/-- A component whose text fails with an error that is not for the page gives its fragment, beside the pass. -/
theorem closeComponent_absorbs {s₁ s₂ : State} (htake : runFrom takeComponent s = (.ok (some c), s₁))
    (hfill : runFrom (fill c) s₁ = (.ok id, s₂)) (hfails : runFrom (componentText inner id) s₂ = (.error e, w))
    (hcaught : e.isForPage = false) :
    ∃ u, runFrom (closeComponent v inner) s =
      (.ok (.str (failureFragment (showsErrors v (w.component id)) e.message)), u) ∧ Aloof w u := by
  obtain ⟨u, hu⟩ := (runFrom_componentFailed v id e w).2 hcaught
  refine ⟨u, ?_, ?_⟩
  · rw [closeComponent, runFrom_bind_ok htake]
    dsimp only
    rw [fillAndRender_eq, runFrom_bind_ok hfill, renderComponent_eq, runFrom_tryCatch, hfails]
    exact hu
  · have := aloof_componentFailed v id e w
    rwa [hu] at this

/-- **What a failed component leaves behind.**  A closer takes a component, and its template fails with an error that is
not for the page: then the fragment stands in its place.  Captures and nesting are as right behind the capture of the
component, and so are the loops unless the template has closed one around it; sections, pushes and the layout are those
of the state in which the error came out of the template.  This holds unless a closer inside has discarded the output of
a template, which is reported, or a page was rendered inside, which begins its nesting anew. -/
theorem closeComponent_abandoned (v : View) (levels : Nat) {s s₁ s₂ w : State} {c : Capture} {id : Nat} {e : Error}
    (htake : runFrom takeComponent s = (.ok (some c), s₁)) (hfill : runFrom (fill c) s₁ = (.ok id, s₂))
    (hview : (s₂.component id).view ≠ [])
    (hfails : runFrom (componentText (innerAt v (levels + 1)) id) s₂ = (.error e, w)) (hcaught : e.isForPage = false) :
    ∃ u, runFrom (closeComponent v (innerAt v (levels + 1))) s =
        (.ok (.str (failureFragment (showsErrors v (w.component id)) e.message)), u) ∧
      (¬ Crossed s₁ w → 0 ≤ w.pass.nesting → ∃ data s₃ f, runFrom (viewData id) s₂ = (.ok data, s₃) ∧
        FailsAt v (innerAt v levels) (s₂.component id).view data s₃ e f ∧ Abandoned s₁.pass f.pass u.pass) := by
  obtain ⟨u, hu, hreport⟩ := closeComponent_absorbs htake hfill hfails hcaught
  refine ⟨u, hu, fun hc hn => ?_⟩
  have hs₂ : Aloof s₁ s₂ := by
    have := aloof_fill c s₁
    rwa [hfill] at this
  have htemplate : runFrom (renderTemplate (innerAt v (levels + 1)) id) s₂ = (.error e, w) := by
    rw [componentText, runFrom_bind, runFrom_component] at hfails
    dsimp only at hfails
    rwa [if_neg (by simpa using hview)] at hfails
  obtain ⟨data, s₃, hdata, hs₃, hevaluate⟩ := renderTemplate_eq_error htemplate hcaught
  have hbefore : Aloof s₁ s₃ := IsTrans.trans _ _ _ hs₂ hs₃
  have hcrossed : ¬ Crossed s₃ w := fun h => hc (h.behind hbefore.log)
  obtain ⟨f, hf, habandoned⟩ := evaluateWith_abandoned levels hevaluate hcrossed hn
  rw [← hreport.pass, hbefore.pass] at habandoned
  exact ⟨data, s₃, f, hdata, hf, habandoned⟩

/-! ## A component that fails behind a section -/

/-- The template of a component defines a section and then shows a name that is not bound; it is compiled already. -/
def cardFiles : Files where
  entries := [(["app"], .directory), (["app", "components"], .directory), (["app", "cache"], .directory),
    (["app", "components", "card.html"], .file "@section('a')x@endsection\x7b\x7b missing \x7d\x7d" 0),
    (["app", "cache", "manifest.json"], .file "\x7b\"components.card\": \x7b\x7d\x7d" 0),
    (["app", "cache", "0e0c3ca7063ddeaa309f204b0bf2e12575e77ed8f20e608c93f6bac13c3064ee.py"], .file
      "_view.start_section('a')\n_echo('x')\n_view.end_section()\n_echo(_e(missing))\n" 0)]

/-- The capture of the component. -/
def cardCapture : Capture := ⟨.component, .str "card", some 0, []⟩

/-- A page in which the component is open. -/
def openCard : State where
  disk := { files := cardFiles }
  pass := { captures := [cardCapture] }
  components := #[{ cls := .anonymous "components.card" }]

/-- The page with the capture of the component taken and its default slot filled. -/
def filledCard : State := (runFrom (fill cardCapture) (openCard.over [])).2

/-- What the template of the component knows, beside no data. -/
def cardData : List (Value × Value) :=
  let slots := (runFrom (settle (.dict [(.str "default", .markup [])] none)) filledCard).1
  [(.str "slots", slots.toOption.getD .null), (.str "component", .component 0 "AnonymousComponent"),
    (.str "slot", .slot .accessor 0), (.str "has_slot", .slot .probe 0), (.str "unescaped_slot", .slot .raw 0)]

/-- Entries whose keys are different texts become the data of a component without any. -/
theorem runFrom_viewData_filledCard :
    runFrom (viewData 0) filledCard = (.ok cardData, { filledCard with births := 1 }) := by
  have hmerge : (Bag.merge {} cardData).data = cardData := by
    simp [cardData, Bag.merge, Value.bind, Value.alike_str, Value.text?]
  exact Prod.ext (congrArg Except.ok hmerge) rfl

/-- The template fails behind its section. -/
theorem componentText_filledCard : ∃ e w, runFrom (componentText plainView.inner 0) filledCard = (.error e, w) ∧
    e.isForPage = false ∧ w.disk.log.length = 0 ∧ w.pass.nesting = 0 ∧ w.pass.sections.map Prod.snd = [['x']] := by
  have hevaluate : ∃ e w,
      runFrom (plainView.inner.evaluate "components.card" cardData) { filledCard with births := 1 } = (.error e, w) ∧
        e.isForPage = false ∧ w.disk.log.length = 0 ∧ w.pass.nesting = 0 ∧ w.pass.sections.map Prod.snd = [['x']] := by
    let r := runFrom (plainView.inner.evaluate "components.card" cardData) { filledCard with births := 1 }
    have hfails : (match r.1 with | .error e => e.isForPage | .ok _ => true) = false ∧
        r.2.disk.log.length = 0 ∧ r.2.pass.nesting = 0 ∧ r.2.pass.sections.map Prod.snd = [['x']] := by decide +kernel
    change ∃ e w, r = (.error e, w) ∧ _
    obtain ⟨e | text, w⟩ := r
    · exact ⟨e, w, rfl, hfails⟩
    · cases hfails.1
  obtain ⟨e, w, hevaluate, hrest⟩ := hevaluate
  refine ⟨e, w, ?_, hrest⟩
  have hview : (filledCard.component 0).view = "components.card" := rfl
  have hattached : (filledCard.component 0).attached = true := rfl
  rw [componentText, runFrom_bind, runFrom_component]
  dsimp only
  rw [if_neg (by decide), renderTemplate, runFrom_bind, runFrom_component]
  dsimp only
  rw [if_neg (by simp [hattached]), runFrom_bind_ok runFrom_viewData_filledCard, hview, runFrom_bind_error hevaluate]

/-- The captures, the nesting and the loops are those behind the capture of the component. -/
theorem closeComponent_abandoned_openCard : ∃ text u,
    runFrom (closeComponent plainView plainView.inner) openCard = (.ok (.str text), u) ∧
      u.pass.captures = [] ∧ u.pass.nesting = 0 ∧ u.pass.loops = [] := by
  obtain ⟨e, w, hfails, hcaught, hlog, hnesting, -⟩ := componentText_filledCard
  have htake : runFrom takeComponent openCard = (.ok (some cardCapture), openCard.over []) := rfl
  have hfill : runFrom (fill cardCapture) (openCard.over []) = (.ok 0, filledCard) := rfl
  obtain ⟨u, hu, hleft⟩ := closeComponent_abandoned plainView 1099 htake hfill (by decide) hfails hcaught
  obtain ⟨data, s₃, f, -, -, habandoned⟩ := hleft (not_crossed hlog) (Int.le_of_eq hnesting.symm)
  have hloops : u.pass.loops.length = 0 := Nat.le_zero.mp habandoned.fewer
  exact ⟨_, u, hu, habandoned.captures, habandoned.nesting, List.eq_nil_of_length_eq_zero hloops⟩

/-- The section that the template has defined stays beside the fragment. -/
theorem section_left : ∃ u,
    runFrom (closeComponent plainView plainView.inner) openCard =
      (.ok (.str "<div class=\"component-error\">Component rendering failed</div>"), u) ∧
    (runFrom takeComponent openCard).2.pass.sections = [] ∧ u.pass.sections ≠ [] := by
  obtain ⟨e, w, hfails, hcaught, -, -, hsections⟩ := componentText_filledCard
  have htake : runFrom takeComponent openCard = (.ok (some cardCapture), openCard.over []) := rfl
  have hfill : runFrom (fill cardCapture) (openCard.over []) = (.ok 0, filledCard) := rfl
  obtain ⟨u, hu, haloof⟩ := closeComponent_absorbs (v := plainView) htake hfill hfails hcaught
  have hquiet : showsErrors plainView (w.component 0) = false := Bool.and_false _
  rw [hquiet] at hu
  refine ⟨u, hu, rfl, fun h => ?_⟩
  rw [haloof.pass] at h
  rw [h] at hsections
  cases hsections

end Stencil.Run
