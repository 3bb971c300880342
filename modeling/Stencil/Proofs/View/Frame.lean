import Stencil.Proofs.Store.Elementary
import Stencil.Proofs.View.Capture
import Stencil.Proofs.View.Statement

/-!
# The captures around a template

All templates of a page share one stack of captures.  Evaluating a template gives the captures around it back as they
were, unless a closer inside finds its component outside of a template: then the closer takes the output of that template
and the component of another one with it, and reports so.

* `Crossing` — the report of a closer that discards the output of a template.
* `Stands base` — above the captures `base` there is the output of a template, whatever is open inside it.
* `Inside base` — what the steps of a template's program do to the captures `base` around it.
* `Restores` — what evaluating a template does to the captures around it.
* `restores_innerAt`, `evaluate_restores` — evaluating a template restores the captures around it, however it ends.
-/

namespace Stencil.Run

variable {v : View} {inner : Inner} {α : Type} {base : List Capture} {s t u : State}

/-! ## Reports -/

/-- The report of a closer that discards the output of a template. -/
def Crossing (r : Record) : Prop :=
  ∃ inside : List Capture, (∃ c ∈ inside, c.kind = .template) ∧
    r.message = "Discarding unclosed " ++ kindsOf inside ++ " output inside component"

/-- Between two states a closer has discarded the output of a template. -/
def Crossed (s t : State) : Prop := ∃ new, t.disk.log = s.disk.log ++ new ∧ ∃ r ∈ new, Crossing r

theorem Crossed.then (h : Crossed s t) (hl : t.disk.log <+: u.disk.log) : Crossed s u := by
  obtain ⟨new, hnew, r, hr, hc⟩ := h
  obtain ⟨more, hmore⟩ := hl
  refine ⟨new ++ more, ?_, r, List.mem_append_left _ hr, hc⟩
  rw [← hmore, hnew, List.append_assoc]

theorem Crossed.behind (h : Crossed t u) (hl : s.disk.log <+: t.disk.log) : Crossed s u := by
  obtain ⟨new, hnew, r, hr, hc⟩ := h
  obtain ⟨before, hbefore⟩ := hl
  refine ⟨before ++ new, ?_, r, List.mem_append_right _ hr, hc⟩
  rw [hnew, ← hbefore, List.append_assoc]

/-- Nothing has been reported. -/
theorem not_crossed (h : t.disk.log.length = s.disk.log.length) : ¬ Crossed s t := by
  rintro ⟨new, hnew, r, hr, -⟩
  rw [hnew, List.length_append] at h
  have : new.length = 0 := by omega
  rw [List.eq_nil_of_length_eq_zero this] at hr
  cases hr

/-! ## Steps beside the pass -/

/-- The pass is the same, and what is reported is added to the log. -/
structure Aloof (s t : State) : Prop where
  pass : t.pass = s.pass
  log : s.disk.log <+: t.disk.log

instance : IsPreorder State Aloof where
  refl _ := ⟨rfl, List.prefix_rfl⟩
  trans _ _ _ h h' := ⟨h'.pass.trans h.pass, h.log.trans h'.log⟩

/-- Work on the store only adds to the log. -/
theorem log_worked {st : Store} {act : Work α} (h : Store.Worked st (fun _ _ => True) act) :
    Keeps (fun d d' : Disk => d.log <+: d'.log) act := by
  have : IsPreorder Disk fun d d' => d.log <+: d'.log :=
    { refl := fun _ => List.prefix_rfl, trans := fun _ _ _ => List.IsPrefix.trans }
  refine h.keeps fun hact => ?_
  cases hact with
  | look => exact Keeps.get
  | report level message => exact fun d => List.prefix_append _ _
  | change f hf =>
    exact (Store.keeps_ask f).bind fun files => fun d => List.prefix_rfl
  | drop f hf => exact fun d => List.prefix_rfl
  | load name =>
    have hread : ∀ time, Keeps (fun d d' : Disk => d.log <+: d'.log) (Store.load.readProgram name (st.artifactPath name) time) := by
      refine fun time => (Store.keeps_ask _).bind fun text => ?_
      split
      · exact Keeps.throw _
      · exact Keeps.get.bind fun _ => Keeps.bind (x := modify _) (fun _ => List.prefix_rfl) fun _ => Keeps.pure _
    refine (Store.keeps_ask _).bind fun e => Keeps.get.bind fun d => ?_
    split
    · split
      · exact Keeps.pure _
      · exact hread _
    · exact hread _

theorem aloof_work {st : Store} {act : Work α} (h : Store.Worked st (fun _ _ => True) act) : Keeps Aloof (work act) :=
  fun s => ⟨rfl, log_worked h s.disk⟩

theorem aloof_compiling (act : Compiler.Compile α) : Keeps Aloof (compiling act) :=
  fun _ => ⟨rfl, List.prefix_append _ _⟩

theorem aloof_source (name : Text) : Keeps Aloof (source v name) := by
  refine Keeps.get.bind fun s => ?_
  split
  · exact Keeps.throw _
  · exact Keeps.bind (x := modify _) (fun s => ⟨rfl, List.prefix_append _ _⟩) fun _ => Keeps.pure _

theorem aloof_compileTemplate (name : Text) : Keeps Aloof (compileTemplate v name) := by
  refine (aloof_source name).bind fun _ => Keeps.get.bind fun _ => (aloof_compiling _).bind fun _ => ?_
  exact Keeps.get.bind fun _ => (aloof_work (.write _ _ _ fun _ => trivial)).bind fun _ => Keeps.pure _

theorem aloof_load (name : Text) : Keeps Aloof (load v name) := by
  refine (aloof_work (.isFresh name)).bind fun fresh => ?_
  split
  · exact (aloof_compileTemplate name).bind fun _ => aloof_work (.load name)
  · exact aloof_work (.load name)

theorem aloof_clearStore : Keeps Aloof (clearStore v) :=
  Keeps.bind (x := modify _) (fun _ => ⟨rfl, List.prefix_rfl⟩) fun _ => aloof_work .clear

theorem aloof_checkNesting (name : Text) : Keeps Aloof (checkNesting v name) := by
  refine (Keeps.get.bind fun _ => Keeps.pure _ : Keeps Aloof pass).bind fun p => ?_
  split
  · exact Keeps.throw _
  · exact Keeps.pure _

/-! ## Inside a template -/

/-- Above the captures `base` there is the output of a template, whatever is open inside it. -/
def Stands (base : List Capture) (s : State) : Prop :=
  ∃ above c, c.kind = .template ∧ s.pass.captures = above ++ c :: base

/-- What a step of a template's program does to the captures `base` around the template.  A page that is rendered inside
begins with nothing nested, which shows in the nesting from then on. -/
structure Inside (base : List Capture) (s t : State) : Prop where
  log : s.disk.log <+: t.disk.log
  nesting : t.pass.nesting = s.pass.nesting ∨ t.pass.nesting ≤ 0
  stands : Stands base s → Stands base t ∨ Crossed s t ∨ t.pass.nesting ≤ 0

instance : IsPreorder State (Inside base) where
  refl _ := ⟨List.prefix_rfl, .inl rfl, .inl⟩
  trans s t u h h' := by
    refine ⟨h.log.trans h'.log, ?_, fun hs => ?_⟩
    · have := h.nesting
      have := h'.nesting
      omega
    · rcases h.stands hs with hs | hc | hn
      · rcases h'.stands hs with hs | hc | hn
        · exact .inl hs
        · exact .inr (.inl (hc.behind h.log))
        · exact .inr (.inr hn)
      · exact .inr (.inl (hc.then h'.log))
      · have := h'.nesting
        exact .inr (.inr (by omega))

/-- A step that leaves the captures, the nesting and the log alone. -/
theorem inside_of_same (hl : s.disk.log <+: t.disk.log) (hc : t.pass.captures = s.pass.captures)
    (hn : t.pass.nesting = s.pass.nesting) : Inside base s t := by
  refine ⟨hl, .inl hn, fun hs => .inl ?_⟩
  rw [Stands, hc]
  exact hs

theorem Aloof.inside (h : Aloof s t) : Inside base s t := inside_of_same h.log (by rw [h.pass]) (by rw [h.pass])

theorem inside_print (text : Text) : Keeps (Inside base) (print text) := by
  intro s
  cases hcaptures : s.pass.captures with
  | nil =>
    rw [runFrom_print_nil hcaptures]
    exact refl s
  | cons top rest =>
    rw [runFrom_print hcaptures]
    refine ⟨List.prefix_rfl, .inl rfl, fun ⟨above, c, hc, hs⟩ => .inl ?_⟩
    rw [hcaptures] at hs
    cases above with
    | nil =>
      obtain ⟨rfl, rfl⟩ := List.cons.inj hs
      exact ⟨[], { top with text := top.text ++ text }, hc, rfl⟩
    | cons a above =>
      obtain ⟨rfl, rfl⟩ := List.cons.inj hs
      exact ⟨{ top with text := top.text ++ text } :: above, c, hc, rfl⟩

theorem inside_openCapture (kind : CaptureKind) (name : Value) (component : Option Nat) :
    Keeps (Inside base) (openCapture kind name component) := by
  intro s
  refine ⟨List.prefix_rfl, .inl rfl, fun ⟨above, c, hc, hs⟩ => .inl ?_⟩
  refine ⟨{ kind, name, component } :: above, c, hc, ?_⟩
  rw [runFrom_openCapture, State.over_captures, hs, List.cons_append]

/-- Closing a section, a push or a slot never closes a template. -/
theorem inside_closeCapture {kind : CaptureKind} (hk : kind ≠ .template) (directive : Text) :
    Keeps (Inside base) (closeCapture kind directive) := by
  intro s
  by_cases htop : ∃ top rest, s.pass.captures = top :: rest ∧ top.kind = kind
  · obtain ⟨top, rest, hcaptures, rfl⟩ := htop
    rw [runFrom_closeCapture hcaptures]
    refine ⟨List.prefix_rfl, .inl rfl, fun ⟨above, c, hc, hs⟩ => .inl ?_⟩
    rw [hcaptures] at hs
    cases above with
    | nil =>
      obtain ⟨rfl, rfl⟩ := List.cons.inj hs
      exact absurd hc hk
    | cons a above =>
      obtain ⟨rfl, rfl⟩ := List.cons.inj hs
      exact ⟨above, c, hc, rfl⟩
  · have hstray : ∀ c ∈ s.pass.captures.head?, c.kind ≠ kind := by
      intro c hc hck
      obtain ⟨rest, hrest⟩ := List.head?_eq_some_iff.mp hc
      exact htop ⟨c, rest, hrest, hck⟩
    rw [runFrom_closeCapture_stray hstray]
    exact inside_of_same (List.prefix_append _ _) rfl rfl

/-- The closer of components takes a component of the template itself, or finds none, or takes the output of the template
along, which it reports. -/
theorem inside_takeComponent : Keeps (Inside base) takeComponent := by
  intro s
  cases hsplit : splitAtComponent s.pass.captures with
  | none =>
    rw [runFrom_takeComponent_stray (splitAtComponent_eq_none.mp hsplit)]
    exact inside_of_same (List.prefix_append _ _) rfl rfl
  | some found =>
    obtain ⟨inside, found, around⟩ := found
    obtain ⟨hcaptures, hfound, hinside⟩ := splitAtComponent_eq_some.mp hsplit
    rw [runFrom_takeComponent hcaptures hfound hinside]
    refine ⟨?_, ?_, fun ⟨above, c, hc, hs⟩ => ?_⟩
    · split
      · exact List.prefix_rfl
      · exact List.prefix_append _ _
    · split <;> exact .inl rfl
    · rw [hcaptures] at hs
      rcases List.append_eq_append_iff.mp hs with ⟨mid, habove, hrest⟩ | ⟨mid, rfl, hrest⟩
      · -- the component was opened inside the template
        cases mid with
        | nil =>
          obtain ⟨rfl, -⟩ := List.cons.inj hrest
          rw [hfound] at hc
          cases hc
        | cons m mid =>
          obtain ⟨-, rfl⟩ := List.cons.inj hrest
          exact .inl ⟨mid, c, hc, rfl⟩
      · -- the component is one around the template
        cases mid with
        | nil =>
          obtain ⟨rfl, -⟩ := List.cons.inj hrest
          rw [hfound] at hc
          cases hc
        | cons m mid =>
          obtain ⟨rfl, -⟩ := List.cons.inj hrest
          refine .inr (.inl ⟨[⟨.warning, _, false⟩], ?_, _, List.mem_singleton_self _, above ++ c :: mid, ⟨c, by simp, hc⟩, rfl⟩)
          rw [if_neg (by simp)]
          rfl

/-! ## Templates -/

/-- What evaluating a template does to the captures around it. -/
structure Restores (s t : State) : Prop where
  log : s.disk.log <+: t.disk.log
  nesting : t.pass.nesting = s.pass.nesting ∨ t.pass.nesting < 0
  captures : t.pass.captures = s.pass.captures ∨ Crossed s t ∨ t.pass.nesting < 0

instance : IsPreorder State Restores where
  refl _ := ⟨List.prefix_rfl, .inl rfl, .inl rfl⟩
  trans s t u h h' := by
    have hn := h.nesting
    have hn' := h'.nesting
    refine ⟨h.log.trans h'.log, by omega, ?_⟩
    rcases h'.captures with hc' | hc' | hc'
    · rcases h.captures with hc | hc | hc
      · exact .inl (hc'.trans hc)
      · exact .inr (.inl (hc.then h'.log))
      · exact .inr (.inr (by omega))
    · exact .inr (.inl (hc'.behind h.log))
    · exact .inr (.inr hc')

theorem Aloof.restores (h : Aloof s t) : Restores s t := ⟨h.log, .inl (by rw [h.pass]), .inl (by rw [h.pass])⟩

/-- A template that is evaluated inside another one leaves what is around that one alone. -/
theorem Restores.inside (h : Restores s t) : Inside base s t := by
  have hn := h.nesting
  refine ⟨h.log, by omega, fun hs => ?_⟩
  rcases h.captures with hc | hc | hc
  · rw [Stands, hc]
    exact .inl hs
  · exact .inr (.inl hc)
  · exact .inr (.inr (by omega))

/-- Every elementary step of a program is `Inside` the captures around its template, if evaluating templates and
rendering components inside are. -/
theorem inside_elementary (he : ∀ name data, Keeps (Inside base) (inner.evaluate name data))
    (hr : ∀ id, Keeps (Inside base) (inner.render id)) {act : Run α} (h : Elementary v inner True act) :
    Keeps (Inside base) act := by
  cases h with
  | look => exact Keeps.get
  | beside f hf =>
    intro s
    have hcore := hf s
    simp only [State.core, Prod.mk.injEq] at hcore
    have hlog : s.disk.log = (f s).2.disk.log := congrArg Disk.log hcore.1.symm
    exact inside_of_same ⟨[], (List.append_nil _).trans hlog⟩ hcore.2.2.1 hcore.2.2.2
  | report level message traced => exact fun s => inside_of_same (List.prefix_append _ _) rfl rfl
  | print h text => exact inside_print text
  | openCapture h kind name component hk => exact inside_openCapture kind name component
  | closeCapture h kind directive hk => exact inside_closeCapture hk directive
  | takeComponent h => exact inside_takeComponent
  | reset h => exact fun s => ⟨List.prefix_rfl, .inr (Int.le_refl 0), fun _ => .inr (.inr (Int.le_refl 0))⟩
  | compile h name => exact fun s => (aloof_compileTemplate name s).inside
  | clear h => exact fun s => (aloof_clearStore s).inside
  | forget h name => exact fun s => (aloof_work (.forget name) s).inside
  | purge h age => exact fun s => (aloof_work (.purge age) s).inside
  | size h => exact fun s => (aloof_work .size s).inside
  | evaluate name data => exact he name data
  | render id => exact hr id

/-- The log grows, and the nesting is the same. -/
structure Steady (s t : State) : Prop where
  log : s.disk.log <+: t.disk.log
  nesting : t.pass.nesting = s.pass.nesting

instance : IsPreorder State Steady where
  refl _ := ⟨List.prefix_rfl, rfl⟩
  trans _ _ _ h h' := ⟨h.log.trans h'.log, h'.nesting.trans h.nesting⟩

theorem steady_collect (name : Text) (around : Nat) : Keeps Steady (collect name around) :=
  keeps_collect (fun _ => Keeps.modify fun _ => ⟨List.prefix_append _ _, rfl⟩)
    (fun _ => Keeps.modify fun _ => ⟨List.prefix_rfl, rfl⟩) name around

/-- Whether a program fails or not, the captures around its template are those around it before. -/
theorem restores_enclosed {act : Run Unit} (h : ∀ base, Keeps (Inside base) act) (name : Text) :
    Keeps Restores (enclosed name act) := by
  intro s
  have hin := h s.pass.captures (s.begun name)
  have hstands : Stands s.pass.captures (s.begun name) := ⟨[], _, rfl, rfl⟩
  rw [runFrom_enclosed]
  generalize runFrom act (s.begun name) = r at hin ⊢
  obtain ⟨e | u, t⟩ := r
  · change Inside s.pass.captures (s.begun name) t at hin
    change Restores s (t.cutTo s)
    have hn : t.pass.nesting = s.pass.nesting + 1 ∨ t.pass.nesting ≤ 0 := hin.nesting
    have hcut : (t.cutTo s).pass.nesting = t.pass.nesting - 1 := rfl
    refine ⟨hin.log, ?_, ?_⟩
    · rw [hcut]
      omega
    · rcases hin.stands hstands with ⟨above, c, hc, hs⟩ | hc | hn
      · left
        change outer s.pass.captures.length t.pass.captures = s.pass.captures
        rw [hs, ← List.singleton_append, ← List.append_assoc, outer_append]
      · exact .inr (.inl hc)
      · right; right
        rw [hcut]
        omega
  · change Inside s.pass.captures (s.begun name) t at hin
    change Restores s (runFrom (collect name s.pass.captures.length) (t.nested (-1))).2
    have hn : t.pass.nesting = s.pass.nesting + 1 ∨ t.pass.nesting ≤ 0 := hin.nesting
    have hsteady : Steady (t.nested (-1)) _ := steady_collect name s.pass.captures.length (t.nested (-1))
    have hnesting := hsteady.nesting
    rw [State.nested_nesting] at hnesting
    refine ⟨hin.log.trans hsteady.log, by omega, ?_⟩
    rcases hin.stands hstands with ⟨above, c, hc, hs⟩ | hc | hn
    · left
      rw [runFrom_collect (s := t.nested (-1)) hs]
      rfl
    · exact .inr (.inl (hc.then hsteady.log))
    · exact .inr (.inr (by omega))

/-- A calm step restores the captures, if evaluating templates and rendering components inside does. -/
theorem restores_calm (he : ∀ name data, Keeps Restores (inner.evaluate name data))
    (hr : ∀ id, Keeps Restores (inner.render id)) {act : Run α} (h : Calm v inner act) : Keeps Restores act := by
  refine h.keeps fun hact => ?_
  cases hact with
  | look => exact Keeps.get
  | beside f hf =>
    intro s
    have hcore := hf s
    simp only [State.core, Prod.mk.injEq] at hcore
    have hlog : s.disk.log = (f s).2.disk.log := congrArg Disk.log hcore.1.symm
    exact ⟨⟨[], (List.append_nil _).trans hlog⟩, .inl hcore.2.2.2, .inl hcore.2.2.1⟩
  | report level message traced => exact fun s => ⟨List.prefix_append _ _, .inl rfl, .inl rfl⟩
  | evaluate name data => exact he name data
  | render id => exact hr id
  | print h | openCapture h | closeCapture h | takeComponent h | reset h | compile h | clear h | forget h | purge h
  | size h => exact h.elim

/-- Evaluating templates and rendering components restores the captures around, on every level. -/
theorem restores_innerAt (levels : Nat) :
    (∀ name data, Keeps Restores ((innerAt v levels).evaluate name data)) ∧
    ∀ id, Keeps Restores ((innerAt v levels).render id) := by
  induction levels with
  | zero => exact ⟨fun _ _ => Keeps.throw _, fun _ => Keeps.throw _⟩
  | succ levels ih =>
    have hinside : ∀ {α : Type} {act : Run α} base, Stepwise v (innerAt v levels) act → Keeps (Inside base) act :=
      fun base h => h.keeps (inside_elementary (fun name data s => (ih.1 name data s).inside)
        fun id s => (ih.2 id s).inside)
    refine ⟨fun name data => ?_, fun id => restores_calm ih.1 ih.2 (Stepwise.renderComponent id)⟩
    refine Keeps.bind (fun s => (aloof_checkNesting name s).restores) fun _ => ?_
    refine Keeps.bind (fun s => (aloof_load name s).restores) fun loaded => ?_
    exact restores_enclosed (fun base => hinside base (.runProgram _ data)) name

/-- A closer of components leaves the output of the innermost template standing exactly if a component is open inside that
template, or none around it. -/
theorem stands_takeComponent_iff {above : List Capture} {c : Capture} (hc : c.kind = .template)
    (hs : s.pass.captures = above ++ c :: base) :
    Stands base (runFrom takeComponent s).2 ↔
      (∃ a ∈ above, a.kind = .component) ∨ ∀ k ∈ base, k.kind ≠ .component := by
  cases hsplit : splitAtComponent s.pass.captures with
  | none =>
    have hnone := splitAtComponent_eq_none.mp hsplit
    rw [runFrom_takeComponent_stray hnone]
    rw [hs] at hnone
    exact ⟨fun _ => .inr fun k hk => hnone k (by simp [hk]), fun _ => ⟨above, c, hc, hs⟩⟩
  | some found =>
    obtain ⟨inside, found, around⟩ := found
    obtain ⟨hcaptures, hfound, hinside⟩ := splitAtComponent_eq_some.mp hsplit
    rw [runFrom_takeComponent hcaptures hfound hinside]
    rw [hs] at hcaptures
    rcases List.append_eq_append_iff.mp hcaptures with ⟨mid, rfl, hrest⟩ | ⟨mid, rfl, hrest⟩
    · -- the component is one around the template
      cases mid with
      | nil =>
        obtain ⟨rfl, -⟩ := List.cons.inj hrest
        rw [hfound] at hc
        cases hc
      | cons m mid =>
        obtain ⟨-, hbase⟩ := List.cons.inj hrest
        change base = mid ++ found :: around at hbase
        constructor
        · rintro ⟨above', c', -, haround⟩
          have hlength := congrArg List.length haround
          rw [State.over_captures] at hlength
          simp only [hbase, List.length_append, List.length_cons] at hlength
          omega
        · rintro (⟨a, ha, hkind⟩ | hnone)
          · exact absurd hkind (hinside a (by simp [ha]))
          · exact absurd hfound (hnone found (by simp [hbase]))
    · -- the component was opened inside the template
      cases mid with
      | nil =>
        obtain ⟨rfl, -⟩ := List.cons.inj hrest
        rw [hfound] at hc
        cases hc
      | cons m mid =>
        obtain ⟨rfl, haround⟩ := List.cons.inj hrest
        exact ⟨fun _ => .inl ⟨_, by simp, hfound⟩, fun _ => ⟨mid, c, hc, haround⟩⟩

/-- **The captures around a template.**  However evaluating a template ends, the captures around it are the same ones with
the same texts, and so is the nesting, unless a closer has discarded the output of a template, which is reported, or a
page was rendered inside, which begins its nesting anew.  A closer discards the output of the innermost template exactly
if no component is open inside the template and one is open around it. -/
theorem evaluate_restores (v : View) (levels : Nat) (name : Text) (data : List (Value × Value)) (s : State) :
    let t := (runFrom (evaluateWith v (innerAt v levels) name data) s).2
    (¬ Crossed s t → 0 ≤ t.pass.nesting →
      t.pass.captures = s.pass.captures ∧ t.pass.nesting = s.pass.nesting) ∧
    ∀ (u : State) (above base : List Capture) (c : Capture), c.kind = .template → u.pass.captures = above ++ c :: base →
      (¬ Stands base (runFrom takeComponent u).2 ↔
        (∀ a ∈ above, a.kind ≠ .component) ∧ ∃ k ∈ base, k.kind = .component) := by
  intro t
  have hrestores : Restores s t := (restores_innerAt (levels + 1)).1 name data s
  refine ⟨fun hc hn => ?_, fun u above base c hc hs => ?_⟩
  · have hnesting := hrestores.nesting
    refine ⟨?_, by omega⟩
    rcases hrestores.captures with h | h | h
    · exact h
    · exact absurd h hc
    · omega
  · rw [stands_takeComponent_iff hc hs]
    simp

/-- A view without settings of its own. -/
def plainView : View where
  config := { app := ⟨[], ["app"]⟩ }
  finder := { app := ⟨[], ["app"]⟩ }
  registry := .standard
  components := {}
  context := {}

/-- A page with a push in which a component is open. -/
def openComponents : State where
  disk := { files := {} }
  pass := { captures := [⟨.component, .str "card", some 0, []⟩, ⟨.push, .str "outer", none, "kept"⟩] }
  components := #[{ cls := .anonymous "components.card" }]

/-- A template without a file leaves the captures of the page as they are. -/
theorem captures_kept_missing :
    (runFrom (evaluateWith plainView (innerAt plainView 1) "part" []) openComponents).2.pass.captures =
      openComponents.pass.captures := by
  have h := (evaluate_restores plainView 1 "part" [] openComponents).1
  exact (h (not_crossed (by decide +kernel)) (by decide +kernel)).1

/-- The program of a template that prints something and then closes a component that it has not opened. -/
def strayCloser : List Script.Located :=
  [(1, .eval (.call (.name "_echo") [.const (.str "x")] [])),
    (2, .eval (.call (.attribute (.name "_view") "render_component") [] []))]

/-- The template closes the component of the page, and discards the push along with it. -/
theorem captures_lost :
    (runFrom (enclosed "part" (runProgram plainView (innerAt plainView 0) strayCloser [])) openComponents).2.pass.captures
      = [] := by
  have hlength : (runFrom (enclosed "part" (runProgram plainView (innerAt plainView 0) strayCloser [])) openComponents
      ).2.pass.captures.length = 0 := by decide +kernel
  exact List.eq_nil_of_length_eq_zero hlength

end Stencil.Run
