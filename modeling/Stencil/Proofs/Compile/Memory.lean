import Stencil.Proofs.Compile.Visit

/-!
# What the compiler remembers

A result is remembered under source and name written one behind the other, so sources under different names can share a
key.  As long as those that do are translated to the same, a compiler that remembers answers what a visit answers.

* `Origin S m` — what is remembered comes from translating the sources under names in `S`.
* `Apart` — two sources under names have different keys, or are translated to the same.
* `Meets S around act spec` — below the templates `around` a step answers what `spec` says, and everything remembered
  behind it still comes from `S`.
* `compileAt_meets` — compiling answers what `visit` does.
-/

namespace Stencil.Compiler

variable {α β : Type} {registry : Registry} {S : Set (Text × Text)} {around : List Text}

/-- What is remembered under a key comes from translating a source under a name in `S` that has the key. -/
def Origin (registry : Registry) (S : Set (Text × Text)) (m : Memory) : Prop :=
  ∀ k found, m.results.get? k = some found →
    ∃ p ∈ S, key p.1 p.2 = k ∧ translation registry p.1 p.2 = .ok found

/-- Two sources under names have different keys, or are translated to the same. -/
def Apart (registry : Registry) (p q : Text × Text) : Prop :=
  key p.1 p.2 = key q.1 q.2 → translation registry p.1 p.2 = translation registry q.1 q.2

theorem Origin.mono {S T : Set (Text × Text)} {m : Memory} (h : Origin registry S m) (hST : S ⊆ T) :
    Origin registry T m := by
  intro k found hk
  obtain ⟨p, hp, hkey, hmade⟩ := h k found hk
  exact ⟨p, hST hp, hkey, hmade⟩

theorem origin_empty : Origin registry ∅ {} := by
  intro k found h
  simp [Table.get?] at h

theorem origin_clear {m : Memory} : Origin registry S m.clear := by
  intro k found h
  simp [Memory.clear, Table.get?] at h

/-- Below the templates `around`, a step answers what `spec` says and leaves everything remembered coming from `S`. -/
def Meets (registry : Registry) (S : Set (Text × Text)) (around : List Text) (act : Compile α)
    (spec : Except Error α) : Prop :=
  ∀ m, Origin registry S m → m.stack = around →
    Alike (runFrom act m).1 spec ∧ Origin registry S (runFrom act m).2 ∧ (runFrom act m).2.stack = around

namespace Meets

/-- A result that is known already. -/
theorem liftM (r : Except Error α) : Meets registry S around (liftM r : Compile α) r := by
  intro m hm hs
  rw [runFrom_liftM]
  exact ⟨.rfl, hm, hs⟩

/-- A change beside what is remembered and the stack. -/
theorem modify {f : Memory → Memory} (hr : ∀ m, (f m).results = m.results) (hs : ∀ m, (f m).stack = m.stack) :
    Meets registry S around (modify f : Compile PUnit) (.ok ⟨⟩) := by
  intro m hm hm'
  rw [runFrom_modify]
  refine ⟨.rfl, ?_, (hs m).trans hm'⟩
  rw [Origin, hr]
  exact hm

theorem bind {x : Compile α} {f : α → Compile β} {rx : Except Error α} {g : α → Except Error β}
    (hx : Meets registry S around x rx) (hf : ∀ a, rx = .ok a → Meets registry S around (f a) (g a)) :
    Meets registry S around (x >>= f) (rx >>= g) := by
  intro m hm hs
  obtain ⟨halike, horigin, hstack⟩ := hx m hm hs
  rw [runFrom_bind]
  rcases hr : runFrom x m with ⟨e | a, m'⟩ <;> rw [hr] at halike horigin hstack
  · obtain ⟨e', rfl, he⟩ := halike.error_left
    exact ⟨Alike.error_iff.mpr he, horigin, hstack⟩
  · have hrx : rx = .ok a := halike.ok_left
    rw [hrx]
    exact hf a hrx m' horigin hstack

/-- A step whose answer is known adds nothing to what is answered behind it. -/
theorem after {x : Compile α} {f : α → Compile β} {a : α} {spec : Except Error β}
    (hx : Meets registry S around x (.ok a)) (hf : Meets registry S around (f a) spec) :
    Meets registry S around (x >>= f) spec :=
  hx.bind (g := fun _ => spec) fun b hb => by rwa [← Except.ok.inj hb]

/-- A step behind that does not change the answer. -/
theorem behind {x : Compile α} {f : α → Compile α} {rx : Except Error α} (hx : Meets registry S around x rx)
    (hf : ∀ a, rx = .ok a → Meets registry S around (f a) (.ok a)) : Meets registry S around (x >>= f) rx := by
  have h := hx.bind (g := pure) hf
  rwa [bind_pure] at h

/-- A step that looks at the memory first. -/
theorem get {f : Memory → Compile α} {spec : Except Error α}
    (hf : ∀ m, Origin registry S m → Meets registry S around (f m) spec) :
    Meets registry S around (get >>= f) spec := by
  intro m hm hs
  rw [runFrom_bind, runFrom_get]
  exact hf m hm m hm hs

theorem forM {f : α → Compile PUnit} {g : α → Except Error PUnit} {l : List α}
    (hf : ∀ a, HasTurn g l a → Meets registry S around (f a) (g a)) : Meets registry S around (l.forM f) (l.forM g) := by
  induction l with
  | nil => exact Meets.liftM (.ok PUnit.unit)
  | cons a l ih =>
    refine (hf a ⟨[], l, rfl, by simp⟩).bind fun _ ha => ih fun b hb => hf b ?_
    obtain ⟨before, behind, rfl, hbefore⟩ := hb
    exact ⟨a :: before, behind, rfl, List.forall_mem_cons.mpr ⟨ha, hbefore⟩⟩

/-- A place that is filled in does not matter. -/
theorem located (template : Text) (i : Markup.Inclusion) {act : Compile α} {spec : Except Error α}
    (h : Meets registry S around act spec) : Meets registry S around (located template i act) spec := by
  intro m hm hs
  obtain ⟨halike, horigin, hstack⟩ := h m hm hs
  rw [Compiler.located, runFrom_tryCatch]
  rcases hr : runFrom act m with ⟨e | a, m'⟩ <;> rw [hr] at halike horigin hstack
  · obtain ⟨e', rfl, he⟩ := halike.error_left
    cases e with
    | compile e => exact ⟨Alike.error_iff.mpr he, horigin, hstack⟩
    | _ => exact ⟨Alike.error_iff.mpr he, horigin, hstack⟩
  · exact ⟨halike, horigin, hstack⟩

end Meets

/-- A template that is being compiled is on the stack, and comes off it. -/
theorem runFrom_whileOpen (name : Text) (act : Compile α) (m : Memory) :
    runFrom (whileOpen name act) m =
      ((runFrom act { m with stack := m.stack ++ [name] }).1,
        { (runFrom act { m with stack := m.stack ++ [name] }).2 with
          stack := (runFrom act { m with stack := m.stack ++ [name] }).2.stack.dropLast }) := rfl

namespace Meets

theorem whileOpen {name : Text} {act : Compile α} {spec : Except Error α}
    (h : Meets registry S (around ++ [name]) act spec) : Meets registry S around (whileOpen name act) spec := by
  intro m hm hs
  obtain ⟨halike, horigin, hstack⟩ := h { m with stack := m.stack ++ [name] } hm (by rw [hs])
  rw [runFrom_whileOpen]
  exact ⟨halike, horigin, by rw [hstack, List.dropLast_concat]⟩

end Meets

/-! ## The parts of compiling -/

theorem report_meets (level : Level) (message : Text) :
    Meets registry S around (report level message) (.ok ⟨⟩) :=
  Meets.modify (fun _ => rfl) fun _ => rfl

theorem checkClosed_meets (name : Text) :
    Meets registry S around (checkClosed name) (checkOutside around name) := by
  intro m hm hs
  simp only [checkClosed, checkOutside, runFrom_bind, runFrom_get, hs]
  split
  · exact ⟨.rfl, hm, hs⟩
  · exact ⟨.rfl, hm, hs⟩

/-- What is not refused is not among the templates around it. -/
theorem not_mem_of_checkOutside {around : List Text} {name : Text} {u : Unit} (h : checkOutside around name = .ok u) :
    name ∉ around := by
  intro hmem
  rw [checkOutside, if_pos hmem] at h
  cases h

variable {c : Compiler}

/-- A template that is translated has its includes looked at in document order, repeated ones as often as they occur. -/
theorem translate_meets {inner : Text → Compile Unit} {look : Text → Except Error Unit} {source name : Text}
    (h : ∀ n, HasTurn look (included c.registry source name) n → Meets registry S around (inner n) (look n)) :
    Meets registry S around (translate c inner source name) (do
      (included c.registry source name).forM look
      translation c.registry source name) := by
  have hforM : (included c.registry source name).forM look =
      (Markup.read c.registry name source).inclusions.forM fun i => look i.name := by
    rw [included, Markup.Reading.dependencies, forM_eraseDups]
    induction (Markup.read c.registry name source).inclusions with
    | nil => rfl
    | cons i l ih =>
      simp only [List.map_cons, List.forM, ih]
  rw [hforM]
  refine (report_meets _ _).after ?_
  refine (Meets.forM fun i hi => (h i.name ?_).located name i).bind fun _ _ => ?_
  · obtain ⟨before, behind, hsplit, hbefore⟩ := hi
    refine HasTurn.eraseDups ⟨before.map (·.name), behind.map (·.name), by rw [hsplit]; simp, ?_⟩
    simpa using hbefore
  · refine (Meets.liftM _).bind fun nodes _ => ?_
    refine (Meets.liftM _).bind fun b _ => ?_
    refine (Meets.liftM _).bind fun _ _ => ?_
    exact Meets.liftM (.ok _)

/-- What a source in `S` is translated to may be remembered. -/
theorem store_meets {source name : Text} {made : Compiled} (hmem : (source, name) ∈ S)
    (hmade : translation registry source name = .ok made) :
    Meets registry S around
      (modify fun m => { m with results := m.results.put (key source name) made } : Compile PUnit) (.ok ⟨⟩) := by
  intro m hm hs
  refine ⟨.rfl, ?_, hs⟩
  intro k found hk
  rw [runFrom_modify, Table.get?_put] at hk
  split at hk
  case isTrue hkey =>
    obtain rfl := Option.some.inj hk
    exact ⟨_, hmem, hkey, hmade⟩
  case isFalse => exact hm k found hk

/-- A remembered result stands for translating the source again, if what is remembered comes from sources that share
their key with this one only if they are translated to the same. -/
theorem remembered_meets {inner : Text → Compile Unit} {look : Text → Except Error Unit} {source name : Text}
    (hmem : (source, name) ∈ S) (hapart : ∀ p ∈ S, Apart c.registry p (source, name))
    (h : ∀ n, HasTurn look (included c.registry source name) n → Meets c.registry S around (inner n) (look n)) :
    Meets c.registry S around (remembered c inner source name) (do
      (included c.registry source name).forM look
      translation c.registry source name) := by
  refine Meets.get fun m hm => ?_
  cases hfound : m.results.get? (key source name) with
  | some found =>
    obtain ⟨p, hp, hkey, hmade⟩ := hm _ _ hfound
    have hsame : translation c.registry source name = .ok found := by rw [← hapart p hp hkey, hmade]
    refine (report_meets _ _).after ?_
    rw [hsame, ← dependencies_of_translation hsame]
    rw [← dependencies_of_translation hsame] at h
    exact (Meets.forM h).bind fun _ _ => Meets.liftM (.ok found)
  | none =>
    refine (translate_meets h).behind fun made hmade => ?_
    obtain ⟨-, -, hmade⟩ := bind_eq_ok.mp hmade
    exact (store_meets hmem hmade).after (Meets.liftM (.ok made))

/-- A compilation together with the names that the template includes. -/
def answered (act : Compile Text) : Compile Compiled := do
  let program ← act
  return { program, dependencies := (← get).dependencies }

theorem runFrom_answered (act : Compile Text) (m : Memory) :
    runFrom (answered act) m =
      ((runFrom act m).1.map fun program => { program, dependencies := (runFrom act m).2.dependencies },
        (runFrom act m).2) := by
  rw [answered, runFrom_bind]
  rcases runFrom act m with ⟨e | program, m'⟩ <;> rfl

/-- Loading an included template and compiling it answers what loading and visiting it does. -/
theorem follow_meets {next : Text → Text → Compile Text} {look : Text → Text → Except Error Compiled} {name : Text}
    (h : ∀ load source log, c.loader = some load → load name = .ok (source, log) →
      Meets registry S around (answered (next source name)) (look source name)) :
    Meets registry S around (follow c next name) (lookAt c look name) := by
  unfold follow lookAt
  cases hload : c.loader with
  | none => exact Meets.liftM (Except.ok ())
  | some load =>
    refine (Meets.liftM (load name)).bind fun found hfound => ?_
    refine Meets.after (x := modify _) (Meets.modify (fun _ => rfl) fun _ => rfl) ?_
    have hlook := (h load found.1 found.2 hload hfound).bind (f := fun _ => pure ()) (g := fun _ => .ok ()) fun _ _ =>
      Meets.liftM (.ok ())
    rw [answered, bind_assoc] at hlook
    exact hlook

/-- Compiling below the templates `around` answers what visiting does, if all that is come to is in `S` and shares a key
only with what is translated to the same. -/
theorem compileAt_meets (levels : Nat) (around : List Text) {source name : Text}
    (h : ∀ q, Visits c levels around (source, name) q → q ∈ S ∧ ∀ p ∈ S, Apart c.registry p q) :
    Meets c.registry S around (answered (compileAt c levels source name))
      (visit c levels around source name) := by
  induction levels generalizing around source name with
  | zero =>
    rw [compileAt, visit, answered, bind_assoc]
    exact (checkClosed_meets name).bind fun _ _ => Meets.liftM (.error _)
  | succ levels ih =>
    rw [compileAt, visit, answered, bind_assoc]
    refine (checkClosed_meets name).bind fun _ houtside => ?_
    have hname : name ∉ around := not_mem_of_checkOutside houtside
    have hinner : ∀ n, HasTurn (lookAt c (visit c levels (around ++ [name]))) (included c.registry source name) n →
        Meets c.registry S (around ++ [name])
          (follow c (compileAt c levels) n) (lookAt c (visit c levels (around ++ [name])) n) := fun n hn =>
      follow_meets fun load source' log hload hfound => ih _ fun q hq => h q (.there hname hn hload hfound hq)
    obtain ⟨hmem, hapart⟩ := h _ (.here hname)
    have hcompiled := (remembered_meets hmem hapart hinner).whileOpen
    rw [bind_assoc]
    refine hcompiled.behind fun compiled _ => ?_
    intro m hm hs
    exact ⟨.rfl, hm, hs⟩

/-- Compiling a template answers what visiting it does, as deep as the bound allows. -/
theorem compile_meets {source name : Text}
    (h : ∀ q, Visits c c.maxDepth.toNat [] (source, name) q → q ∈ S ∧ ∀ p ∈ S, Apart c.registry p q) :
    Meets c.registry S [] (answered (compile c source name)) (visit c c.maxDepth.toNat [] source name) := by
  intro m hm hs
  have hlevels : (c.maxDepth - m.stack.length).toNat = c.maxDepth.toNat := by rw [hs]; simp
  rw [← hlevels] at h ⊢
  exact compileAt_meets _ [] h m hm hs

/-! ## What is answered from the memory -/

theorem runFrom_checkClosed (name : Text) (m : Memory) :
    runFrom (checkClosed name) m = (checkOutside m.stack name, m) := by
  simp only [checkClosed, checkOutside, runFrom_bind, runFrom_get]
  split <;> rfl

theorem found_of_remembered {inner : Text → Compile Unit} {source name : Text} {found made : Compiled} {m m' : Memory}
    (hfound : m.results.get? (key source name) = some found)
    (h : runFrom (remembered c inner source name) m = (.ok made, m')) : made = found := by
  rw [remembered, runFrom_bind, runFrom_get] at h
  simp only [hfound] at h
  obtain ⟨_, m₁, -, h⟩ := runFrom_bind_eq_ok.mp h
  obtain ⟨_, m₂, -, h⟩ := runFrom_bind_eq_ok.mp h
  exact (Except.ok.inj (Prod.mk.inj h).1).symm

/-- What is compiled well comes from the memory or from translating the source. -/
theorem remembered_of_compileAt {levels : Nat} {source name program : Text} {m m' : Memory}
    (h : runFrom (compileAt c levels source name) m = (.ok program, m')) :
    ∃ inner made m₁, runFrom (remembered c inner source name) { m with stack := m.stack ++ [name] } = (.ok made, m₁) ∧
      made.program = program ∧ made.dependencies = m'.dependencies := by
  cases levels with
  | zero =>
    obtain ⟨-, m₁, -, hthrow⟩ := runFrom_bind_eq_ok.mp h
    cases hthrow
  | succ levels =>
    obtain ⟨_, m₁, hclosed, hopen⟩ := runFrom_bind_eq_ok.mp h
    obtain ⟨made, m₂, hmade, hbehind⟩ := runFrom_bind_eq_ok.mp hopen
    obtain ⟨_, m₃, hmodify, hbehind⟩ := runFrom_bind_eq_ok.mp hbehind
    rw [runFrom_checkClosed] at hclosed
    obtain rfl : m = m₁ := (Prod.mk.inj hclosed).2
    rw [runFrom_whileOpen, Prod.mk.injEq] at hmade
    obtain ⟨-, rfl⟩ := Prod.mk.inj hmodify
    obtain ⟨hprogram, rfl⟩ := Prod.mk.inj hbehind
    exact ⟨_, made, _, Prod.ext hmade.1 rfl, Except.ok.inj hprogram, rfl⟩

theorem remembered_of_answered {levels : Nat} {source name : Text} {answer : Compiled} {m m' : Memory}
    (h : runFrom (answered (compileAt c levels source name)) m = (.ok answer, m')) :
    ∃ inner m₁, runFrom (remembered c inner source name) { m with stack := m.stack ++ [name] } = (.ok answer, m₁) := by
  obtain ⟨program, m₁, hprogram, hanswer⟩ := runFrom_bind_eq_ok.mp h
  obtain ⟨inner, made, m₂, hmade, rfl, hdependencies⟩ := remembered_of_compileAt hprogram
  obtain ⟨_, m₃, hget, hanswer⟩ := runFrom_bind_eq_ok.mp hanswer
  obtain ⟨hlook, rfl⟩ := Prod.mk.inj hget
  obtain rfl := Except.ok.inj hlook
  obtain rfl : ⟨made.program, m₁.dependencies⟩ = answer := Except.ok.inj (Prod.mk.inj hanswer).1
  rw [← hdependencies]
  exact ⟨inner, m₂, hmade⟩

/-- A remembered result is what is compiled, if the templates that it includes can be compiled. -/
theorem compiled_of_remembered {levels : Nat} {source name : Text} {found answer : Compiled} {m m' : Memory}
    (hfound : m.results.get? (key source name) = some found)
    (h : runFrom (answered (compileAt c levels source name)) m = (.ok answer, m')) : answer = found := by
  obtain ⟨inner, m₁, hmade⟩ := remembered_of_answered h
  exact found_of_remembered (m := { m with stack := m.stack ++ [name] }) hfound hmade

/-! ## What is kept even if sources are mixed up -/

/-- What is remembered still comes from `S`, and the stack is the same again. -/
def Stays (registry : Registry) (S : Set (Text × Text)) (m m' : Memory) : Prop :=
  Origin registry S m → Origin registry S m' ∧ m'.stack = m.stack

instance : IsPreorder Memory (Stays registry S) where
  refl _ h := ⟨h, rfl⟩
  trans _ _ _ h h' hm := by
    obtain ⟨hm', hs⟩ := h hm
    obtain ⟨hm'', hs'⟩ := h' hm'
    exact ⟨hm'', hs'.trans hs⟩

/-- A change beside what is remembered and the stack. -/
theorem modify_stays {f : Memory → Memory} (hr : ∀ m, (f m).results = m.results) (hs : ∀ m, (f m).stack = m.stack) :
    Keeps (Stays registry S) (modify f : Compile PUnit) := by
  refine Keeps.modify fun m hm => ⟨?_, hs m⟩
  rw [Origin, hr]
  exact hm

theorem report_stays (level : Level) (message : Text) : Keeps (Stays registry S) (report level message) :=
  modify_stays (fun _ => rfl) fun _ => rfl

theorem located_stays (template : Text) (i : Markup.Inclusion) {act : Compile α} (h : Keeps (Stays registry S) act) :
    Keeps (Stays registry S) (located template i act) := by
  refine h.tryCatch fun e => ?_
  cases e <;> exact Keeps.throw _

theorem whileOpen_stays (name : Text) {act : Compile α} (h : Keeps (Stays registry S) act) :
    Keeps (Stays registry S) (whileOpen name act) := by
  intro m hm
  obtain ⟨hm', hs⟩ := h { m with stack := m.stack ++ [name] } hm
  rw [runFrom_whileOpen]
  exact ⟨hm', by rw [hs, List.dropLast_concat]⟩

theorem checkClosed_stays (name : Text) : Keeps (Stays registry S) (checkClosed name) := by
  refine Keeps.get.bind fun m => ?_
  dsimp only
  split
  · exact Keeps.throw _
  · exact Keeps.pure _

theorem translate_stays {inner : Text → Compile Unit} {source name : Text}
    (h : ∀ n ∈ included c.registry source name, Keeps (Stays registry S) (inner n)) :
    Keeps (Stays registry S) (translate c inner source name) := by
  refine (report_stays _ _).bind fun _ => ?_
  refine Keeps.bind (Keeps.forM fun i hi => located_stays name i (h i.name ?_)) fun _ => ?_
  · rw [included, Markup.Reading.dependencies, List.mem_eraseDups]
    exact List.mem_map_of_mem hi
  · exact (Keeps.liftM _).bind fun nodes => (Keeps.liftM _).bind fun b => (Keeps.liftM _).bind fun _ => Keeps.pure _

/-- What is translated well is what translating the template by itself gives. -/
theorem translation_of_translate {inner : Text → Compile Unit} {source name : Text} {made : Compiled} {m m' : Memory}
    (h : runFrom (translate c inner source name) m = (.ok made, m')) :
    translation c.registry source name = .ok made := by
  obtain ⟨-, m₁, -, h⟩ := runFrom_bind_eq_ok.mp h
  obtain ⟨-, m₂, -, h⟩ := runFrom_bind_eq_ok.mp h
  obtain ⟨nodes, m₃, hnodes, h⟩ := runFrom_bind_eq_ok.mp h
  obtain ⟨b, m₄, hb, h⟩ := runFrom_bind_eq_ok.mp h
  obtain ⟨_, m₅, hcheck, h⟩ := runFrom_bind_eq_ok.mp h
  rw [runFrom_liftM, Prod.mk.injEq] at hnodes hb hcheck
  refine bind_eq_ok.mpr ⟨nodes, hnodes.1, bind_eq_ok.mpr ⟨b, hb.1, bind_eq_ok.mpr ⟨_, hcheck.1, ?_⟩⟩⟩
  exact (Prod.mk.inj h).1

theorem translation_of_remembered {inner : Text → Compile Unit} {source name : Text} {made : Compiled} {m m' : Memory}
    (hnone : m.results.get? (key source name) = none)
    (h : runFrom (remembered c inner source name) m = (.ok made, m')) :
    translation c.registry source name = .ok made := by
  rw [remembered, runFrom_bind, runFrom_get] at h
  simp only [hnone] at h
  obtain ⟨made', m₁, htranslate, h⟩ := runFrom_bind_eq_ok.mp h
  obtain ⟨_, m₂, -, h⟩ := runFrom_bind_eq_ok.mp h
  obtain rfl := Except.ok.inj (Prod.mk.inj h).1
  exact translation_of_translate htranslate

/-- What is compiled, remembered or not, is what a source under a name that has the key is translated to. -/
theorem origin_of_compile {source name program : Text} {m m' : Memory} (hm : Origin c.registry S m)
    (h : runFrom (compile c source name) m = (.ok program, m')) :
    ∃ (p : Text × Text) (made : Compiled), key p.1 p.2 = key source name ∧
      translation c.registry p.1 p.2 = .ok made ∧ made.program = program := by
  obtain ⟨m₁, m₂, hget, h⟩ := runFrom_bind_eq_ok.mp h
  obtain ⟨-, rfl⟩ := Prod.mk.inj hget
  obtain ⟨inner, made, m₃, hmade, hprogram, -⟩ := remembered_of_compileAt h
  cases hfound : m.results.get? (key source name) with
  | some found =>
    obtain ⟨p, -, hkey, htranslation⟩ := hm _ _ hfound
    obtain rfl := found_of_remembered (m := { m with stack := m.stack ++ [name] }) hfound hmade
    exact ⟨p, made, hkey, htranslation, hprogram⟩
  | none =>
    exact ⟨(source, name), made, rfl, translation_of_remembered (m := { m with stack := m.stack ++ [name] }) hfound hmade,
      hprogram⟩

/-- Whether a result is remembered or not, what is remembered behind comes from `S`: the templates looked at are those
that a source in `S` includes, if not always the source that is asked for. -/
theorem remembered_stays {inner : Text → Compile Unit} {source name : Text} (hmem : (source, name) ∈ S)
    (h : ∀ p ∈ S, ∀ n ∈ included c.registry p.1 p.2, Keeps (Stays c.registry S) (inner n)) :
    Keeps (Stays c.registry S) (remembered c inner source name) := by
  refine Keeps.get_bind fun m hm => ?_
  cases hfound : m.results.get? (key source name) with
  | some found =>
    obtain ⟨p, hp, -, hmade⟩ := hm _ _ hfound
    have hinner : ∀ n ∈ found.dependencies, Keeps (Stays c.registry S) (inner n) := by
      rw [dependencies_of_translation hmade]
      exact h p hp
    have hkeeps : Keeps (Stays c.registry S) (do
        report .debug ("Compilation cache hit for " ++ name)
        found.dependencies.forM inner
        return found) :=
      (report_stays _ _).bind fun _ => (Keeps.forM hinner).bind fun _ => Keeps.pure _
    exact hkeeps m hm
  | none =>
    obtain ⟨hm', hs⟩ := translate_stays (h _ hmem) m hm
    rw [runFrom_bind]
    rcases hr : runFrom (translate c inner source name) m with ⟨e | made, m'⟩ <;> rw [hr] at hm' hs
    · exact ⟨hm', hs⟩
    · obtain ⟨-, horigin, hstack⟩ := store_meets hmem (translation_of_translate hr) m' hm' rfl
      exact ⟨horigin, hstack.trans hs⟩

theorem follow_stays {next : Text → Text → Compile Text} {name : Text}
    (h : ∀ load source log, c.loader = some load → load name = .ok (source, log) →
      Keeps (Stays registry S) (next source name)) : Keeps (Stays registry S) (follow c next name) := by
  unfold follow
  cases hload : c.loader with
  | none => exact Keeps.pure _
  | some load =>
    intro m
    rw [runFrom_bind, runFrom_liftM]
    cases hfound : load name with
    | error e => exact refl m
    | ok found =>
      have hlog : Keeps (Stays registry S) (modify fun m => { m with log := m.log ++ found.2 } : Compile PUnit) :=
        modify_stays (fun _ => rfl) fun _ => rfl
      exact (hlog.bind fun _ => (h load found.1 found.2 hload hfound).bind fun _ => Keeps.pure ()) m

/-- A compilation that starts in `S` leaves everything remembered coming from `S`, if `S` holds all that its members
lead to. -/
theorem compileAt_stays (hclosed : ∀ p ∈ S, ∀ q, Reaches c p q → q ∈ S) (levels : Nat) {source name : Text}
    (hmem : (source, name) ∈ S) : Keeps (Stays c.registry S) (compileAt c levels source name) := by
  induction levels generalizing source name with
  | zero => exact (checkClosed_stays name).bind fun _ => Keeps.throw _
  | succ levels ih =>
    have hinner : ∀ p ∈ S, ∀ n ∈ included c.registry p.1 p.2,
        Keeps (Stays c.registry S) (follow c (compileAt c levels) n) := by
      intro p hp n hn
      refine follow_stays fun load source' log hload hfound => ih (hclosed p hp _ ?_)
      exact .next (.here p) hload hn hfound
    refine (checkClosed_stays name).bind fun _ => ?_
    refine (whileOpen_stays name (remembered_stays hmem hinner)).bind fun compiled => ?_
    exact Keeps.bind (x := modify _) (modify_stays (fun _ => rfl) fun _ => rfl) fun _ => Keeps.pure _

theorem compile_stays (hclosed : ∀ p ∈ S, ∀ q, Reaches c p q → q ∈ S) {source name : Text} (hmem : (source, name) ∈ S) :
    Keeps (Stays c.registry S) (compile c source name) :=
  Keeps.get.bind fun _ => compileAt_stays hclosed _ hmem

end Stencil.Compiler
