import Mathlib
import Stencil.Proofs.Compile.Session

/-!
# The names that a compiler records

A compiler records the names that a template includes when the template is completed, and so it does for every template
that is compiled on the way.  Behind a template that is compiled these are the names that its own source includes, as far
as keys tell sources apart.  Behind one that fails they are what was recorded before, or what the last template that was
completed inside includes.

* `Recorded` — names are those that a source under a name includes, or one with which it shares a key.
* `Within` — a source under a name is compiled inside another one.
* `Trails` — what compiling leaves recorded where it fails.
* `recorded_compileAt`, `trails_compileAt` — how a compilation leaves the names, by induction on the levels.
* `dependencies_after` — what is recorded behind a call in a session.
-/

namespace Stencil

namespace Compiler

variable {c : Compiler} {S : Set (Text × Text)} {p q : Text × Text} {m m' : Memory} {α : Type}

/-- The names are those that a translated source under a name in `S` includes which has the key of `p`. -/
def Recorded (registry : Registry) (S : Set (Text × Text)) (p : Text × Text) (names : List Text) : Prop :=
  ∃ q ∈ S, key q.1 q.2 = key p.1 p.2 ∧ ∃ made, translation registry q.1 q.2 = .ok made ∧ made.dependencies = names

/-- A source under a name is compiled inside `p`: `p` includes it, or a source that is remembered under the key of `p`
does, or something inside `p` does. -/
inductive Within (c : Compiler) (S : Set (Text × Text)) : Text × Text → Text × Text → Prop
  | next {p p' : Text × Text} {load : Loader} {n source : Text} {log : Log} : p' ∈ S → key p'.1 p'.2 = key p.1 p.2 →
    c.loader = some load → n ∈ included c.registry p'.1 p'.2 → load n = .ok (source, log) → Within c S p (source, n)
  | trans {p q r : Text × Text} : Within c S p q → Within c S q r → Within c S p r

/-- What is recorded behind a step inside `p` is what was recorded before, or what something below `p` includes. -/
def Trails (c : Compiler) (S : Set (Text × Text)) (p : Text × Text) (m m' : Memory) : Prop :=
  Stays c.registry S m m' ∧ (Origin c.registry S m →
    m'.dependencies = m.dependencies ∨ ∃ q, Within c S p q ∧ Recorded c.registry S q m'.dependencies)

instance : IsPreorder Memory (Trails c S p) where
  refl m := ⟨refl m, fun _ => .inl rfl⟩
  trans _ _ _ h h' := by
    refine ⟨IsTrans.trans _ _ _ h.1 h'.1, fun hm => ?_⟩
    rcases h'.2 (h.1 hm).1 with hsame | hbelow
    · rw [hsame]
      exact h.2 hm
    · exact .inr hbelow

/-- A step that records nothing. -/
theorem trails_of_stays {act : Compile α} (h : Keeps (Stays c.registry S) act)
    (hsame : ∀ m, (runFrom act m).2.dependencies = m.dependencies) : Keeps (Trails c S p) act :=
  fun m => ⟨h m, fun _ => .inl (hsame m)⟩

theorem report_trails (level : Level) (message : Text) : Keeps (Trails c S p) (report level message) :=
  trails_of_stays (report_stays level message) fun _ => rfl

theorem located_trails (template : Text) (i : Markup.Inclusion) {act : Compile α} (h : Keeps (Trails c S p) act) :
    Keeps (Trails c S p) (located template i act) := by
  refine h.tryCatch fun e => ?_
  cases e <;> exact Keeps.throw _

theorem whileOpen_trails (name : Text) {act : Compile α} (h : Keeps (Trails c S p) act) :
    Keeps (Trails c S p) (whileOpen name act) := by
  intro m
  obtain ⟨-, hnames⟩ := h { m with stack := m.stack ++ [name] }
  exact ⟨whileOpen_stays name (fun m => (h m).1) m, hnames⟩

/-! ## The parts of compiling -/

theorem translate_trails {inner : Text → Compile Unit} {source name : Text}
    (h : ∀ n ∈ included c.registry source name, Keeps (Trails c S p) (inner n)) :
    Keeps (Trails c S p) (translate c inner source name) := by
  refine (report_trails _ _).bind fun _ => ?_
  refine Keeps.bind (Keeps.forM fun i hi => located_trails name i (h i.name ?_)) fun _ => ?_
  · rw [included, Markup.Reading.dependencies, List.mem_eraseDups]
    exact List.mem_map_of_mem hi
  · exact (Keeps.liftM _).bind fun nodes => (Keeps.liftM _).bind fun b => (Keeps.liftM _).bind fun _ => Keeps.pure _

/-- Whether a result is remembered or not, the templates that are looked at are below. -/
theorem remembered_trails {inner : Text → Compile Unit} (hmem : p ∈ S)
    (h : ∀ p' ∈ S, key p'.1 p'.2 = key p.1 p.2 → ∀ n ∈ included c.registry p'.1 p'.2, Keeps (Trails c S p) (inner n))
    (hstays : Keeps (Stays c.registry S) (remembered c inner p.1 p.2)) :
    Keeps (Trails c S p) (remembered c inner p.1 p.2) := by
  intro m
  refine ⟨hstays m, fun hm => ?_⟩
  rw [remembered, runFrom_bind, runFrom_get]
  dsimp only
  cases hfound : m.results.get? (key p.1 p.2) with
  | some found =>
    obtain ⟨p', hp', hkey, hmade⟩ := hm _ _ hfound
    have hinner : ∀ n ∈ found.dependencies, Keeps (Trails c S p) (inner n) := by
      rw [dependencies_of_translation hmade]
      exact h p' hp' hkey
    have hkeeps : Keeps (Trails c S p) (do
        report .debug ("Compilation cache hit for " ++ p.2)
        found.dependencies.forM inner
        return found) :=
      (report_trails _ _).bind fun _ => (Keeps.forM hinner).bind fun _ => Keeps.pure _
    exact (hkeeps m).2 hm
  | none =>
    have htrails := (translate_trails (h p hmem rfl) m).2 hm
    rw [runFrom_bind]
    rcases hr : runFrom (translate c inner p.1 p.2) m with ⟨e | made, m'⟩ <;> rw [hr] at htrails
    · exact htrails
    · exact htrails

/-- What is compiled well is what its source is translated to, or a source in `S` with its key, and so are the names that
it records. -/
theorem translation_of_compileAt {levels : Nat} {source name program : Text} (hm : Origin c.registry S m)
    (h : runFrom (compileAt c levels source name) m = (.ok program, m')) :
    ∃ q ∈ insert (source, name) S, key q.1 q.2 = key source name ∧
      translation c.registry q.1 q.2 = .ok ⟨program, m'.dependencies⟩ := by
  obtain ⟨inner, made, m₁, hmade, rfl, hnames⟩ := remembered_of_compileAt h
  rw [← hnames]
  cases hfound : m.results.get? (key source name) with
  | some found =>
    obtain ⟨q, hq, hkey, htranslation⟩ := hm _ _ hfound
    obtain rfl := found_of_remembered (m := { m with stack := m.stack ++ [name] }) hfound hmade
    exact ⟨q, Set.mem_insert_of_mem _ hq, hkey, htranslation⟩
  | none =>
    exact ⟨(source, name), Set.mem_insert _ _, rfl,
      translation_of_remembered (m := { m with stack := m.stack ++ [name] }) hfound hmade⟩

/-- What is compiled well records what its source includes, or a source with its key. -/
theorem recorded_compileAt {levels : Nat} {source name program : Text} (hmem : (source, name) ∈ S)
    (hm : Origin c.registry S m) (h : runFrom (compileAt c levels source name) m = (.ok program, m')) :
    Recorded c.registry S (source, name) m'.dependencies := by
  obtain ⟨q, hq, hkey, htranslation⟩ := translation_of_compileAt hm h
  rw [Set.insert_eq_of_mem hmem] at hq
  exact ⟨q, hq, hkey, _, htranslation, rfl⟩

/-- An included template records what it includes if it is compiled, and leaves what is below it if it fails. -/
theorem follow_trails {next : Text → Text → Compile Text} {name : Text}
    (hnext : ∀ load source log, c.loader = some load → load name = .ok (source, log) →
      Within c S p (source, name) ∧ Keeps (Stays c.registry S) (next source name) ∧
      ∀ m, Origin c.registry S m → match runFrom (next source name) m with
        | (.ok _, m') => Recorded c.registry S (source, name) m'.dependencies
        | (.error _, m') => m'.dependencies = m.dependencies ∨
          ∃ q, Within c S (source, name) q ∧ Recorded c.registry S q m'.dependencies) :
    Keeps (Trails c S p) (follow c next name) := by
  intro m
  refine ⟨follow_stays (fun load source log hload hfound => (hnext load source log hload hfound).2.1) m, fun hm => ?_⟩
  rw [follow]
  cases hload : c.loader with
  | none => exact .inl rfl
  | some load =>
    dsimp only
    rw [runFrom_bind, runFrom_liftM]
    cases hfound : load name with
    | error e => exact .inl rfl
    | ok found =>
      obtain ⟨source, log⟩ := found
      obtain ⟨hbelow, -, houtcome⟩ := hnext load source log hload hfound
      have houtcome := houtcome { m with log := m.log ++ log } hm
      dsimp only
      rw [runFrom_bind, runFrom_modify]
      dsimp only
      rw [runFrom_bind]
      rcases hr : runFrom (next source name) { m with log := m.log ++ log } with ⟨e | program, m'⟩ <;>
        rw [hr] at houtcome
      · rcases houtcome with hsame | ⟨q, hq, hrecorded⟩
        · exact .inl hsame
        · exact .inr ⟨q, hbelow.trans hq, hrecorded⟩
      · exact .inr ⟨_, hbelow, houtcome⟩

/-- What fails leaves recorded what was, or what something below includes. -/
theorem trails_compileAt (hclosed : ∀ p ∈ S, ∀ q, Reaches c p q → q ∈ S) (levels : Nat) {source name : Text}
    (hmem : (source, name) ∈ S) {e : Error} (hm : Origin c.registry S m)
    (h : runFrom (compileAt c levels source name) m = (.error e, m')) :
    m'.dependencies = m.dependencies ∨
      ∃ q, Within c S (source, name) q ∧ Recorded c.registry S q m'.dependencies := by
  induction levels generalizing source name e m m' with
  | zero =>
    rw [compileAt, runFrom_bind, runFrom_checkClosed] at h
    cases hcheck : checkOutside m.stack name <;> rw [hcheck] at h <;> cases h <;> exact .inl rfl
  | succ levels ih =>
    have hinner : ∀ p' ∈ S, key p'.1 p'.2 = key source name → ∀ n ∈ included c.registry p'.1 p'.2,
        Keeps (Trails c S (source, name)) (follow c (compileAt c levels) n) := by
      intro p' hp' hkey n hn
      refine follow_trails fun load source' log hload hfound => ?_
      have hmem' : (source', n) ∈ S := hclosed p' hp' _ (.next (.here p') hload hn hfound)
      refine ⟨.next hp' hkey hload hn hfound, compileAt_stays hclosed levels hmem', fun m₁ hm₁ => ?_⟩
      rcases hr : runFrom (compileAt c levels source' n) m₁ with ⟨e | program, m₂⟩
      · exact ih hmem' hm₁ hr
      · exact recorded_compileAt hmem' hm₁ hr
    have hstays : Keeps (Stays c.registry S) (remembered c (follow c (compileAt c levels)) source name) :=
      remembered_stays hmem fun p' hp' n hn => follow_stays fun load source' log hload hfound =>
        compileAt_stays hclosed levels (hclosed p' hp' _ (.next (.here p') hload hn hfound))
    have htrails := (whileOpen_trails name (remembered_trails (p := (source, name)) hmem hinner hstays) m).2 hm
    rw [compileAt, runFrom_bind, runFrom_checkClosed] at h
    cases hcheck : checkOutside m.stack name with
    | error e' =>
      rw [hcheck] at h
      cases h
      exact .inl rfl
    | ok _ =>
      rw [hcheck] at h
      dsimp only at h
      rw [runFrom_bind] at h
      rcases hr : runFrom (whileOpen name (remembered c (follow c (compileAt c levels)) source name)) m with
        ⟨e' | made, m₁⟩ <;> rw [hr] at h htrails
      · cases h
        exact htrails
      · cases h

theorem runFrom_compile (c : Compiler) (source name : Text) (m : Memory) :
    runFrom (c.compile source name) m =
      runFrom (compileAt c (c.maxDepth - m.stack.length).toNat source name) m := rfl

theorem runFrom_compile_of_closed (c : Compiler) (source name : Text) {m : Memory} (h : m.stack = []) :
    runFrom (c.compile source name) m = runFrom (compileAt c c.maxDepth.toNat source name) m := by
  rw [runFrom_compile, h]
  simp

end Compiler

namespace Session

open Compiler

theorem stack_run (c : Compiler) (moves : List Move) : (({ compiler := c } : Session).run moves).memory.stack = [] :=
  ((sound_renewed { compiler := c }).run moves).2

theorem memory_run_compile (c : Compiler) (source name : Text) :
    (({ compiler := c } : Session).run [.compile source name]).memory = (runFrom (c.compile source name) {}).2 := rfl

/-- **The names recorded.**  Behind a call that succeeds the compiler has recorded what the source includes that the
program comes from: the distinct names of its includes, in the order in which they first occur.  It is the source of the
call, unless another one with its key was come upon before and is translated differently.  Behind a call that fails there
is recorded what was recorded before, or what a template includes that was completed inside. -/
theorem dependencies_after (c : Compiler) (moves : List Move) (source name : Text) :
    let s := ({ compiler := c } : Session).run moves
    let S := ({ compiler := c } : Session).met ∅ moves
    let r := runFrom (s.compiler.compile source name) s.memory
    let names := fun p : Text × Text =>
      ((Markup.read s.compiler.registry p.2 p.1).inclusions.map Markup.Inclusion.name).eraseDups
    (∀ program, r.1 = .ok program →
      (∃ p ∈ insert (source, name) S, key p.1 p.2 = key source name ∧
        translation s.compiler.registry p.1 p.2 = .ok ⟨program, r.2.dependencies⟩ ∧ r.2.dependencies = names p) ∧
      ((∀ p ∈ S, Apart s.compiler.registry p (source, name)) → r.2.dependencies = names (source, name))) ∧
    ∀ e, r.1 = .error e → r.2.dependencies = s.memory.dependencies ∨
      ∃ q, Within s.compiler (s.reached (insert (source, name) S)) (source, name) q ∧
        Recorded s.compiler.registry (s.reached (insert (source, name) S)) q r.2.dependencies := by
  intro s S r names
  have hsound : Sound S s := (sound_renewed { compiler := c }).run moves
  obtain ⟨horigin, hstack⟩ := hsound
  have hr : r = runFrom (compileAt s.compiler (s.compiler.maxDepth - s.memory.stack.length).toNat source name) s.memory :=
    rfl
  refine ⟨fun program hprogram => ?_, fun e he => ?_⟩
  · obtain ⟨p, hp, hkey, htranslation⟩ := translation_of_compileAt horigin (hr.symm.trans (Prod.ext hprogram rfl))
    refine ⟨⟨p, hp, hkey, htranslation, dependencies_of_translation htranslation⟩, fun hapart => ?_⟩
    have hsame : translation s.compiler.registry source name = .ok ⟨program, r.2.dependencies⟩ := by
      rcases Set.mem_insert_iff.mp hp with rfl | hp
      · exact htranslation
      · rw [← htranslation, hapart p hp hkey]
    exact dependencies_of_translation hsame
  · have hmem : (source, name) ∈ s.reached (insert (source, name) S) := subset_reached s _ (Set.mem_insert _ _)
    have hsub : S ⊆ s.reached (insert (source, name) S) := (Set.subset_insert _ _).trans (subset_reached s _)
    exact trails_compileAt (fun p hp q hq => reached_closed hp hq) _ hmem (horigin.mono hsub)
      (hr.symm.trans (Prod.ext he rfl))

/-- A compiler whose loader finds the template `a` only, which includes nothing. -/
def onlyA : Compiler where
  registry := .standard
  loader := some fun name => if name = "a" then .ok ("x", []) else .error (.missingTemplate name [])

theorem read_first : Markup.read onlyA.registry "first" "@include('a')" =
    ⟨[⟨"a", 1, "@include('a')"⟩], .ok [.echo 1 "_view.make_partial('a', {})" false]⟩ := by
  change Markup.read .standard _ _ = _
  cbv

theorem read_page : Markup.read onlyA.registry "page" "@include('a')@include('b')" =
    ⟨[⟨"a", 1, "@include('a')@include('b')"⟩, ⟨"b", 1, "@include('b')"⟩],
      .ok [.echo 1 "_view.make_partial('a', {})" false, .echo 1 "_view.make_partial('b', {})" false]⟩ := by
  change Markup.read .standard _ _ = _
  cbv

deriving instance DecidableEq for Memory

/-- The memory behind one template that includes `a`. -/
def behindFirst : Memory where
  results := [("xa", ⟨"_echo('x')\n", []⟩), ("@include('a')first", ⟨"_echo(_view.make_partial('a', {}))\n", ["a"]⟩)]
  dependencies := ["a"]
  log := [{ level := .debug, message := "Compiling template first" }, { level := .debug, message := "Compiling template a" }]

/-- What compiling the template that includes `a` comes to.  It is run once, for the program and the memory together. -/
theorem runFrom_first :
    (runFrom (onlyA.compile "@include('a')" "first") {}).1.toOption = some "_echo(_view.make_partial('a', {}))\n" ∧
      (runFrom (onlyA.compile "@include('a')" "first") {}).2 = behindFirst := by
  have h : Prod.map Except.toOption id (runFrom (compileAt onlyA (49 + 1) "@include('a')" "first") {}) =
      (some ("_echo(_view.make_partial('a', {}))\n" : Text), behindFirst) := by
    rw [compileAt]
    simp only [remembered, Compiler.translate, read_first]
    decide +kernel
  rw [runFrom_compile_of_closed onlyA _ _ rfl, show onlyA.maxDepth.toNat = 49 + 1 from rfl]
  rwa [Prod.ext_iff, Prod.map_fst, Prod.map_snd] at h

theorem compiled_first : ∃ program,
    (runFrom (onlyA.compile "@include('a')" "first") {}).1 = .ok program := by
  have h := runFrom_first.1
  cases hr : (runFrom (onlyA.compile "@include('a')" "first") {}).1 with
  | error e =>
    rw [hr] at h
    cases h
  | ok program => exact ⟨program, rfl⟩

/-- A template that is compiled records the name that it includes. -/
theorem dependencies_after_first :
    (∃ program, (runFrom (onlyA.compile "@include('a')" "first") {}).1 = .ok program) ∧
      (runFrom (onlyA.compile "@include('a')" "first") {}).2.dependencies = [("a" : Text)] := by
  obtain ⟨program, hprogram⟩ := compiled_first
  obtain ⟨-, hown⟩ := (dependencies_after onlyA [] "@include('a')" "first").1 program hprogram
  have hnames := hown fun p hp => absurd hp (Set.notMem_empty p)
  simp only [run, List.foldl_nil, read_first] at hnames
  refine ⟨⟨program, hprogram⟩, ?_⟩
  rw [hnames]
  decide

/-- A template that fails behind an include leaves the names recorded that this one includes, and not those of the last
template that was compiled. -/
theorem names_lost :
    let s := ({ compiler := onlyA } : Session).run [.compile "@include('a')" "first"]
    let r := runFrom (s.compiler.compile "@include('a')@include('b')" "page") s.memory
    s.memory.dependencies = [("a" : Text)] ∧ r.1.toOption = none ∧ r.2.dependencies = [] := by
  intro s r
  have hmemory : s.memory = behindFirst :=
    (memory_run_compile onlyA "@include('a')" "first").trans runFrom_first.2
  have hr : r = runFrom (compileAt onlyA (49 + 1) "@include('a')@include('b')" "page") s.memory := by
    refine (runFrom_compile_of_closed onlyA _ _ (stack_run onlyA _)).trans ?_
    rw [show onlyA.maxDepth.toNat = 49 + 1 from rfl]
  rw [hr, hmemory]
  clear_value s r
  clear hr hmemory r s
  rw [compileAt]
  simp only [remembered, Compiler.translate, read_page]
  decide +kernel

end Session
end Stencil
