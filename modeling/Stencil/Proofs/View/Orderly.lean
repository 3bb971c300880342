import Stencil.Proofs.Store.Fresh
import Stencil.Proofs.Compile.Memory
import Stencil.Proofs.View.Capture
import Stencil.Proofs.View.Statement

/-!
# Views whose artifacts are accounted for

Rendering and compiling write artifacts only when a template is compiled, from the text of the file that the search finds
and through a memory whose results all come from translating some source.  So whatever a view does keeps the artifact
that is watched accounted for.

* `View.watch` — a template of a view whose artifact is watched.
* `Idle` — steps that change neither files nor programs nor what the compiler remembers.
* `Orderly` — a state in which all artifacts are accounted for; `orderly_innerAt` — every step of a view keeps it.
-/

namespace Stencil

/-- A template of a view whose artifact is watched. -/
def View.watch (v : View) (name : Text) (here : List Text) : Store.Watch := ⟨v.store, v.registry, name, here⟩

namespace Run

open Compiler

variable {v : View} {inner : Inner} {name : Text} {here : List Text} {α : Type} {s t : State}

/-! ## Steps beside disk and memory -/

/-- Files, programs and what the compiler remembers are the same. -/
structure Idle (s t : State) : Prop where
  files : t.disk.files = s.disk.files
  programs : t.disk.programs = s.disk.programs
  memory : t.memory = s.memory

instance : IsPreorder State Idle where
  refl _ := ⟨rfl, rfl, rfl⟩
  trans _ _ _ h h' := ⟨h'.files.trans h.files, h'.programs.trans h.programs, h'.memory.trans h.memory⟩

theorem idle_modifyPass (f : Pass → Pass) : Keeps Idle (modifyPass f) := Keeps.modify fun _ => ⟨rfl, rfl, rfl⟩

theorem idle_report (level : Level) (message : Text) (traced : Bool) : Keeps Idle (report level message traced) :=
  Keeps.modify fun _ => ⟨rfl, rfl, rfl⟩

theorem idle_pass : Keeps Idle pass := Keeps.get.bind fun _ => Keeps.pure _

theorem idle_print (text : Text) : Keeps Idle (print text) := by
  refine idle_pass.bind fun p => ?_
  split
  · exact idle_modifyPass _
  · exact Keeps.throw _

theorem idle_openCapture (kind : CaptureKind) (name : Value) (component : Option Nat) :
    Keeps Idle (openCapture kind name component) := idle_modifyPass _

theorem idle_closeCapture (kind : CaptureKind) (directive : Text) : Keeps Idle (closeCapture kind directive) := by
  refine idle_pass.bind fun p => ?_
  split
  · exact (idle_modifyPass _).bind fun _ => Keeps.pure _
  · exact Keeps.bind (x := warn _) (idle_report _ _ _) fun _ => Keeps.pure _

theorem idle_takeComponent : Keeps Idle takeComponent := by
  refine idle_pass.bind fun p => ?_
  split
  · exact Keeps.bind (x := warn _) (idle_report _ _ _) fun _ => Keeps.pure _
  · dsimp only
    split
    · refine Keeps.bind (x := warn _) (idle_report _ _ _) fun _ => ?_
      exact (idle_modifyPass _).bind fun _ => Keeps.pure _
    · exact (idle_modifyPass _).bind fun _ => Keeps.pure _

theorem idle_collect (name : Text) (around : Nat) : Keeps Idle (collect name around) :=
  keeps_collect (fun _ => idle_report _ _ _) (fun _ => idle_modifyPass _) name around

theorem idle_checkNesting (name : Text) : Keeps Idle (checkNesting v name) := by
  refine idle_pass.bind fun p => ?_
  split
  · exact Keeps.throw _
  · exact Keeps.pure _

/-! ## Orderly states -/

/-- The artifact that is watched is accounted for, and what the compiler remembers comes from translating sources. -/
structure Orderly (v : View) (name : Text) (here : List Text) (s : State) : Prop where
  disk : Store.Tidy (v.watch name here) s.disk.files.now s.disk
  memory : Origin v.registry Set.univ s.memory
  stack : s.memory.stack = []

/-- Only files and programs matter for a tidy disk. -/
theorem tidy_of_same {w : Store.Watch} {last : Int} {d d' : Disk} (hf : d'.files = d.files)
    (hp : d'.programs = d.programs) (h : Store.Tidy w last d) : Store.Tidy w last d' := by
  obtain ⟨files, programs, serial, log⟩ := d'
  obtain rfl : files = d.files := hf
  obtain rfl : programs = d.programs := hp
  exact ⟨h.here, h.tree, h.roots, h.times, h.clock, h.vacant, h.artifact, h.program⟩

theorem Idle.orderly (h : Idle s t) : Kept (Orderly v name here) s t := by
  intro hs
  refine ⟨?_, h.memory ▸ hs.memory, h.memory ▸ hs.stack⟩
  rw [h.files]
  exact tidy_of_same h.files h.programs hs.disk

theorem orderly_idle {act : Run α} (h : Keeps Idle act) : Keeps (Kept (Orderly v name here)) act :=
  fun s => (h s).orderly

theorem runFrom_work (act : Work α) (s : State) :
    runFrom (work act) s = ((runFrom act s.disk).1, { s with disk := (runFrom act s.disk).2 }) := rfl

theorem runFrom_compiling (act : Compile α) (s : State) :
    runFrom (compiling act) s = ((runFrom act { s.memory with log := [] }).1,
      { s with
        memory := (runFrom act { s.memory with log := [] }).2
        disk := { s.disk with log := s.disk.log ++ (runFrom act { s.memory with log := [] }).2.log } }) := rfl

/-- Work on the store, if what becomes an artifact is accounted for. -/
theorem orderly_worked {Good : Text → Text → Prop} {act : Work α} (hw : (v.watch name here).Laid)
    (h : Store.Worked v.store Good act) (hs : Orderly v name here s)
    (hgood : ∀ n content, Good n content → Digest.ofText n = Digest.ofText name →
      ∃ m, Store.Explains (v.watch name here) m s.disk.files content s.disk.files.now) :
    Orderly v name here (runFrom (work act) s).2 := by
  have hkept := Store.tended_worked hw hgood h s.disk hs.disk.tended
  rw [runFrom_work]
  exact ⟨by rw [hkept.now]; exact hkept.tidy, hs.memory, hs.stack⟩

/-- Work on the store that writes no artifacts. -/
theorem orderly_work {act : Work α} (hw : (v.watch name here).Laid)
    (h : Store.Worked v.store (fun _ _ => False) act) : Keeps (Kept (Orderly v name here)) (work act) :=
  fun _ hs => orderly_worked hw h hs fun _ _ h => h.elim

/-! ## Compiling -/

theorem orderly_compiling {act : Compile α} (h : Keeps (Stays v.registry Set.univ) act) :
    Keeps (Kept (Orderly v name here)) (compiling act) := by
  intro s hs
  obtain ⟨horigin, hstack⟩ := h { s.memory with log := [] } hs.memory
  rw [runFrom_compiling]
  exact ⟨tidy_of_same (d := s.disk) rfl rfl hs.disk, horigin, hstack.trans hs.stack⟩

theorem stays_compile (files : Files) (source name : Text) :
    Keeps (Stays v.registry Set.univ) ((v.compiler files).compile source name) :=
  compile_stays (c := v.compiler files) (fun _ _ _ _ => trivial) trivial

/-- The source of a template is the text of the file that the search finds. -/
theorem source_eq_ok {text : Text} (h : runFrom (source v name) s = (.ok text, t)) :
    (∃ p, v.finder.find s.disk.files name = .ok p ∧ s.disk.files.read p = .ok text) ∧ Idle s t := by
  obtain ⟨s', s'', hget, h⟩ := runFrom_bind_eq_ok.mp h
  obtain ⟨hs', rfl⟩ := Prod.mk.inj hget
  obtain rfl := Except.ok.inj hs'
  split at h
  · cases h
  case h_2 found log hread =>
    obtain ⟨_, s₁, hmodify, h⟩ := runFrom_bind_eq_ok.mp h
    obtain ⟨htext, rfl⟩ := Prod.mk.inj h
    obtain rfl := Except.ok.inj htext
    obtain ⟨-, rfl⟩ := Prod.mk.inj hmodify
    refine ⟨?_, rfl, rfl, rfl⟩
    obtain ⟨p, hp, hread⟩ := bind_eq_ok.mp hread
    obtain ⟨found', hfound, hread⟩ := bind_eq_ok.mp hread
    obtain ⟨rfl, -⟩ := Prod.mk.inj (Except.ok.inj hread)
    refine ⟨p, hp, ?_⟩
    cases htext : s.disk.files.read p with
    | error fault => rw [htext] at hfound; cases hfound
    | ok c => rw [htext] at hfound; rw [Except.ok.inj hfound]

theorem orderly_source (n : Text) : Keeps (Kept (Orderly v name here)) (source v n) := by
  refine orderly_idle (Keeps.get.bind fun s => ?_)
  split
  · exact Keeps.throw _
  · exact Keeps.bind (x := modify _) (fun _ => ⟨rfl, rfl, rfl⟩) fun _ => Keeps.pure _

/-- Compiling a template fails before anything is written, or it writes an artifact that is made from the file that the
search finds. -/
theorem runFrom_compileTemplate (hw : (v.watch name here).Laid) (n : Text) (hs : Orderly v name here s) :
    (∃ e t, runFrom (compileTemplate v n) s = (.error e, t) ∧ Orderly v name here t) ∨
      ∃ program dependencies t, Orderly v name here t ∧
        (Digest.ofText n = Digest.ofText name → ∀ header, ∃ m, Store.Explains (v.watch name here) m t.disk.files
          (Store.artifactText n header (sortedNames dependencies) program) t.disk.files.now) ∧
        runFrom (compileTemplate v n) s = runFrom (work (v.store.write n program dependencies) >>= fun _ => pure program) t
    := by
  have hsource : Orderly v name here (runFrom (source v n) s).2 := orderly_source n s hs
  rw [compileTemplate, runFrom_bind]
  rcases hr : runFrom (source v n) s with ⟨e | text, s₁⟩ <;> rw [hr] at hsource
  · exact .inl ⟨e, s₁, rfl, hsource⟩
  obtain ⟨⟨p, hp, hread⟩, hidle⟩ := source_eq_ok hr
  dsimp only
  rw [runFrom_bind, runFrom_get]
  dsimp only
  have hcompiled : Orderly v name here (runFrom (compiling ((v.compiler s₁.disk.files).compile text n)) s₁).2 :=
    orderly_compiling (stays_compile s₁.disk.files text n) s₁ hsource
  rw [runFrom_bind]
  rcases hr' : runFrom (compiling ((v.compiler s₁.disk.files).compile text n)) s₁ with ⟨e | program, s₂⟩ <;>
    rw [hr'] at hcompiled
  · exact .inl ⟨e, s₂, rfl, hcompiled⟩
  rw [runFrom_compiling, Prod.mk.injEq] at hr'
  obtain ⟨hprogram, hs₂⟩ := hr'
  have hfiles : s₂.disk.files = s.disk.files := by rw [← hs₂, ← hidle.files]
  dsimp only
  rw [runFrom_bind, runFrom_get]
  dsimp only
  refine .inr ⟨program, s₂.memory.dependencies, s₂, hcompiled, fun hdigest header => ?_, rfl⟩
  -- the program comes from a source that shares its key with this one
  obtain ⟨q, made, hkey, hmade, rfl⟩ := origin_of_compile (c := v.compiler s₁.disk.files)
    (m := { s₁.memory with log := [] }) hsource.memory (Prod.ext hprogram rfl)
  let m : Store.Making := ⟨n, header, sortedNames s₂.memory.dependencies, p, text, q, made⟩
  refine ⟨m, rfl, hdigest, hkey, hmade, fun hname => ?_⟩
  obtain rfl : n = name := hname
  exact hcompiled.disk.backed (m := m) hw (hfiles ▸ hp) (hfiles ▸ hread) _

/-- Compiling a template keeps a state orderly. -/
theorem orderly_compileTemplate (hw : (v.watch name here).Laid) (n : Text) :
    Keeps (Kept (Orderly v name here)) (compileTemplate v n) := by
  intro s hs
  rcases runFrom_compileTemplate hw n hs with ⟨e, t, hr, ht⟩ | ⟨program, dependencies, t, ht, hgood, hr⟩ <;> rw [hr]
  · exact ht
  · have hwrite : Store.Worked v.store (fun n' content => n' = n ∧ ∃ header, content = Store.artifactText n header
        (sortedNames dependencies) program) (v.store.write n program dependencies) :=
      .write _ _ _ fun header => ⟨rfl, header, rfl⟩
    have hwritten := orderly_worked hw hwrite ht
      (by
        rintro n' _ ⟨hn, header, rfl⟩ hdigest
        exact hgood (hn ▸ hdigest) header)
    rw [runFrom_bind]
    rcases hr' : runFrom (work (v.store.write n program dependencies)) t with ⟨e | _, u⟩ <;> rw [hr'] at hwritten
    · exact hwritten
    · exact hwritten

/-- The artifact of a template that has been compiled is of the time of compiling. -/
theorem stamped_of_compileTemplate (hw : (v.watch name here).Laid) (hs : Orderly v name here s) {program : Text}
    (h : runFrom (compileTemplate v name) s = (.ok program, t)) {c : Text} {τ : Int}
    (hc : t.disk.files.entryAt? (v.watch name here).spot = some (.file c τ)) : τ = t.disk.files.now := by
  rcases runFrom_compileTemplate hw name hs with ⟨e, u, hr, -⟩ | ⟨program', dependencies, u, hu, hgood, hr⟩
  · rw [hr] at h
    cases h
  · rw [hr] at h
    obtain ⟨p, u', hwrite, h⟩ := runFrom_bind_eq_ok.mp h
    obtain ⟨-, rfl⟩ := Prod.mk.inj h
    rw [runFrom_work, Prod.mk.injEq] at hwrite
    obtain ⟨hok, rfl⟩ := hwrite
    exact Store.stamped_of_write hw hu.disk (hgood rfl) (Prod.ext hok rfl) hc

theorem orderly_load (hw : (v.watch name here).Laid) (n : Text) : Keeps (Kept (Orderly v name here)) (load v n) := by
  refine (orderly_work hw (.isFresh n)).bind fun fresh => ?_
  split
  · exact (orderly_compileTemplate hw n).bind fun _ => orderly_work hw (.load n)
  · exact orderly_work hw (.load n)

theorem orderly_clearStore (hw : (v.watch name here).Laid) : Keeps (Kept (Orderly v name here)) (clearStore v) := by
  refine Keeps.bind (x := modify _) (fun s hs => ⟨hs.disk, ?_, hs.stack⟩) fun _ => orderly_work hw .clear
  intro k found h
  simp [runFrom_modify, Memory.clear, Table.get?] at h

/-! ## Programs -/

/-- Every elementary step of a program keeps a state orderly, if evaluating templates and rendering components inside
does. -/
theorem orderly_elementary (hw : (v.watch name here).Laid)
    (he : ∀ n data, Keeps (Kept (Orderly v name here)) (inner.evaluate n data))
    (hr : ∀ id, Keeps (Kept (Orderly v name here)) (inner.render id)) {act : Run α} (h : Elementary v inner True act) :
    Keeps (Kept (Orderly v name here)) act := by
  cases h with
  | look => exact Keeps.get
  | beside f hf =>
    intro s
    have hcore := hf s
    simp only [State.core, Prod.mk.injEq] at hcore
    exact Idle.orderly ⟨by rw [runFrom_modifyGet, hcore.1], by rw [runFrom_modifyGet, hcore.1], hcore.2.1⟩
  | report level message traced => exact orderly_idle (idle_report level message traced)
  | print h text => exact orderly_idle (idle_print text)
  | openCapture h kind n component hk => exact orderly_idle (idle_openCapture kind n component)
  | closeCapture h kind directive hk => exact orderly_idle (idle_closeCapture kind directive)
  | takeComponent h => exact orderly_idle idle_takeComponent
  | reset h => exact orderly_idle (idle_modifyPass _)
  | compile h n => exact orderly_compileTemplate hw n
  | clear h => exact orderly_clearStore hw
  | forget h n => exact orderly_work hw (.forget n)
  | purge h age => exact orderly_work hw (.purge age)
  | size h => exact orderly_work hw .size
  | evaluate n data => exact he n data
  | render id => exact hr id

theorem orderly_enclosed (n : Text) {act : Run Unit} (h : Keeps (Kept (Orderly v name here)) act) :
    Keeps (Kept (Orderly v name here)) (enclosed n act) := by
  refine (orderly_idle idle_pass).bind fun p => (orderly_idle (idle_openCapture _ _ _)).bind fun _ => ?_
  refine Keeps.bind (x := framed _ _ _ _) ?_ fun _ => orderly_idle (idle_collect _ _)
  refine (orderly_idle (idle_modifyPass _)).bind fun _ => Keeps.bind (h.tryCatch fun e => ?_) fun _ => ?_
  · exact (orderly_idle (idle_modifyPass _)).bind fun _ => Keeps.throw _
  · exact (orderly_idle (idle_modifyPass _)).bind fun _ => Keeps.pure _

/-- Evaluating templates and rendering components keeps a state orderly, on every level. -/
theorem orderly_innerAt (hw : (v.watch name here).Laid) (levels : Nat) :
    (∀ n data, Keeps (Kept (Orderly v name here)) ((innerAt v levels).evaluate n data)) ∧
      ∀ id, Keeps (Kept (Orderly v name here)) ((innerAt v levels).render id) := by
  induction levels with
  | zero => exact ⟨fun _ _ => Keeps.throw _, fun _ => Keeps.throw _⟩
  | succ levels ih =>
    have hinside : ∀ {α : Type} {act : Run α}, Stepwise v (innerAt v levels) act → Keeps (Kept (Orderly v name here)) act :=
      fun h => h.keeps (orderly_elementary hw ih.1 ih.2)
    refine ⟨fun n data => ?_, fun id => hinside (Stepwise.renderComponent id)⟩
    refine (orderly_idle (idle_checkNesting n)).bind fun _ => (orderly_load hw n).bind fun loaded => ?_
    exact orderly_enclosed n (hinside (.runProgram _ data))

/-- Whatever a view does keeps a state orderly. -/
theorem orderly_stepwise (hw : (v.watch name here).Laid) {act : Run α} (h : Stepwise v v.inner act) :
    Keeps (Kept (Orderly v name here)) act :=
  h.keeps (orderly_elementary hw (orderly_innerAt hw v.levels).1 (orderly_innerAt hw v.levels).2)

end Run
end Stencil
