import Stencil.Proofs.Compile.Session
import Stencil.Proofs.View.Frame
import Stencil.Proofs.View.Orderly

/-!
# What a fresh artifact serves

A view is used while the files of its sources are written and deleted: pages are rendered, templates compiled, and the
store is looked after.  A fresh artifact serves what a new compiler makes of the source that the search finds as long as
the file it was made from is still there.  Where that file is gone the search finds another one, and the artifact may be
fresh all the same, since only times are compared.

* `Event` — what happens around a view; `history` — the state behind events, each later than the one before.
* `Ready` — files with which a view begins.
* `Serves` — what a making that is in use says of the source that the search finds.
* `fresh_after` — every fresh artifact, and every program loaded from one, comes from a making that serves the name.
-/

namespace Stencil.Run

open Compiler

variable {v : View} {name : Text} {here : List Text} {s : State}

/-! ## Histories -/

/-- What happens around a view: files are written and deleted, methods of the view are called, pages rendered, the store
is asked and looked after, and the view is made anew. -/
inductive Event where
  | put (p : Path) (content : Text)
  | delete (p : Path)
  | call (method : Text) (args : List Value)
  | render (name : Text) (data : List (Value × Value))
  | isFresh (name : Text)
  | load (name : Text)
  | clear
  | forget (name : Text)
  | purge (age : Age)
  | size
  | restart

/-- The step of an event. -/
def Event.act (v : View) : Event → Run Unit
  | put p content => work (Store.replace p content)
  | delete p => work (Work.change fun f => f.remove p)
  | call method args => do let _ ← v.call method args
  | render name data => do let _ ← v.render name data
  | isFresh name => do let _ ← work (v.store.isFresh name)
  | load name => do let _ ← work (v.store.load name)
  | clear => do let _ ← work v.store.clear
  | forget name => do let _ ← work (v.store.forget name)
  | purge age => do let _ ← work (v.store.purge age)
  | size => do let _ ← work v.store.size
  | restart => modify State.renewed

/-- The same state at a later time. -/
def later (pause : Nat) (s : State) : State :=
  { s with disk := { s.disk with files := { s.disk.files with now := s.disk.files.now + 1 + pause } } }

/-- The state behind an event that happens after a pause, however the event ends. -/
def happen (v : View) (s : State) (e : Nat × Event) : State := (runFrom (e.2.act v) (later e.1 s)).2

/-- The state behind events. -/
def history (v : View) (s : State) (events : List (Nat × Event)) : State := events.foldl (happen v) s

/-- An event writes nothing in the place of the artifact. -/
def Event.Spares (w : Store.Watch) : Event → Prop
  | put p _ => w.Off p
  | _ => True

/-- Files with which a view begins: its roots are there, no file is from the future, and there is no artifact yet. -/
structure Ready (w : Store.Watch) (f : Files) : Prop where
  here : f.here = w.here
  tree : f.IsTree
  roots : ∀ r ∈ w.store.finder.roots, f.look r = .ok .directory
  times : ∀ place c τ, f.entryAt? place = some (.file c τ) → τ ≤ f.now
  vacant : f.entryAt? w.spot = none

theorem Ready.orderly {f : Files} (h : Ready (v.watch name here) f) : Orderly v name here (.ofFiles f) where
  disk := {
    here := h.here
    tree := h.tree
    roots := h.roots
    times := h.times
    clock := Int.le_refl _
    vacant := by
      intro hdir
      rw [State.ofFiles, h.vacant] at hdir
      cases hdir
    artifact := by
      intro c τ hfile
      rw [State.ofFiles, h.vacant] at hfile
      cases hfile
    program := by
      intro l hl
      cases hl }
  memory k found hk := by cases hk
  stack := rfl

theorem tidy_later (h : Orderly v name here s) (pause : Nat) :
    Store.Tidy (v.watch name here) s.disk.files.now (later pause s).disk :=
  h.disk.later (by omega)

theorem Orderly.later (h : Orderly v name here s) (pause : Nat) : Orderly v name here (later pause s) where
  disk := (tidy_later h pause).mono (tidy_later h pause).clock (Int.le_refl _)
  memory := h.memory
  stack := h.stack

/-- Whatever happens, every artifact stays accounted for. -/
theorem Orderly.happen (hw : (v.watch name here).Laid) (h : Orderly v name here s) {e : Nat × Event}
    (he : e.2.Spares (v.watch name here)) : Orderly v name here (happen v s e) := by
  obtain ⟨pause, e⟩ := e
  have hlater := h.later pause
  have hdiscard : ∀ {α : Type} {act : Run α}, Keeps (Kept (Orderly v name here)) act →
      Keeps (Kept (Orderly v name here)) (do let _ ← act) := fun hact => hact.bind fun _ => Keeps.pure _
  cases e with
  | put p content =>
    have htidy := (tidy_later h pause).replace hw (by change s.disk.files.now < s.disk.files.now + 1 + pause; omega) he
      content
    exact ⟨htidy, h.memory, h.stack⟩
  | delete p =>
    obtain ⟨htidy, hnow⟩ := hlater.disk.delete p
    refine ⟨?_, h.memory, h.stack⟩
    rw [← hnow] at htidy
    exact htidy
  | call method args =>
    refine hdiscard (orderly_stepwise hw ?_) _ hlater
    exact .bind (.mapM Stepwise.settle args) fun args =>
      .bind (Stepwise.callMethod (e := ⟨v, v.inner⟩) .view method args []) fun _ => Stepwise.now _
  | render n data => exact hdiscard (orderly_stepwise hw (.renderPage _ _)) _ hlater
  | isFresh n => exact hdiscard (orderly_work hw (.isFresh n)) _ hlater
  | load n => exact hdiscard (orderly_work hw (.load n)) _ hlater
  | clear => exact hdiscard (orderly_work hw .clear) _ hlater
  | forget n => exact hdiscard (orderly_work hw (.forget n)) _ hlater
  | purge age => exact hdiscard (orderly_work hw (.purge age)) _ hlater
  | size => exact hdiscard (orderly_work hw .size) _ hlater
  | restart =>
    have hdisk := hlater.disk
    refine ⟨⟨hdisk.here, hdisk.tree, hdisk.roots, hdisk.times, hdisk.clock, hdisk.vacant, hdisk.artifact, ?_⟩, ?_, rfl⟩
    · intro l hl
      cases hl
    · intro k found hk
      cases hk

theorem Orderly.history (hw : (v.watch name here).Laid) (h : Orderly v name here s) {events : List (Nat × Event)}
    (he : ∀ e ∈ events, e.2.Spares (v.watch name here)) : Orderly v name here (history v s events) := by
  induction events generalizing s with
  | nil => exact h
  | cons e events ih => exact ih (h.happen hw (he e (by simp))) fun e' he' => he e' (by simp [he'])

/-! ## What is served -/

/-- What a new compiler without a loader answers. -/
def newAnswer (v : View) (source name : Text) : Except Error Compiled :=
  ({ compiler := { registry := v.registry } } : Session).answer source name

/-- A making serves a name: it is one of this name, unless two names have the same digest; what it made is what a new
compiler answers for a source under a name with the same key, so for the source that was read, unless the two are
translated differently; and the file that was read is found as long as it is there, with the same text. -/
structure Serves (v : View) (name : Text) (f : Files) (m : Store.Making) : Prop where
  digest : Digest.ofText m.name = Digest.ofText name
  key : key m.met.1 m.met.2 = key m.source m.name
  made : newAnswer v m.met.1 m.met.2 = .ok m.made
  same : Apart v.registry m.met (m.source, m.name) → newAnswer v m.source m.name = .ok m.made
  found : m.name = name → (v.finder.find f name = .ok m.file ↔ f.isFile? m.file = .ok true)
  text : m.name = name → f.isFile? m.file = .ok true → f.read m.file = .ok m.source

/-- A making that accounts for a text as new as the source that is found serves the name. -/
theorem serves_of_explains {last t : Int} {d : Disk} {content : Text} {m : Store.Making} {p : Path} {e : Entry}
    (hw : (v.watch name here).Laid) (h : Store.Tidy (v.watch name here) last d)
    (hm : Store.Explains (v.watch name here) m d.files content t) (hfind : v.finder.find d.files name = .ok p)
    (hstat : d.files.stat p = .ok e) (ht : e.time ≤ t) : Serves v name d.files m where
  digest := hm.digest
  key := hm.key
  made := Session.answer_new hm.made
  same happart := Session.answer_new ((happart hm.key).symm.trans hm.made)
  found hname := ((hm.backed hname).found_iff hw h hfind hstat ht).symm
  text hname hfile := by
    have hfound := ((hm.backed hname).found_iff hw h hfind hstat ht).mp hfile
    obtain rfl : p = m.file := Except.ok.inj (hfind.symm.trans hfound)
    exact (hm.backed hname).read_eq h hfound hstat ht

/-- What is loaded serves the name, as far as it has a source, if the artifact is as new as that. -/
theorem serves_of_load {s : State} {l : Loaded} (hw : (v.watch name here).Laid) (hs : Orderly v name here s)
    (h : (runFrom (work (v.store.load name)) s).1 = .ok l) {p : Path} {e e' : Entry}
    (hfind : v.finder.find s.disk.files name = .ok p) (hstat : s.disk.files.stat p = .ok e)
    (hstat' : s.disk.files.stat (v.store.artifactPath name) = .ok e') (ht : e.time ≤ e'.time) :
    ∃ m : Store.Making, Script.parse (Files.unifyBreaks m.artifact) = .ok l.program ∧ Serves v name s.disk.files m := by
  obtain ⟨-, -, haccounted⟩ := hs.disk.load name
  obtain ⟨m, hparse, -, hm⟩ := haccounted l h rfl
  obtain ⟨e'', hstat'', htime⟩ := Store.time_of_load (Prod.ext h rfl)
  obtain rfl := Except.ok.inj (hstat'.symm.trans hstat'')
  exact ⟨m, hparse, serves_of_explains hw hs.disk hm hfind hstat (by omega)⟩

/-- Loading changes no files. -/
theorem files_of_load (hs : Orderly v name here s) :
    (runFrom (work (v.store.load name)) s).2.disk.files = s.disk.files := (hs.disk.load name).2.1

/-- **Fresh artifacts.**  Behind any history of a view, if the artifact of a name is fresh then it is the artifact of a
making that serves the name; and whenever the program of a name is loaded, compiled before or not, it is the program of
such a making.  So what is stored and what is run is what a new compiler makes of the source that the search finds exactly
as long as the file it was made from is there. -/
theorem fresh_after (v : View) (name : Text) (f : Files) (events : List (Nat × Event))
    (hf : Ready (v.watch name f.here) f) (hw : (v.watch name f.here).Laid)
    (hevents : ∀ e ∈ events, e.2.Spares (v.watch name f.here)) :
    let s := history v (.ofFiles f) events
    ((runFrom (v.store.isFresh name) s.disk).1 = .ok true →
      ∃ m τ, s.disk.files.look (v.store.artifactPath name) = .ok (.file m.artifact τ) ∧ Serves v name s.disk.files m) ∧
    ∀ l t p, runFrom (load v name) s = (.ok l, t) → v.finder.find t.disk.files name = .ok p →
      ∃ m : Store.Making, Script.parse (Files.unifyBreaks m.artifact) = .ok l.program ∧ Serves v name t.disk.files m := by
  intro s
  have hs : Orderly v name f.here s := hf.orderly.history hw hevents
  refine ⟨fun hfresh => ?_, fun l t p hload hfind => ?_⟩
  · obtain ⟨-, p, e, e', hfind, hstat, hstat', htime⟩ := Store.isFresh_eq_true (Prod.ext hfresh rfl)
    obtain ⟨c, τ, rfl, hentry⟩ := hs.disk.entry_of_stat hstat'
    obtain ⟨m, hm⟩ := hs.disk.artifact c τ hentry
    refine ⟨m, τ, ?_, serves_of_explains hw hs.disk hm hfind hstat htime⟩
    rw [Files.stat_eq_ok hstat', hm.artifact]
  · obtain ⟨fresh, s₁, hfresh, hload⟩ := runFrom_bind_eq_ok.mp hload
    have hs₁ : Orderly v name f.here s₁ := by
      have := orderly_work hw (.isFresh name) s hs
      rwa [hfresh] at this
    cases fresh with
    | true =>
      change runFrom (work (v.store.load name)) s₁ = (.ok l, t) at hload
      have ht : t.disk.files = s₁.disk.files := by
        rw [← files_of_load hs₁, hload]
      rw [runFrom_work, Prod.mk.injEq] at hfresh
      obtain ⟨hok, rfl⟩ := hfresh
      obtain ⟨hfiles, q, e, e', hfind', hstat, hstat', htime⟩ := Store.isFresh_eq_true (Prod.ext hok rfl)
      rw [ht]
      exact serves_of_load hw hs₁ (by rw [hload]) (hfiles ▸ hfind') (hfiles ▸ hstat) (hfiles ▸ hstat') htime
    | false =>
      obtain ⟨program, s₂, hcompile, hload⟩ := runFrom_bind_eq_ok.mp hload
      have hs₂ : Orderly v name f.here s₂ := by
        have := orderly_compileTemplate hw name s₁ hs₁
        rwa [hcompile] at this
      have ht : t.disk.files = s₂.disk.files := by
        rw [← files_of_load hs₂, hload]
      rw [ht] at hfind ⊢
      have hloaded : (runFrom (work (v.store.load name)) s₂).1 = .ok l := by rw [hload]
      obtain ⟨e, hstat, htime⟩ := hs₂.disk.stat_of_find hfind
      obtain ⟨e', hstat', -⟩ := Store.time_of_load (Prod.ext hloaded rfl)
      refine serves_of_load hw hs₂ hloaded hfind hstat hstat' ?_
      -- the artifact is of the time of compiling, so nothing is newer
      obtain ⟨c, τ, rfl, hentry⟩ := hs₂.disk.entry_of_stat hstat'
      have hstamp := stamped_of_compileTemplate hw hs₁ hcompile hentry
      exact hstamp ▸ htime

/-- A view with templates of its own and of a framework. -/
def twoRoots : View := { plainView with finder := { app := ⟨[], ["app"]⟩, framework := some ⟨[], ["fw"]⟩ } }

/-- The roots without any templates. -/
def bareRoots : Files := { entries := [(["app"], .directory), (["fw"], .directory)] }

theorem entryAt?_bareRoots {place : List Text} {e : Entry} (h : bareRoots.entryAt? place = some e) :
    e = .directory ∧ place.dropLast = [] := by
  cases place with
  | nil => exact ⟨(Option.some.inj h).symm, rfl⟩
  | cons part place =>
    obtain ⟨⟨at_, e'⟩, hfound, rfl⟩ := Option.map_eq_some_iff.mp h
    have hat : at_ = part :: place := by simpa using List.find?_some hfound
    have hmem := List.mem_of_find?_eq_some hfound
    simp only [bareRoots, List.mem_cons, List.not_mem_nil, or_false, Prod.mk.injEq] at hmem
    rcases hmem with ⟨hplace, he⟩ | ⟨hplace, he⟩
    · exact ⟨he, by rw [← hat, hplace]; rfl⟩
    · exact ⟨he, by rw [← hat, hplace]; rfl⟩

theorem ready_bareRoots : Ready (twoRoots.watch "x" bareRoots.here) bareRoots where
  here := rfl
  tree place e h := by
    rw [(entryAt?_bareRoots h).2]
    rfl
  roots := by decide +kernel
  times place c τ h := by cases (entryAt?_bareRoots h).1
  vacant := by decide +kernel

theorem laid_twoRoots : (twoRoots.watch "x" bareRoots.here).Laid := by
  refine Store.Watch.laid (by decide) (by decide) ?_ (by decide)
  rintro last hlast ⟨stem, rfl⟩
  rcases hlast with ⟨more, hmore⟩ | ⟨more, hmore⟩ | hmore
  all_goals
    have hend := congrArg List.getLast? hmore
    simp [Store.ending, Store.lockEnding, twoRoots, plainView, View.watch, View.store] at hend

/-- A template of the framework is overridden and compiled; the manifest says that it includes nothing. -/
def overridden : List (Nat × Event) := [
  (0, .put ⟨[], ["fw", "x.html"]⟩ "old"), (0, .put ⟨[], ["app", "x.html"]⟩ "new"), (0, .call "compile" [.str "x"]),
  (0, .put ⟨[], ["app", "cache", "manifest.json"]⟩ "\x7b\"x\":\x7b\x7d\x7d")]

/-- While the override is there, it is found, and the artifact is what it is compiled to. -/
theorem fresh_after_overridden :
    let s := history twoRoots (.ofFiles bareRoots) overridden
    ∃ m τ, s.disk.files.look (twoRoots.store.artifactPath "x") = .ok (.file m.artifact τ) ∧
      Serves twoRoots "x" s.disk.files m := by
  refine (fresh_after twoRoots "x" bareRoots overridden ready_bareRoots laid_twoRoots ?_).1 ?_
  · simp only [overridden, List.mem_cons, List.not_mem_nil, or_false]
    rintro _ (rfl | rfl | rfl | rfl)
    · exact Store.Watch.off (by decide) (by decide +kernel)
    · exact Store.Watch.off (by decide) (by decide +kernel)
    · trivial
    · exact Store.Watch.off (by decide) (by decide +kernel)
  · have hfresh : (runFrom (twoRoots.store.isFresh "x") (history twoRoots (.ofFiles bareRoots) overridden).disk).1.toOption
        = some true := by decide +kernel
    cases hr : (runFrom (twoRoots.store.isFresh "x") (history twoRoots (.ofFiles bareRoots) overridden).disk).1 with
    | error e => rw [hr] at hfresh; cases hfresh
    | ok b => rw [hr] at hfresh; rw [Option.some.inj hfresh]

/-- An artifact ends with its program. -/
theorem program_suffix (name header : Text) (includes : List Text) (program : Text) :
    program ++ ("\n" : Text) <:+ Store.artifactText name header includes program := by
  unfold Store.artifactText
  exact ⟨_, (List.append_assoc _ _ _).symm⟩

/-- The state behind the deletion of the override. -/
def deleted : State :=
  history twoRoots (.ofFiles bareRoots) (overridden ++ [(0, .delete ⟨[], ["app", "x.html"]⟩)])

theorem stored_deleted : (deleted.disk.files.read (twoRoots.store.artifactPath "x")).toOption =
    some "# Compiled by vellum - do not edit.\n# template: x\n# source: app/x.html\n_echo('new')\n\n" := by
  decide +kernel

/-- The artifact of the override is still fresh, though the template of the framework is found now, for which a new
compiler answers something else. -/
theorem fresh_of_deleted :
    (runFrom (twoRoots.store.isFresh "x") deleted.disk).1.toOption = some true ∧
      ∃ p source made, (twoRoots.finder.find deleted.disk.files "x").toOption = some p ∧
        (deleted.disk.files.read p).toOption = some source ∧ (newAnswer twoRoots source "x").toOption = some made ∧
        ∀ header includes, (deleted.disk.files.read (twoRoots.store.artifactPath "x")).toOption ≠
          some (Store.artifactText "x" header includes made.program) := by
  refine ⟨by decide +kernel, ⟨[], ["fw", "x.html"]⟩, "old", ⟨"_echo('old')\n", []⟩, by decide +kernel, by decide +kernel,
    by decide +kernel, fun header includes h => ?_⟩
  have hsuffix := program_suffix "x" header includes "_echo('old')\n"
  rw [← Option.some.inj (stored_deleted.symm.trans h)] at hsuffix
  exact absurd hsuffix (by decide)

end Stencil.Run
