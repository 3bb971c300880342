import Mathlib
import Stencil.Proofs.Compile.Session

/-!
# Cycles of includes

A template is compiled exactly if no path of includes from it comes to a name twice or is too long; otherwise the error
shows a path that comes back, or says that includes are nested too deeply.

* `IncludePath` — names one after the other, each included by the source of the one before it.
* `PathFault` — what an error says of such a path.
* `visit_eq_ok_iff`, `visit_eq_error` — when visiting a template succeeds, and how it fails; `visit_decided` — from outside.
* `Session.comeUpon` — the sources under names that a session has come upon since results were last forgotten.
* `compile_decided` — what a compiler answers after any moves, told by the paths alone.
-/

namespace Stencil

/-- An error that differs from one of a template in its place only is one of a template, with the same cause. -/
theorem compile_of_unplaced {e : Error} {e' : CompileError} (h : e.unplaced = Error.unplaced (.compile e')) :
    ∃ e₁, e = .compile e₁ ∧ e₁.cause = e'.cause := by
  cases e with
  | compile e₁ =>
    have hsame : ({ cause := e₁.cause } : CompileError) = { cause := e'.cause } := Error.compile.inj h
    exact ⟨e₁, rfl, (CompileError.mk.inj hsame).1⟩
  | _ => cases h

namespace Compiler

/-! ## Paths of includes -/

/-- A path of includes from a source under a name: the names one after the other, each of them included by the source of
the one before it. -/
inductive IncludePath (registry : Registry) (text : Text → Text) : Text → Text → List Text → Prop
  | stop (source name : Text) : IncludePath registry text source name [name]
  | go {source name next : Text} {path : List Text} : next ∈ included registry source name →
    IncludePath registry text (text next) next path → IncludePath registry text source name (name :: path)

/-- What an error says of the paths of includes from a source under a name: that one of them comes back to a name that it
has come to before, or that one is longer than the limit. -/
inductive PathFault (registry : Registry) (text : Text → Text) (limit : Int) (source name : Text) : Cause → Prop
  | cycle {before : List Text} {last : Text} : IncludePath registry text source name (before ++ [last]) →
    last ∈ before → PathFault registry text limit source name (.cycle (before ++ [last]))
  | depth {path : List Text} : IncludePath registry text source name path → limit < path.length →
    PathFault registry text limit source name (.depth limit)

variable {c : Compiler} {registry : Registry} {text : Text → Text} {load : Loader} {source name : Text}
  {around path : List Text} {levels : Nat}

theorem IncludePath.length_pos (h : IncludePath registry text source name path) : 0 < path.length := by
  cases h <;> simp

/-! ## Visits along paths -/

/-- Something is done for all members of a list exactly if it can be done for each. -/
theorem forM_eq_ok {ε α : Type} {f : α → Except ε Unit} {l : List α} {u : Unit} :
    l.forM f = .ok u ↔ ∀ a ∈ l, f a = .ok () := by
  induction l with
  | nil => exact ⟨fun _ a ha => absurd ha List.not_mem_nil, fun _ => rfl⟩
  | cons a l ih =>
    rw [List.forM, bind_eq_ok, List.forall_mem_cons, ← ih]
    constructor
    · rintro ⟨_, ha, hl⟩
      exact ⟨ha, hl⟩
    · rintro ⟨ha, hl⟩
      exact ⟨(), ha, hl⟩

theorem forM_eq_error {ε α : Type} {f : α → Except ε Unit} {l : List α} {e : ε} (h : l.forM f = .error e) :
    ∃ a ∈ l, f a = .error e := by
  induction l with
  | nil => cases h
  | cons a l ih =>
    rw [List.forM] at h
    rcases bind_eq_error.mp h with ha | ⟨_, -, hl⟩
    · exact ⟨a, by simp, ha⟩
    · obtain ⟨b, hb, he⟩ := ih hl
      exact ⟨b, by simp [hb], he⟩

/-- What is refused at once is on a path that stops at once. -/
theorem path_of_checkOutside {e : Error} (h : checkOutside around name = .error e) :
    ∃ before last, IncludePath registry text source name (before ++ [last]) ∧ last ∈ around ++ before ∧
      e = .ofCause (.cycle (around ++ before ++ [last])) := by
  unfold checkOutside at h
  split at h
  case isTrue hmem =>
    refine ⟨[], name, .stop source name, by simpa using hmem, ?_⟩
    rw [List.append_nil]
    exact (Except.error.inj h).symm
  case isFalse => cases h

section Visit

variable (hload : c.loader = some load) (htext : ∀ n, ∃ log, load n = .ok (text n, log))

include hload htext

/-- An included template is looked at in the text that the loader finds. -/
theorem lookAt_eq (look : Text → Text → Except Error Compiled) (n : Text) :
    lookAt c look n = (look (text n) n >>= fun _ => .ok ()) := by
  obtain ⟨log, hn⟩ := htext n
  simp only [lookAt, hload, hn]
  rfl

theorem reaches_included {n : Text} (hn : n ∈ included c.registry source name) :
    Reaches c (source, name) (text n, n) := by
  obtain ⟨log, hfound⟩ := htext n
  exact .next (.here _) hload hn hfound

/-- A template that can be translated is visited well exactly if it is not among those around it and everything it
includes is visited well. -/
theorem visit_succ_eq_ok_iff (hmade : ∃ made, translation c.registry source name = .ok made) :
    (∃ made, visit c (levels + 1) around source name = .ok made) ↔ name ∉ around ∧
      ∀ n ∈ included c.registry source name, ∃ made, visit c levels (around ++ [name]) (text n) n = .ok made := by
  constructor
  · rintro ⟨made, h⟩
    obtain ⟨_, houtside, h⟩ := bind_eq_ok.mp h
    obtain ⟨_, hlook, -⟩ := bind_eq_ok.mp h
    refine ⟨not_mem_of_checkOutside houtside, fun n hn => ?_⟩
    have hn := forM_eq_ok.mp hlook n hn
    rw [lookAt_eq hload htext] at hn
    obtain ⟨made, hn, -⟩ := bind_eq_ok.mp hn
    exact ⟨made, hn⟩
  · rintro ⟨hname, hincluded⟩
    obtain ⟨made, hmade⟩ := hmade
    refine ⟨made, bind_eq_ok.mpr ⟨(), if_neg hname, bind_eq_ok.mpr ⟨(), forM_eq_ok.mpr fun n hn => ?_, hmade⟩⟩⟩
    obtain ⟨made, hn⟩ := hincluded n hn
    rw [lookAt_eq hload htext, hn]
    rfl

/-- Visiting a template succeeds exactly if no path of includes from it comes to a name around it, comes to a name twice
or has more names than templates may be opened. -/
theorem visit_eq_ok_iff (levels : Nat) (around : List Text) (source name : Text)
    (hmade : ∀ q, Reaches c (source, name) q → ∃ made, translation c.registry q.1 q.2 = .ok made) :
    (∃ made, visit c levels around source name = .ok made) ↔
      ∀ path, IncludePath c.registry text source name path →
        (∀ n ∈ path, n ∉ around) ∧ path.Nodup ∧ path.length ≤ levels := by
  induction levels generalizing around source name with
  | zero =>
    constructor
    · rintro ⟨made, h⟩
      obtain ⟨_, -, h⟩ := bind_eq_ok.mp h
      cases h
    · intro h
      obtain ⟨-, -, hlength⟩ := h [name] (.stop source name)
      simp at hlength
  | succ levels ih =>
    rw [visit_succ_eq_ok_iff hload htext (hmade _ (.here _))]
    have hincluded : ∀ n ∈ included c.registry source name, ∀ q, Reaches c (text n, n) q →
        ∃ made, translation c.registry q.1 q.2 = .ok made :=
      fun n hn q hq => hmade q ((reaches_included hload htext hn).trans hq)
    constructor
    · rintro ⟨hname, hvisit⟩ path hpath
      cases hpath with
      | stop => simpa using hname
      | @go _ _ n path hn hpath =>
        obtain ⟨haround, hnodup, hlength⟩ := (ih (around ++ [name]) (text n) n (hincluded n hn)).mp (hvisit n hn) path hpath
        have hback : name ∉ path := fun hmem => haround name hmem (by simp)
        refine ⟨List.forall_mem_cons.mpr ⟨hname, fun m hm hmem => haround m hm (by simp [hmem])⟩, ?_, ?_⟩
        · exact List.nodup_cons.mpr ⟨hback, hnodup⟩
        · rw [List.length_cons]
          omega
    · intro h
      refine ⟨(h [name] (.stop source name)).1 name (by simp), fun n hn => ?_⟩
      refine (ih (around ++ [name]) (text n) n (hincluded n hn)).mpr fun path hpath => ?_
      obtain ⟨haround, hnodup, hlength⟩ := h (name :: path) (.go hn hpath)
      obtain ⟨hback, hnodup⟩ := List.nodup_cons.mp hnodup
      refine ⟨fun m hm hmem => ?_, hnodup, by rw [List.length_cons] at hlength; omega⟩
      rcases List.mem_append.mp hmem with hmem | hmem
      · exact haround m (by simp [hm]) hmem
      · exact hback (List.mem_singleton.mp hmem ▸ hm)

/-- A visit fails along a path of includes: the path comes back to itself or to a template around it, or has one name more
than templates may be opened. -/
theorem visit_eq_error (levels : Nat) (around : List Text) (source name : Text)
    (hmade : ∀ q, Reaches c (source, name) q → ∃ made, translation c.registry q.1 q.2 = .ok made) {e : Error}
    (h : visit c levels around source name = .error e) :
    (∃ before last, IncludePath c.registry text source name (before ++ [last]) ∧ last ∈ around ++ before ∧
      e = .ofCause (.cycle (around ++ before ++ [last]))) ∨
    ∃ path last, IncludePath c.registry text source name path ∧ path.length = levels + 1 ∧
      e = .compile { cause := .depth c.maxDepth, template := some last } := by
  induction levels generalizing around source name with
  | zero =>
    rcases bind_eq_error.mp h with h | ⟨_, -, h⟩
    · exact .inl (path_of_checkOutside h)
    · exact .inr ⟨[name], name, .stop source name, rfl, (Except.error.inj h).symm⟩
  | succ levels ih =>
    rcases bind_eq_error.mp h with h | ⟨_, -, h⟩
    · exact .inl (path_of_checkOutside h)
    rcases bind_eq_error.mp h with h | ⟨_, -, h⟩
    · obtain ⟨n, hn, h⟩ := forM_eq_error h
      rw [lookAt_eq hload htext] at h
      have hvisit : visit c levels (around ++ [name]) (text n) n = .error e :=
        (bind_eq_error.mp h).resolve_right fun ⟨_, _, h⟩ => nomatch h
      have hmade' : ∀ q, Reaches c (text n, n) q → ∃ made, translation c.registry q.1 q.2 = .ok made :=
        fun q hq => hmade q ((reaches_included hload htext hn).trans hq)
      rcases ih (around ++ [name]) (text n) n hmade' hvisit with
        ⟨before, last, hpath, hlast, he⟩ | ⟨path, last, hpath, hlength, he⟩
      · exact .inl ⟨name :: before, last, .go hn hpath, by simpa using hlast, by simpa using he⟩
      · exact .inr ⟨name :: path, last, .go hn hpath, by rw [List.length_cons, hlength], he⟩
    · obtain ⟨made, hmade⟩ := hmade _ (.here _)
      rw [hmade] at h
      cases h

/-- A visit from outside succeeds exactly if no path of includes comes to a name twice or is longer than the bound allows,
and fails by such a path. -/
theorem visit_decided (source name : Text)
    (hmade : ∀ q, Reaches c (source, name) q → ∃ made, translation c.registry q.1 q.2 = .ok made) :
    ((∃ made, visit c c.maxDepth.toNat [] source name = .ok made) ↔
      ∀ path, IncludePath c.registry text source name path → path.Nodup ∧ path.length ≤ c.maxDepth) ∧
    ∀ e, visit c c.maxDepth.toNat [] source name = .error e →
      ∃ e', e = .compile e' ∧ PathFault c.registry text c.maxDepth source name e'.cause := by
  constructor
  · rw [visit_eq_ok_iff hload htext _ _ _ _ hmade]
    refine forall₂_congr fun path hpath => ?_
    have hpos := hpath.length_pos
    have hlength : path.length ≤ c.maxDepth.toNat ↔ (path.length : Int) ≤ c.maxDepth := by omega
    simp [hlength]
  · intro e h
    rcases visit_eq_error hload htext _ _ _ _ hmade h with
      ⟨before, last, hpath, hlast, rfl⟩ | ⟨path, last, hpath, hlength, rfl⟩
    · exact ⟨_, rfl, .cycle hpath hlast⟩
    · exact ⟨_, rfl, .depth hpath (by omega)⟩

end Visit

end Compiler

namespace Session

open Compiler

/-! ## What a session has come upon -/

/-- Different sources under names are remembered under different keys. -/
def KeysDiffer (S : Set (Text × Text)) : Prop := ∀ p ∈ S, ∀ q ∈ S, key p.1 p.2 = key q.1 q.2 → p = q

variable {s : Session} {S S' : Set (Text × Text)}

/-- The sources under names that compiling a source under a name comes to. -/
def visited (s : Session) (source name : Text) : Set (Text × Text) :=
  {q | Visits s.compiler s.compiler.maxDepth.toNat [] (source, name) q}

/-- The sources under names that have been come to since results were last forgotten, behind a move. -/
def comeUponBy (s : Session) (S : Set (Text × Text)) : Move → Set (Text × Text)
  | .compile source name => S ∪ s.visited source name
  | .edit _ => S
  | .clear => ∅

/-- The sources under names that have been come to since results were last forgotten, behind moves. -/
def comeUpon (s : Session) (S : Set (Text × Text)) : List Move → Set (Text × Text)
  | [] => S
  | move :: moves => (s.after move).comeUpon (s.comeUponBy S move) moves

theorem KeysDiffer.mono (h : KeysDiffer S') (hsub : S ⊆ S') : KeysDiffer S :=
  fun p hp q hq => h p (hsub hp) q (hsub hq)

/-- Where keys differ, a source under a name is answered as by a visit, and what is remembered behind comes from what was
come to. -/
theorem compile_of_keysDiffer (horigin : Origin s.compiler.registry S s.memory) (hstack : s.memory.stack = [])
    (source name : Text) (hkeys : KeysDiffer (S ∪ s.visited source name)) :
    Alike (s.answer source name) (s.compiler.visit s.compiler.maxDepth.toNat [] source name) ∧
      Origin s.compiler.registry (S ∪ s.visited source name) (s.after (.compile source name)).memory := by
  have hvisits : ∀ q, Visits s.compiler s.compiler.maxDepth.toNat [] (source, name) q →
      q ∈ S ∪ s.visited source name ∧ ∀ p ∈ S ∪ s.visited source name, Apart s.compiler.registry p q := by
    intro q hq
    refine ⟨.inr hq, fun p hp hkey => ?_⟩
    rw [hkeys p hp q (.inr hq) hkey]
  obtain ⟨halike, horigin', -⟩ := compile_meets hvisits s.memory (horigin.mono Set.subset_union_left) hstack
  rw [runFrom_answered] at horigin'
  exact ⟨halike, horigin'⟩

/-- One move leaves what is remembered coming from what was come to, where keys differ. -/
theorem origin_after (hsound : Sound S' s) (horigin : KeysDiffer S → Origin s.compiler.registry S s.memory) (move : Move)
    (hkeys : KeysDiffer (s.comeUponBy S move)) :
    Origin s.compiler.registry (s.comeUponBy S move) (s.after move).memory := by
  cases move with
  | compile source name =>
    have horigin : Origin s.compiler.registry S s.memory := horigin (hkeys.mono Set.subset_union_left)
    exact (compile_of_keysDiffer horigin hsound.2 source name hkeys).2
  | edit loader => exact horigin hkeys
  | clear => exact origin_clear

/-- Moves leave what is remembered coming from what was come to since results were last forgotten, where keys differ. -/
theorem origin_run (hsound : Sound S' s) (horigin : KeysDiffer S → Origin s.compiler.registry S s.memory)
    (moves : List Move) (hkeys : KeysDiffer (s.comeUpon S moves)) :
    Origin (s.run moves).compiler.registry (s.comeUpon S moves) (s.run moves).memory := by
  induction moves generalizing s S S' with
  | nil => exact horigin hkeys
  | cons move moves ih =>
    refine ih (hsound.after move) (fun hkeys => ?_) hkeys
    have hregistry : (s.after move).compiler.registry = s.compiler.registry := by cases move <;> rfl
    rw [hregistry]
    exact origin_after hsound horigin move hkeys

/-- **Cycles and depth.**  However a compiler was used before, compiling a source under a name leaves nothing open.  If all
sources that are come to under names have keys of their own, and everything the source leads to can be translated by
itself, then compiling succeeds exactly if no path of includes from the source comes to a name twice or has more names
than the bound allows; and if it fails, then by such a path. -/
theorem compile_decided (c : Compiler) (moves : List Move) (source name : Text) :
    let s := ({ compiler := c } : Session).run moves
    let r := runFrom (s.compiler.compile source name) s.memory
    r.2.stack = [] ∧
    ∀ (load : Loader) (text : Text → Text), s.compiler.loader = some load → (∀ n, ∃ log, load n = .ok (text n, log)) →
      KeysDiffer (({ compiler := c } : Session).comeUpon ∅ moves ∪ s.visited source name) →
      (∀ q ∈ s.reached {(source, name)}, ∃ made, translation s.compiler.registry q.1 q.2 = .ok made) →
      ((∃ program, r.1 = .ok program) ↔ ∀ path, IncludePath s.compiler.registry text source name path →
        path.Nodup ∧ path.length ≤ s.compiler.maxDepth) ∧
      ∀ e, r.1 = .error e → ∃ e', e = .compile e' ∧
        PathFault s.compiler.registry text s.compiler.maxDepth source name e'.cause := by
  intro s r
  have hsound : Sound _ s := (sound_renewed { compiler := c }).run moves
  refine ⟨?_, fun load text hload htext hkeys hmade => ?_⟩
  · exact (hsound.after (.compile source name)).2
  have horigin : Origin s.compiler.registry (({ compiler := c } : Session).comeUpon ∅ moves) s.memory :=
    origin_run (sound_renewed { compiler := c }) (fun _ => origin_empty) moves (hkeys.mono Set.subset_union_left)
  have halike := (compile_of_keysDiffer horigin hsound.2 source name hkeys).1
  have hmade : ∀ q, Reaches s.compiler (source, name) q → ∃ made, translation s.compiler.registry q.1 q.2 = .ok made :=
    fun q hq => hmade q ⟨_, Set.mem_singleton _, hq⟩
  obtain ⟨hpaths, hfault⟩ := visit_decided hload htext source name hmade
  have halike : Alike (r.1.map fun program => { program, dependencies := r.2.dependencies })
      (s.compiler.visit s.compiler.maxDepth.toNat [] source name) := by
    rwa [answer, runFrom_answered] at halike
  rw [← hpaths]
  cases hr : r.1 with
  | ok program =>
    rw [hr] at halike
    exact ⟨⟨fun _ => ⟨_, halike.ok_left⟩, fun _ => ⟨program, rfl⟩⟩, fun e he => nomatch he⟩
  | error e =>
    rw [hr] at halike
    obtain ⟨e', hvisit, hsame⟩ := halike.error_left
    refine ⟨by simp [hvisit], fun e₀ he₀ => ?_⟩
    obtain rfl := Except.error.inj he₀
    obtain ⟨e₁, rfl, hcause⟩ := hfault e' hvisit
    obtain ⟨e₂, rfl, hcause'⟩ := compile_of_unplaced hsame
    exact ⟨e₂, rfl, hcause' ▸ hcause⟩

/-- A source that includes the template `a`. -/
def includesA : Text := "@include('a')"

/-- A compiler whose loader finds this source under every name. -/
def allIncludeA : Compiler := { registry := .standard, loader := some fun _ => .ok (includesA, []) }

theorem read_includesA : Markup.read .standard "a" includesA =
    ⟨[⟨"a", 1, includesA⟩], .ok [.echo 1 "_view.make_partial('a', {})" false]⟩ := by cbv

theorem included_includesA : included .standard includesA "a" = [("a" : Text)] := by
  rw [included, read_includesA]
  rfl

theorem translation_includesA : ∃ made, translation .standard includesA "a" = .ok made := by
  have hchecked : (do
      let b ← Program.generate (some "a") [.echo 1 "_view.make_partial('a', {})" false]
      checkProgram "a" b) = .ok () := by decide +kernel
  obtain ⟨b, hb, hcheck⟩ := bind_eq_ok.mp hchecked
  have hnodes := congrArg Markup.Reading.nodes read_includesA
  exact ⟨_, bind_eq_ok.mpr ⟨_, hnodes, bind_eq_ok.mpr ⟨b, hb, bind_eq_ok.mpr ⟨(), hcheck, rfl⟩⟩⟩⟩

/-- From this source under the name `a` nothing else is come to. -/
theorem reaches_includesA {p q : Text × Text} (h : Reaches allIncludeA p q) (hp : p = (includesA, ("a" : Text))) :
    q = (includesA, ("a" : Text)) := by
  induction h with
  | here => exact hp
  | next _ hload hname hfound ih =>
    obtain rfl := ih
    have hname : _ ∈ included .standard includesA "a" := hname
    rw [included_includesA, List.mem_singleton] at hname
    obtain rfl := Option.some.inj hload
    rw [hname, ← (Prod.mk.inj (Except.ok.inj hfound)).1]

/-- A compiler that was asked for this source before refuses it again, since it includes itself. -/
theorem includesA_refused : ∃ e,
    (runFrom (allIncludeA.compile includesA "a")
      (({ compiler := allIncludeA } : Session).run [.compile includesA "a"]).memory).1 = .error (.compile e) ∧
    PathFault .standard (fun _ => includesA) 50 includesA "a" e.cause := by
  have hkeys : KeysDiffer (({ compiler := allIncludeA } : Session).comeUpon ∅ [.compile includesA "a"] ∪
      (({ compiler := allIncludeA } : Session).run [.compile includesA "a"]).visited includesA "a") := by
    have hone : ∀ q ∈ ({ compiler := allIncludeA } : Session).comeUpon ∅ [.compile includesA "a"] ∪
        (({ compiler := allIncludeA } : Session).run [.compile includesA "a"]).visited includesA "a",
        q = (includesA, ("a" : Text)) := by
      intro q hq
      rcases hq with (hq | hq) | hq
      · cases hq
      · exact reaches_includesA hq.reaches rfl
      · exact reaches_includesA hq.reaches rfl
    intro p hp q hq _
    rw [hone p hp, hone q hq]
  obtain ⟨-, hdecided⟩ := compile_decided allIncludeA [.compile includesA "a"] includesA "a"
  obtain ⟨hiff, herror⟩ := hdecided (fun _ => .ok (includesA, [])) (fun _ => includesA) rfl (fun n => ⟨[], rfl⟩) hkeys
    fun q ⟨p, hp, hq⟩ => by
      rw [reaches_includesA hq hp]
      exact translation_includesA
  cases hr : (runFrom (allIncludeA.compile includesA "a")
      (({ compiler := allIncludeA } : Session).run [.compile includesA "a"]).memory).1 with
  | ok program =>
    have hback : IncludePath .standard (fun _ => includesA) includesA "a" ["a", "a"] :=
      .go (by rw [included_includesA]; exact List.mem_singleton_self _) (.stop _ _)
    exact absurd (hiff.mp ⟨program, hr⟩ _ hback).1 (by decide)
  | error e =>
    obtain ⟨e', rfl, hfault⟩ := herror e hr
    exact ⟨e', rfl, hfault⟩

end Session
end Stencil
