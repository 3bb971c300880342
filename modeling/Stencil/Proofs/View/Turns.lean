import Mathlib.Logic.Relation
import Stencil.Proofs.View.Clause

/-!
# Loops and their turns

Rendering goes from place to place: behind a piece of a program that ended well, into a branch, into a turn of a loop,
into another template.  What else programs do may fail, print, bind names and change values, as long as it is harmless:
the loops that are open stay in their turns.  Then loops are opened and closed as brackets are, on every level, whether a
piece ends, leaves its loop or fails.

* `Point`, `Leads` — where rendering is, and where it gets from there.
* `Harmless`, `Sparing` — what is asked of all steps that are no part of a loop.
* `Point.Sound` — the loops that are open are in the turns that led there.
* `Ends`, `Safe` — a piece ends well with the loops spared, or fails with the loops undisturbed.
* `evalFrom_loop`, `spares_evaluateWith`, `safe` — loops, templates and all programs are safe.
* `sound_reached` — rendering gets to sound places only.
-/

namespace Stencil

open Run

/-! ## Where rendering is -/

/-- What a program runs on when so many levels are left. -/
def View.engine (v : View) (levels : Nat) : Engine := ⟨v, innerAt v levels⟩

/-- A place in rendering: so many levels are left, pieces are to be run over a scope and from a state, and loops are
open in turns, innermost first. -/
structure Point where
  levels : Nat
  clauses : List Clause
  scope : Scope
  state : State
  turns : List Turn

/-- A loop has gone through so many turns, and none of them left it. -/
inductive Gone (step : Value → Eval Control) (i : Nat) (a : Scope) (s : State) : Nat → Scope → State → Prop
  | start : Gone step i a s 0 a s
  | turn {k : Nat} {b c : Scope} {t u w : State} {value : Value} {control : Control} (h : Gone step i a s k b t)
    (hnext : runFrom (next? i) t = (.ok (some value), u)) (hturn : evalFrom (step value) b u = (.ok (control, c), w))
    (hstays : control ≠ .leave) : Gone step i a s (k + 1) c w

/-- What a loop does with a value. -/
def Engine.turn (e : Engine) (target : Script.Expr) (body : List Script.Located) (value : Value) : Eval Control := do
  e.assign target value
  e.execAll body

/-- A loop is opened: `rest` is what it goes through, and `i` the stream of it. -/
structure Opened (e : Engine) (source : Operand) (a : Scope) (s : State) (rest : Pending) (i : Nat) (b : Scope)
    (t : State) : Prop where
  listed : ∃ b' u, evalFrom (e.listing source.expr) a s = (.ok (rest, b'), u)
  stream : evalFrom (e.eval source.expr.addLoop) a s = (.ok (.stream i "generator", b), t)

/-- A loop that is run over a scope and from a state takes a value for its next turn. -/
inductive Begins (e : Engine) (target : Script.Expr) (source : Operand) (body : List Script.Located) (a : Scope)
    (s : State) : Turn → Value → Scope → State → Prop
  | next {rest : Pending} {i k : Nat} {b₀ b : Scope} {t₀ t t' : State} {value : Value}
    (hopened : Opened e source a s rest i b₀ t₀) (hgone : Gone (e.turn target body) i b₀ t₀ k b t)
    (hnext : runFrom (next? i) t = (.ok (some value), t')) :
    Begins e target source body a s ⟨rest.count, k + 1⟩ value b t'

/-- The program of a template is about to start over data. -/
inductive Starts (v : View) (levels : Nat) (name : Text) (entries : List (Value × Value)) (s : State)
    (turns : List Turn) : Point → Prop
  | loaded {loaded : Loaded} {t : State} (hnested : s.pass.nesting < v.config.maxDepth)
    (hload : runFrom (load v name) s = (.ok loaded, t)) :
    Starts v levels name entries s turns ⟨levels, clausesOf loaded.program, scopeOf entries, t.begun name, turns⟩

/-- Rendering goes from a place to the next one: behind a piece that ended well, into a branch, into a turn of a loop,
or into another template. -/
inductive Leads (v : View) : Point → Point → Prop
  | behind {n : Nat} {c : Clause} {cs : List Clause} {a b : Scope} {s t : State} {turns : List Turn}
    (h : evalFrom ((v.engine n).execAll c.statements) a s = (.ok (.next, b), t)) :
    Leads v ⟨n, c :: cs, a, s, turns⟩ ⟨n, cs, b, t, turns⟩
  | branch {n line : Nat} {test : Script.Expr} {body orelse cs : List Clause} {a b : Scope} {s t : State}
    {turns : List Turn} {holds : Bool}
    (h : evalFrom (do Engine.truth (← (v.engine n).eval test)) a s = (.ok (holds, b), t)) :
    Leads v ⟨n, .branch line test body orelse :: cs, a, s, turns⟩ ⟨n, if holds then body else orelse, b, t, turns⟩
  | turn {n line first last behind : Nat} {target : Script.Expr} {source : Operand} {body cs : List Clause}
    {a b c d : Scope} {s t u w : State} {turns : List Turn} {turn : Turn} {value : Value}
    (h : Begins (v.engine n) target source ((first, .readLoop) :: program body) a s turn value b t)
    (htarget : evalFrom ((v.engine n).assign target value) b t = (.ok ((), c), u))
    (hread : evalFrom ((v.engine n).exec .readLoop) c u = (.ok (.next, d), w)) :
    Leads v ⟨n, .loop line first last behind target source body :: cs, a, s, turns⟩ ⟨n, body, d, w, turn :: turns⟩
  | part {n line : Nat} {name : Text} {data : Operand} {cs : List Clause} {a b : Scope} {s t : State}
    {turns : List Turn} {entries : List (Value × Value)} {q : Point}
    (hentries : evalFrom ((v.engine (n + 1)).entries data.expr) a s = (.ok (entries, b), t))
    (hstart : Starts v n name entries t turns q) :
    Leads v ⟨n + 1, .part line name data :: cs, a, s, turns⟩ q

/-! ## Open loops in their turns -/

/-- A place where the view has its names, and its loops are in their turns. -/
structure Point.Sound (p : Point) : Prop where
  named : p.scope.Named
  filed : Value.Filed p.state.changes
  stack : Stack p.state p.state.pass.loops p.turns

/-! ## What else programs do -/

/-- However a step of a program ends, it spares the loops; if it ends well, the view still has its names. -/
structure Harmless {α : Type} (act : Eval α) (a : Scope) (s : State) : Prop where
  spares : Spares s (evalFrom act a s).2
  named : ∀ y b t, evalFrom act a s = (.ok (y, b), t) → b.Named

/-- What a program does at a place beside going through loops is harmless: statements, tests, what a loop goes through,
giving its values to its target, and the data of other templates. -/
def Spared (v : View) : Point → Prop
  | ⟨_, [], _, _, _⟩ => True
  | ⟨n, .plain _ st :: _, a, s, _⟩ => Harmless ((v.engine n).exec st) a s
  | ⟨n, .branch _ test _ _ :: _, a, s, _⟩ => Harmless (do Engine.truth (← (v.engine n).eval test)) a s
  | ⟨n, .loop _ first _ _ target source body :: _, a, s, _⟩ =>
    Harmless ((v.engine n).eval source.expr) a s ∧ Harmless ((v.engine n).listing source.expr) a s ∧
      ∀ turn value b t, Begins (v.engine n) target source ((first, .readLoop) :: program body) a s turn value b t →
        b.Named → Harmless ((v.engine n).assign target value) b t
  | ⟨n, .part _ _ data :: _, a, s, _⟩ => Harmless ((v.engine n).entries data.expr) a s

/-- All that is done from a place on is harmless, wherever rendering gets with its loops in their turns. -/
def Sparing (v : View) (p : Point) : Prop := ∀ q, Relation.ReflTransGen (Leads v) p q → q.Sound → Spared v q

/-! ## How steps end -/

/-- A step of a program ends well in a good state and with the names of the view bound, or it fails in a state that is
not too bad. -/
def Ends {α : Type} (good bad : State → Prop) : Except Error (α × Scope) × State → Prop
  | (.ok (_, b), t) => good t ∧ b.Named
  | (.error _, t) => bad t

section Ends

variable {α β : Type} {good good' bad bad' : State → Prop} {x : Eval α} {f : α → Eval β} {a b : Scope} {s t : State}

theorem Ends.mono {r : Except Error (α × Scope) × State} (h : Ends good bad r) (hgood : ∀ t, good t → good' t)
    (hbad : ∀ t, bad t → bad' t) : Ends good' bad' r := by
  rcases r with ⟨e | ⟨y, b⟩, t⟩
  · exact hbad t h
  · exact ⟨hgood t h.1, h.2⟩

theorem Ends.bind (hx : Ends good bad (evalFrom x a s))
    (hf : ∀ y b t, evalFrom x a s = (.ok (y, b), t) → good t → b.Named → Ends good' bad (evalFrom (f y) b t)) :
    Ends good' bad (evalFrom (x >>= f) a s) := by
  rw [evalFrom_bind]
  rcases h : evalFrom x a s with ⟨e | ⟨y, b⟩, t⟩
  · rw [h] at hx
    exact hx
  · rw [h] at hx
    exact hf y b t h hx.1 hx.2

/-- What ends well behind a step that spared the loops, or leaves the loops undisturbed, does so as a whole. -/
theorem Ends.before {r : Except Error (α × Scope) × State} (hst : Spares s t)
    (h : Ends (Spares t) (Undisturbed t) r) : Ends (Spares s) (Undisturbed s) r :=
  h.mono (fun _ hu => IsTrans.trans _ _ _ hst hu) fun _ hu => IsTrans.trans _ _ _ hst.toUndisturbed hu

theorem Harmless.ends (h : Harmless x a s) : Ends (Spares s) (Undisturbed s) (evalFrom x a s) := by
  rcases hx : evalFrom x a s with ⟨e | ⟨y, b⟩, t⟩
  · have hspares := h.spares
    rw [hx] at hspares
    exact hspares.toUndisturbed
  · have hspares := h.spares
    rw [hx] at hspares
    exact ⟨hspares, h.named y b t hx⟩

theorem Harmless.bind (hx : Harmless x a s)
    (hf : ∀ y b t, evalFrom x a s = (.ok (y, b), t) → b.Named → Harmless (f y) b t) : Harmless (x >>= f) a s := by
  have hspares := hx.spares
  rcases h : evalFrom x a s with ⟨e | ⟨y, b⟩, t⟩
  · rw [h] at hspares
    refine ⟨?_, fun _ _ _ hy => ?_⟩
    · rw [evalFrom_bind_error h]
      exact hspares
    · rw [evalFrom_bind_error h] at hy
      cases hy
  · rw [h] at hspares
    have hrest := hf y b t h (hx.named y b t h)
    refine ⟨?_, fun z c u hz => ?_⟩
    · rw [evalFrom_bind_ok h]
      exact IsTrans.trans _ _ _ hspares hrest.spares
    · rw [evalFrom_bind_ok h] at hz
      exact hrest.named z c u hz

/-- A step is harmless that ends as one which is. -/
theorem Harmless.congr {act : Eval α} (h : Harmless x a s) (hsame : evalFrom act a s = evalFrom x a s) :
    Harmless act a s :=
  ⟨hsame ▸ h.spares, fun y b t hy => h.named y b t (hsame ▸ hy)⟩

/-- A step is harmless that ends well with the loops spared and the names of the view bound. -/
theorem harmless_of_ok {y : α} (h : evalFrom x a s = (.ok (y, b), t)) (ht : Spares s t) (hb : b.Named) :
    Harmless x a s := by
  refine ⟨?_, fun z c u hz => ?_⟩ <;> rw [h] at *
  · exact ht
  · cases hz
    exact hb

theorem harmless_pure (ha : a.Named) (y : α) : Harmless (pure y : Eval α) a s := harmless_of_ok rfl (refl s) ha

/-- A step of rendering that spares the loops is harmless. -/
theorem harmless_run {act : Run α} (ha : a.Named) (h : Spares s (runFrom act s).2) : Harmless (Engine.run act) a s := by
  rcases hact : runFrom act s with ⟨e | y, t⟩
  · rw [hact] at h
    refine ⟨?_, fun _ _ _ hy => ?_⟩ <;> rw [evalFrom_run, hact] at *
    · exact h
    · cases hy
  · rw [hact] at h
    exact harmless_of_ok (evalFrom_run_ok hact a) h ha

end Ends

section Points

variable {v : View} {p q : Point} {n : Nat} {c : Clause} {cs : List Clause} {a b : Scope} {s t : State}
  {turns : List Turn}

theorem Sparing.leads (h : Sparing v p) (hpq : Leads v p q) : Sparing v q := fun r hr => h r (hr.head hpq)

theorem Sparing.here (h : Sparing v p) (hp : p.Sound) : Spared v p := h p .refl hp

/-- If all that is done from a place on is harmless, the pieces there spare the loops, or fail with the loops
undisturbed. -/
def Safe (v : View) (p : Point) : Prop :=
  Sparing v p → p.Sound → Ends (Spares p.state) (Undisturbed p.state)
    (evalFrom ((v.engine p.levels).execAll (program p.clauses)) p.scope p.state)

/-- Where the loops are spared, a place stays as sound as it is. -/
theorem Point.Sound.spares {clauses clauses' : List Clause} {levels levels' : Nat}
    (h : Point.Sound ⟨levels, clauses, a, s, turns⟩) (hst : Spares s t) (hb : b.Named) :
    Point.Sound ⟨levels', clauses', b, t, turns⟩ :=
  ⟨hb, hst.filed h.filed, h.stack.spares hst⟩

/-! ## One loop -/

section Loop

variable {first line last behind i f k : Nat} {target : Script.Expr} {source : Operand} {body : List Clause}

/-- A loop is not opened, or it is opened before its first turn over as many values as are listed. -/
theorem opens (hsource : Harmless ((v.engine n).eval source.expr) a s)
    (hlisting : Harmless ((v.engine n).listing source.expr) a s) (hsound : Point.Sound ⟨n, cs, a, s, turns⟩) :
    (∃ x u, evalFrom ((v.engine n).eval source.expr.addLoop) a s = (.error x, u) ∧ Undisturbed s u) ∨
      ∃ rest i f b t, Opened (v.engine n) source a s rest i b t ∧ Looping s i f ⟨rest.count, 0⟩ t ∧ b.Named := by
  have haddLoop := evalFrom_addLoop (e := v.engine n) (s := s) hsound.named source.single
  rcases heval : evalFrom ((v.engine n).eval source.expr) a s with ⟨x | ⟨w, b⟩, t⟩
  · have hspares := hsource.spares
    rw [heval] at hspares
    exact .inl ⟨x, t, haddLoop.trans (evalFrom_bind_error heval _), hspares.toUndisturbed⟩
  · have hfiled := hsource.spares.filed hsound.filed
    rw [heval] at hfiled
    have hlisted : evalFrom ((v.engine n).listing source.expr) a s =
        evalFrom (Engine.run (pendingOf (t.now (t.now w)))) b t := by
      rw [Engine.listing, evalFrom_bind_ok heval, evalFrom_bind_ok (evalFrom_now w b t),
        evalFrom_bind_ok (evalFrom_now _ b t)]
    rw [evalFrom_bind_ok heval, evalFrom_bind_ok (evalFrom_now w b t), evalFrom_run] at haddLoop
    have hspares := hlisting.spares
    have hnamed := hlisting.named
    rw [evalFrom_run] at hlisted
    rw [hlisted] at hspares hnamed
    rcases hpending : runFrom (pendingOf (t.now (t.now w))) t with ⟨r, u⟩
    rw [hpending] at hlisted hspares hnamed
    have hu : Spares s u := by rcases r with x | rest <;> exact hspares
    rcases openLoop_cases hpending hu hfiled hsound.stack.isSome with ⟨x, hx⟩ | ⟨rest, i, f, t', rfl, hx, hloop⟩
    · rw [hx] at haddLoop
      exact .inl ⟨x, u, haddLoop, hu.toUndisturbed⟩
    · rw [hx] at haddLoop
      exact .inr ⟨rest, i, f, b, t', ⟨⟨b, u, hlisted⟩, haddLoop⟩, hloop, hnamed rest b u rfl⟩

/-- The frame of the innermost loop has its name again. -/
theorem Scope.Named.putLoop (h : a.Named) (w : Value) : (a.put "loop" w).Named where
  view := (Table.get?_put _ _ _ _).trans ((if_neg (by decide)).trans h.view)
  echo := (Table.get?_put _ _ _ _).trans ((if_neg (by decide)).trans h.echo)

/-- Going through a stream takes its values one by one. -/
theorem evalFrom_overEach_stream (step : Value → Eval Control) (i : Nat) (a : Scope) (s : State) :
    ∃ fuel, evalFrom (Engine.overEach step (.stream i "generator")) a s =
      evalFrom (Engine.overStream step i fuel) a s := by
  have hnow : s.now (.stream i "generator") = .stream i "generator" := by
    unfold State.now
    split <;> rfl
  have hstream : runFrom (streamOf (.stream i "generator")) s = (.ok i, s) := by
    rw [streamOf, runFrom_bind_ok (runFrom_now _ s), hnow]
    rfl
  have hleft : ∃ count, runFrom (left i) s = (.ok count, s) := by
    unfold left
    rw [runFrom_bind_ok (runFrom_get s)]
    split <;> exact ⟨_, rfl⟩
  obtain ⟨count, hcount⟩ := hleft
  exact ⟨count + roundLimit, by
    rw [Engine.overEach, evalFrom_bind_ok (evalFrom_run_ok hstream a), evalFrom_bind_ok (evalFrom_run_ok hcount a)]⟩

variable (hsparing : Sparing v ⟨n, .loop line first last behind target source body :: cs, a, s, turns⟩)
  (hsound : Point.Sound ⟨n, .loop line first last behind target source body :: cs, a, s, turns⟩)
  (hbody : ∀ b t turns, Safe v ⟨n, body, b, t, turns⟩)

include hsparing hsound hbody

/-- The next turn of a loop keeps the loop in that turn, if its body ends as it should. -/
theorem ends_turn {rest : Pending} {b₀ : Scope} {t₀ u : State} {value : Value}
    (hopened : Opened (v.engine n) source a s rest i b₀ t₀)
    (hgone : Gone ((v.engine n).turn target ((first, .readLoop) :: program body)) i b₀ t₀ k b t)
    (hloop : Looping s i f ⟨rest.count, k⟩ t) (hb : b.Named) (hnext : runFrom (next? i) t = (.ok (some value), u)) :
    Looping s i f ⟨rest.count, k + 1⟩ u ∧ Ends (Looping s i f ⟨rest.count, k + 1⟩) (Undisturbed s)
      (evalFrom ((v.engine n).turn target ((first, .readLoop) :: program body) value) b u) := by
  have hu : Looping s i f ⟨rest.count, k + 1⟩ u := by
    rcases hloop.next with ⟨w, t', hw, hlooping⟩ | ⟨t', hw, -⟩
    · rw [hnext] at hw
      cases hw
      exact hlooping
    · rw [hnext] at hw
      cases hw
  have hbegins := Begins.next hopened hgone hnext
  have hassign := (hsparing.here hsound).2.2 _ value b u hbegins hb
  refine ⟨hu, (hassign.ends.mono (fun _ => hu.spares) fun _ ht => IsTrans.trans _ _ _ hu.behind ht).bind ?_⟩
  rintro ⟨⟩ c t' htarget hlooping hc
  have hread := evalFrom_readLoop (e := v.engine n) (s := t') hc
  have hplace : Leads v ⟨n, .loop line first last behind target source body :: cs, a, s, turns⟩
      ⟨n, body, c.put "loop" t'.lastLoop, t', ⟨rest.count, k + 1⟩ :: turns⟩ := .turn hbegins htarget hread
  rw [Engine.execAll, evalFrom_bind_ok hread]
  have hends := hbody _ t' _ (hsparing.leads hplace)
    ⟨hc.putLoop _, hlooping.behind.filed hsound.filed, hsound.stack.looping hlooping (Nat.le_add_left 1 k)⟩
  exact hends.mono (fun _ => hlooping.spares) fun _ ht => IsTrans.trans _ _ _ hlooping.behind ht

/-- A loop that has gone through turns is in the last one of them. -/
theorem looping_gone {rest : Pending} {b₀ : Scope} {t₀ : State}
    (hopened : Opened (v.engine n) source a s rest i b₀ t₀) (hloop : Looping s i f ⟨rest.count, 0⟩ t₀) (hb : b₀.Named)
    (hgone : Gone ((v.engine n).turn target ((first, .readLoop) :: program body)) i b₀ t₀ k b t) :
    Looping s i f ⟨rest.count, k⟩ t ∧ b.Named := by
  induction hgone with
  | start => exact ⟨hloop, hb⟩
  | turn h hnext hturn hstays ih =>
    have hends := (ends_turn hsparing hsound hbody hopened h ih.1 ih.2 hnext).2
    rw [hturn] at hends
    exact hends

/-- However a loop over a stream ends, the loops around it are undisturbed; if it ends well, it is on top of them. -/
theorem ends_overStream {rest : Pending} {b₀ : Scope} {t₀ : State}
    (hopened : Opened (v.engine n) source a s rest i b₀ t₀) (hloop : Looping s i f ⟨rest.count, 0⟩ t₀) (hb : b₀.Named)
    (fuel : Nat) (hgone : Gone ((v.engine n).turn target ((first, .readLoop) :: program body)) i b₀ t₀ k b t) :
    Ends (fun u => Undisturbed s u ∧ u.pass.loops = f :: s.pass.loops) (Undisturbed s)
      (evalFrom (Engine.overStream ((v.engine n).turn target ((first, .readLoop) :: program body)) i fuel) b t) := by
  induction fuel generalizing k b t with
  | zero => exact (looping_gone hsparing hsound hbody hopened hloop hb hgone).1.behind
  | succ fuel ih =>
    obtain ⟨hlooping, hnamed⟩ := looping_gone hsparing hsound hbody hopened hloop hb hgone
    rw [Engine.overStream]
    rcases hlooping.next with ⟨w, u, hnext, -⟩ | ⟨u, hnext, -, hbehind, hloops⟩
    · rw [evalFrom_bind_ok (evalFrom_run_ok hnext b)]
      have hends := (ends_turn hsparing hsound hbody hopened hgone hlooping hnamed hnext).2
      refine hends.bind fun control c t' hturn hlooping' hc => ?_
      cases control with
      | leave => exact ⟨⟨hlooping'.behind, hlooping'.loops⟩, hc⟩
      | next => exact ih (hgone.turn hnext hturn (by decide))
      | again => exact ih (hgone.turn hnext hturn (by decide))
    · rw [evalFrom_bind_ok (evalFrom_run_ok hnext b)]
      exact ⟨⟨hbehind, hloops⟩, hnamed⟩

/-- A loop fails with the loops around it undisturbed, or it ends well: then the same loops are open as before, and the
frame of the innermost one has its name. -/
theorem evalFrom_loop :
    (∃ x t, evalFrom ((v.engine n).execAll (Clause.statements (.loop line first last behind target source body))) a s =
        (.error x, t) ∧ Undisturbed s t) ∨
      ∃ (b : Scope) (t : State),
        evalFrom ((v.engine n).execAll (Clause.statements (.loop line first last behind target source body))) a s =
          (.ok (.next, b.put "loop" t.lastLoop), t) ∧ Spares s t ∧ b.Named := by
  rw [Clause.statements, Engine.execAll, Engine.exec, bind_assoc]
  rcases opens (hsparing.here hsound).1 (hsparing.here hsound).2.1 hsound with
    ⟨x, u, hfails, hu⟩ | ⟨rest, i, f, b, t, hopened, hloop, hb⟩
  · exact .inl ⟨x, u, evalFrom_bind_error hfails _, hu⟩
  · obtain ⟨fuel, hstream⟩ :=
      evalFrom_overEach_stream ((v.engine n).turn target ((first, .readLoop) :: program body)) i b t
    have hends := ends_overStream hsparing hsound hbody hopened hloop hb fuel .start
    rw [← hstream] at hends
    rw [evalFrom_bind_ok hopened.stream, bind_assoc]
    rcases hrun : evalFrom (Engine.overEach ((v.engine n).turn target ((first, .readLoop) :: program body))
        (.stream i "generator")) b t with ⟨x | ⟨finished, c⟩, u⟩
    · rw [hrun] at hends
      exact .inl ⟨x, u, evalFrom_bind_error hrun _, hends⟩
    · rw [hrun] at hends
      obtain ⟨⟨hbehind, hloops⟩, hc⟩ := hends
      have hpop := evalFrom_popLoop (e := v.engine n) (s := u) hc
      rw [hloops, List.tail_cons] at hpop
      have hfinished : (if finished then (v.engine n).execAll [] else pure .next) = pure Control.next := by
        rw [Engine.execAll, ite_self]
      refine .inr ⟨c, _, ?_, spares_closed hbehind, hc⟩
      refine (evalFrom_bind_ok hrun _).trans ?_
      rw [hfinished, pure_bind]
      dsimp only
      rw [Engine.execAll, evalFrom_bind_ok hpop]
      dsimp only
      rw [Engine.execAll, evalFrom_bind_ok (evalFrom_readLoop hc)]
      rfl

end Loop

/-! ## Templates -/

section Parts

variable {name : Text} {entries : List (Value × Value)}

theorem spares_load (v : View) (name : Text) : Keeps Spares (load v name) := by
  have hwork : ∀ {α : Type} (act : Work α), Keeps Spares (work act) := fun _ _ => spares_of_same rfl rfl rfl rfl
  have hcompiling : ∀ {α : Type} (act : Compiler.Compile α), Keeps Spares (compiling act) :=
    fun _ _ => spares_of_same rfl rfl rfl rfl
  have hsource : Keeps Spares (Run.source v name) := by
    refine Keeps.get.bind fun _ => ?_
    split
    · exact Keeps.throw _
    · exact Keeps.bind (x := modify _) (fun _ => spares_of_same rfl rfl rfl rfl) fun _ => Keeps.pure _
  have hcompile : Keeps Spares (compileTemplate v name) :=
    hsource.bind fun _ => Keeps.get.bind fun _ => (hcompiling _).bind fun _ => Keeps.get.bind fun _ =>
      (hwork _).bind fun _ => Keeps.pure _
  refine (hwork _).bind fun fresh => ?_
  split
  · exact hcompile.bind fun _ => hwork _
  · exact hwork _

theorem spares_collect (name : Text) (around : Nat) : Keeps Spares (collect name around) :=
  keeps_collect (fun _ => Keeps.modify fun _ => spares_of_same rfl rfl rfl rfl)
    (fun _ => Keeps.modify fun _ => spares_of_same rfl rfl rfl rfl) name around

/-- The loops that a program left open when it failed are closed. -/
theorem spares_cutTo (h : Undisturbed s t) : Spares s (t.cutTo s) := by
  obtain ⟨above, hloops⟩ := h.loops
  have hsame : outer s.pass.loops.length t.pass.loops = s.pass.loops := by rw [← hloops, outer_append]
  exact ⟨⟨hsame ▸ List.suffix_rfl, h.frames, h.streams, h.filed⟩, hsame⟩

/-- However evaluating a template ends, it spares the loops, if its program does. -/
theorem spares_evaluateWith
    (h : ∀ q, Starts v n name entries s turns q →
      Ends (Spares q.state) (Undisturbed q.state)
        (evalFrom ((v.engine q.levels).execAll (program q.clauses)) q.scope q.state)) :
    Spares s (runFrom (evaluateWith v (innerAt v n) name entries) s).2 := by
  rw [evaluateWith, checkNesting, bind_assoc, runFrom_bind_ok (runFrom_pass s)]
  by_cases hnested : s.pass.nesting ≥ v.config.maxDepth
  · rw [if_pos hnested]
    exact refl s
  · rw [if_neg hnested, pure_bind, runFrom_bind]
    have hload := spares_load v name s
    rcases hrun : runFrom (load v name) s with ⟨x | loaded, t⟩
    · rw [hrun] at hload
      exact hload
    · rw [hrun] at hload
      have hends := h _ (.loaded (Int.not_le.mp hnested) hrun)
      dsimp only at hends ⊢
      rw [program_clausesOf] at hends
      refine IsTrans.trans _ _ _ hload ?_
      have hbegun : Spares t (t.begun name) := spares_of_same rfl rfl rfl rfl
      change Ends _ _ (runFrom ((Engine.execAll ⟨v, innerAt v n⟩ loaded.program).run (scopeOf entries)) (t.begun name))
        at hends
      rw [runFrom_enclosed, runProgram, runFrom_bind]
      rcases hprogram : runFrom ((Engine.execAll ⟨v, innerAt v n⟩ loaded.program).run (scopeOf entries)) (t.begun name)
        with ⟨x | ⟨control, b⟩, u⟩
      · rw [hprogram] at hends
        exact spares_cutTo (IsTrans.trans _ _ _ hbegun.toUndisturbed hends)
      · rw [hprogram] at hends
        have hleft : Spares u (u.nested (-1)) := spares_of_same rfl rfl rfl rfl
        exact IsTrans.trans _ _ _ (IsTrans.trans _ _ _ hbegun hends.1)
          (IsTrans.trans _ _ _ hleft (spares_collect name t.pass.captures.length (u.nested (-1))))

/-- The view and its way to print have their names at the beginning of every program. -/
theorem named_scopeOf (entries : List (Value × Value)) : (scopeOf entries).Named where
  view := get?_scopeOf entries "_view"
  echo := get?_scopeOf entries "_echo"

/-- Where the program of a template starts the loops are in the turns that they are in around it. -/
theorem sound_starts (hfiled : Value.Filed s.changes) (hstack : Stack s s.pass.loops turns)
    (hq : Starts v n name entries s turns q) : q.Sound := by
  cases hq with
  | @loaded _ t hnested hload =>
    have hspares := spares_load v name s
    rw [hload] at hspares
    have hbegun : Spares s (t.begun name) := IsTrans.trans _ _ _ hspares (spares_of_same rfl rfl rfl rfl)
    exact ⟨named_scopeOf entries, hbegun.filed hfiled, hstack.spares hbegun⟩

theorem spares_now (w : Value) : Keeps Spares (now w) := fun s => refl s

theorem spares_print (text : Text) : Keeps Spares (print text) := by
  intro s
  cases hcaptures : s.pass.captures with
  | nil =>
    rw [runFrom_print_nil hcaptures]
    exact refl s
  | cons c captures =>
    rw [runFrom_print hcaptures]
    exact spares_of_same rfl rfl rfl rfl

/-- Printing anything but a component spares the loops. -/
theorem spares_echo (inner : Inner) {w : Value} (h : ∀ id name, w ≠ .component id name) : Keeps Spares (echo inner w) := by
  have hprinted : Keeps Spares (printed inner w) := by
    unfold printed textOf
    split
    · exact Keeps.pure _
    · split
      · exact absurd rfl (h _ _)
      · refine Keeps.get.bind fun s => (spares_now _).bind fun w => ?_
        cases Value.write s.shown w
        · exact Keeps.bind (Keeps.throw _) fun _ => Keeps.pure _
        · exact Keeps.bind (Keeps.pure _) fun _ => Keeps.pure _
  have hpass : Keeps Spares pass := fun s => refl s
  refine hpass.bind fun p => ?_
  dsimp only
  split
  · exact Keeps.throw _
  · exact hprinted.bind fun _ => spares_print _

/-- However including a template ends, it spares the loops. -/
theorem harmless_part {line : Nat} {data : Operand}
    (hsparing : Sparing v ⟨n, .part line name data :: cs, a, s, turns⟩)
    (hsound : Point.Sound ⟨n, .part line name data :: cs, a, s, turns⟩)
    (hinner : ∀ q, n = q.levels + 1 → Safe v q) :
    Harmless ((v.engine n).exec (.include name data.expr)) a s := by
  have hentries : Harmless ((v.engine n).entries data.expr) a s := hsparing.here hsound
  have hwhole : Harmless (do
      let entries ← (v.engine n).entries data.expr
      let text ← Engine.run ((v.engine n).inner.evaluate name entries)
      Engine.run (echo (v.engine n).inner (.markup text))
      return Control.next) a s := by
    refine hentries.bind fun entries b t hlisted hb => ?_
    have hevaluated : Spares t (runFrom ((v.engine n).inner.evaluate name entries) t).2 := by
      cases n with
      | zero => exact refl t
      | succ m =>
        refine spares_evaluateWith fun q (hq : Starts v _ _ _ _ turns q) => ?_
        have hlevels : m + 1 = q.levels + 1 := by cases hq; rfl
        have hspares := hentries.spares
        rw [hlisted] at hspares
        exact hinner q hlevels (hsparing.leads (.part hlisted hq))
          (sound_starts (hspares.filed hsound.filed) (hsound.stack.spares hspares) hq)
    refine (harmless_run hb hevaluated).bind fun text c u _ hc => ?_
    have hecho := spares_echo (v.engine n).inner (w := .markup text) (fun _ _ h => nomatch h) u
    exact (harmless_run hc hecho).bind fun _ d w _ hd => harmless_pure hd _
  exact hwhole.congr (evalFrom_include hsound.named name data.single)

end Parts

/-! ## Programs -/

theorem evalFrom_execAll_single (e : Engine) (line : Nat) (st : Script.Statement) (a : Scope) (s : State) :
    evalFrom (e.execAll [(line, st)]) a s = evalFrom (e.exec st) a s := by
  rw [Engine.execAll, evalFrom_bind]
  rcases evalFrom (e.exec st) a s with ⟨x | ⟨control, b⟩, t⟩
  · rfl
  · cases control <;> rfl

theorem evalFrom_execAll_append (e : Engine) (xs ys : List Script.Located) (a : Scope) (s : State) :
    evalFrom (e.execAll (xs ++ ys)) a s = evalFrom (do
      match ← e.execAll xs with
      | .next => e.execAll ys
      | control => return control) a s := by
  induction xs generalizing a s with
  | nil => rw [List.nil_append, Engine.execAll, pure_bind]
  | cons x xs ih =>
    obtain ⟨line, st⟩ := x
    rw [List.cons_append, Engine.execAll, Engine.execAll, bind_assoc, evalFrom_bind, evalFrom_bind]
    rcases evalFrom (e.exec st) a s with ⟨x | ⟨control, b⟩, t⟩
    · rfl
    · cases control with
      | next => exact ih b t
      | leave => rfl
      | again => rfl

mutual

/-- Every piece of a program spares the loops or fails with the loops undisturbed. -/
theorem ends_clause (hinner : ∀ q, n = q.levels + 1 → Safe v q) : (c : Clause) → (cs : List Clause) → (a : Scope) →
    (s : State) → (turns : List Turn) → Sparing v ⟨n, c :: cs, a, s, turns⟩ → Point.Sound ⟨n, c :: cs, a, s, turns⟩ →
    Ends (Spares s) (Undisturbed s) (evalFrom ((v.engine n).execAll c.statements) a s)
  | .plain line st, _, a, s, _, hsparing, hsound => by
    rw [Clause.statements, evalFrom_execAll_single]
    exact Harmless.ends (hsparing.here hsound)
  | .branch line test body orelse, cs, a, s, turns, hsparing, hsound => by
    have htest : Harmless (do Engine.truth (← (v.engine n).eval test)) a s := hsparing.here hsound
    rw [Clause.statements, evalFrom_execAll_single, Engine.exec, ← bind_assoc]
    refine htest.ends.bind fun holds b t hrun ht hb => Ends.before ht ?_
    have hinto := hsparing.leads (.branch hrun)
    cases holds with
    | true => exact safe_program hinner body b t turns hinto (hsound.spares ht hb)
    | false => exact safe_program hinner orelse b t turns hinto (hsound.spares ht hb)
  | .loop .., _, a, s, _, hsparing, hsound => by
    rcases evalFrom_loop hsparing hsound (safe_program hinner _) with ⟨x, t, hrun, ht⟩ | ⟨b, t, hrun, ht, hb⟩
    · rw [hrun]
      exact ht
    · rw [hrun]
      exact ⟨ht, hb.putLoop _⟩
  | .part line name data, _, a, s, _, hsparing, hsound => by
    rw [Clause.statements, evalFrom_execAll_single]
    exact (harmless_part hsparing hsound hinner).ends

/-- Every program spares the loops or fails with the loops undisturbed. -/
theorem safe_program (hinner : ∀ q, n = q.levels + 1 → Safe v q) : (cs : List Clause) → (a : Scope) → (s : State) →
    (turns : List Turn) → Safe v ⟨n, cs, a, s, turns⟩
  | [], a, s, _ => fun _ hsound => ⟨refl s, hsound.named⟩
  | c :: cs, a, s, turns => fun hsparing hsound => by
    dsimp only
    rw [program, evalFrom_execAll_append]
    refine (ends_clause hinner c cs a s turns hsparing hsound).bind fun control b t hrun ht hb => Ends.before ht ?_
    cases control with
    | next => exact safe_program hinner cs b t turns (hsparing.leads (.behind hrun)) (hsound.spares ht hb)
    | leave => exact ⟨refl t, hb⟩
    | again => exact ⟨refl t, hb⟩

end

/-- On every level programs spare the loops or fail with the loops undisturbed. -/
theorem safe (v : View) (p : Point) : Safe v p := by
  obtain ⟨levels, clauses, scope, state, turns⟩ := p
  induction levels generalizing clauses scope state turns with
  | zero => exact safe_program (fun q hq => absurd hq (Nat.succ_ne_zero _).symm) clauses scope state turns
  | succ m ih =>
    refine safe_program (fun q hq => ?_) clauses scope state turns
    obtain ⟨levels, clauses, scope, state, turns⟩ := q
    obtain rfl : m = levels := Nat.succ.inj hq
    exact ih clauses scope state turns

/-! ## Wherever rendering gets -/

/-- Where a loop begins a turn, it is in that turn, and the view has its names. -/
theorem looping_begins {line first last behind : Nat} {target : Script.Expr} {source : Operand} {body : List Clause}
    {turn : Turn} {value : Value}
    (hsparing : Sparing v ⟨n, .loop line first last behind target source body :: cs, a, s, turns⟩)
    (hsound : Point.Sound ⟨n, .loop line first last behind target source body :: cs, a, s, turns⟩)
    (h : Begins (v.engine n) target source ((first, .readLoop) :: program body) a s turn value b t) :
    (∃ i f, Looping s i f turn t) ∧ 1 ≤ turn.number ∧ b.Named := by
  cases h with
  | @next rest i k b₀ _ t₀ t₁ _ _ hopened hgone hnext =>
    have hbody : ∀ b t turns, Safe v ⟨n, body, b, t, turns⟩ := fun _ _ _ => safe v _
    rcases opens (hsparing.here hsound).1 (hsparing.here hsound).2.1 hsound with
      ⟨x, u, hfails, -⟩ | ⟨rest', i', f, b', t', hopened', hloop, hb⟩
    · rw [hopened.stream] at hfails
      cases hfails
    · have hstream := hopened.stream.symm.trans hopened'.stream
      cases hstream
      obtain ⟨c, u, hlisted⟩ := hopened.listed
      obtain ⟨c', u', hlisted'⟩ := hopened'.listed
      rw [hlisted] at hlisted'
      cases hlisted'
      obtain ⟨hlooping, hnamed⟩ := looping_gone hsparing hsound hbody hopened hloop hb hgone
      have hturn := (ends_turn hsparing hsound hbody hopened hgone hlooping hnamed hnext).1
      exact ⟨⟨i, f, hturn⟩, Nat.le_add_left 1 k, hnamed⟩

/-- From a sound place rendering gets to sound places. -/
theorem sound_leads (hsparing : Sparing v p) (hsound : p.Sound) (h : Leads v p q) : q.Sound := by
  cases h with
  | behind hrun =>
    have hends := ends_clause (fun q _ => safe v q) _ _ _ _ _ hsparing hsound
    rw [hrun] at hends
    exact hsound.spares hends.1 hends.2
  | branch hrun =>
    have htest := hsparing.here hsound
    have hspares := htest.spares
    rw [hrun] at hspares
    exact hsound.spares hspares (htest.named _ _ _ hrun)
  | turn hbegins htarget hread =>
    obtain ⟨⟨i, f, hloop⟩, hone, hb⟩ := looping_begins hsparing hsound hbegins
    have hassign := (hsparing.here hsound).2.2 _ _ _ _ hbegins hb
    have hspares := hassign.spares
    rw [htarget] at hspares
    have hnamed := hassign.named _ _ _ htarget
    rw [evalFrom_readLoop hnamed] at hread
    cases hread
    have hlooping := hloop.spares hspares
    exact ⟨hnamed.putLoop _, hlooping.behind.filed hsound.filed, hsound.stack.looping hlooping hone⟩
  | part hentries hstart =>
    have hdata := hsparing.here hsound
    have hspares := hdata.spares
    rw [hentries] at hspares
    exact sound_starts (hspares.filed hsound.filed) (hsound.stack.spares hspares) hstart

/-- Rendering gets to sound places only. -/
theorem sound_reached (hsparing : Sparing v p) (hsound : p.Sound) (h : Relation.ReflTransGen (Leads v) p q) :
    Sparing v q ∧ q.Sound := by
  induction h with
  | refl => exact ⟨hsparing, hsound⟩
  | tail _ hstep ih => exact ⟨ih.1.leads hstep, sound_leads ih.1 ih.2 hstep⟩

end Points

end Stencil
