import Stencil.Proofs.Compile.Memory

/-!
# How compiling fails

Compiling a source fails because templates include each other or are nested too deeply, because the source cannot be
read, makes no program or makes one that cannot be run, because a template that it includes cannot be loaded, or because
an included template fails; an include then fills in what the error does not say of its place.

* `Error.filled` — an error with what is missing of its place filled in by an include.
* `Fails` — the ways in which compiling a source under a name fails.
* `Faults P around act` — below the templates `around` a step fails only by an error where `P` holds, and leaves the stack
  as it was.
* `compile_fails` — compiling fails only in these ways.
-/

namespace Stencil

/-- An error with what is missing of its place filled in by an include. -/
def CompileError.filled (template : Text) (i : Markup.Inclusion) (e : CompileError) : CompileError :=
  (e.excerpted i.excerpt).locate (some template) (some i.line)

/-- An error with what is missing of its place filled in by an include; only faults of a template have a place. -/
def Error.filled (template : Text) (i : Markup.Inclusion) : Error → Error
  | .compile e => .compile (e.filled template i)
  | e => e

theorem Error.filled_eq_compile {template : Text} {i : Markup.Inclusion} {e : Error} {e' : CompileError} :
    e.filled template i = .compile e' ↔ ∃ e₀, e = .compile e₀ ∧ e' = e₀.filled template i := by
  cases e <;> simp [Error.filled, eq_comm]

namespace Compiler

/-- How compiling a source under a name fails below the templates `around`. -/
inductive Fails (c : Compiler) : List Text → Text → Text → Error → Prop
  | cycle {around : List Text} {source name : Text} (names : List Text) :
    Fails c around source name (.ofCause (.cycle names))
  | deep {around : List Text} {source name : Text} : name ∉ around →
    Fails c around source name (.compile { cause := .depth c.maxDepth, template := some name })
  | unread {around : List Text} {source name : Text} {e : Error} : name ∉ around →
    (Markup.read c.registry name source).nodes = .error e → Fails c around source name e
  | unmade {around : List Text} {source name : Text} {nodes : List Node} {e : Error} : name ∉ around →
    (Markup.read c.registry name source).nodes = .ok nodes → Program.generate (some name) nodes = .error e →
    Fails c around source name e
  | unfit {around : List Text} {source name : Text} {nodes : List Node} {b : Program.Builder} {e : Error} :
    name ∉ around → (Markup.read c.registry name source).nodes = .ok nodes →
    Program.generate (some name) nodes = .ok b → checkProgram name b = .error e → Fails c around source name e
  | unloaded {around : List Text} {source name n : Text} {load : Loader} {e : Error} :
    c.loader = some load → load n = .error e → Fails c around source name e
  /-- A template fails that a remembered result includes. -/
  | remembered {around : List Text} {source name source' n : Text} {load : Loader} {log : Log} {e : Error} :
    name ∉ around → c.loader = some load → load n = .ok (source', log) →
    Fails c (around ++ [name]) source' n e → Fails c around source name e
  /-- An include of the source cannot be followed. -/
  | unfollowed {around : List Text} {source name : Text} {i : Markup.Inclusion} {load : Loader} {e : Error} :
    name ∉ around → i ∈ (Markup.read c.registry name source).inclusions → c.loader = some load →
    load i.name = .error e → Fails c around source name (e.filled name i)
  /-- A template fails that the source includes. -/
  | included {around : List Text} {source name source' : Text} {i : Markup.Inclusion} {load : Loader} {log : Log}
    {e : Error} : name ∉ around → i ∈ (Markup.read c.registry name source).inclusions → c.loader = some load →
    load i.name = .ok (source', log) → Fails c (around ++ [name]) source' i.name e →
    Fails c around source name (e.filled name i)

/-- How following an include fails below the templates `around`. -/
inductive FailsBelow (c : Compiler) (around : List Text) (n : Text) (e : Error) : Prop
  | unloaded {load : Loader} : c.loader = some load → load n = .error e → FailsBelow c around n e
  | inside {load : Loader} {source' : Text} {log : Log} : c.loader = some load → load n = .ok (source', log) →
    Fails c around source' n e → FailsBelow c around n e

variable {c : Compiler} {α β : Type} {source name : Text} {around : List Text} {P Q : Error → Prop} {e : Error}

/-! ## Steps -/

/-- Below the templates `around` a step fails only by an error where `P` holds, and leaves the stack as it was. -/
def Faults (P : Error → Prop) (around : List Text) (act : Compile α) : Prop :=
  ∀ m, m.stack = around → (runFrom act m).2.stack = around ∧ ∀ e, (runFrom act m).1 = .error e → P e

namespace Faults

theorem liftM {r : Except Error α} (h : ∀ e, r = .error e → P e) : Faults P around (liftM r : Compile α) := by
  intro m hm
  rw [runFrom_liftM]
  exact ⟨hm, h⟩

theorem pure (a : α) : Faults P around (pure a : Compile α) := fun _ hm => ⟨hm, nofun⟩

theorem throw {e : Error} (h : P e) : Faults P around (throw e : Compile α) :=
  fun _ hm => ⟨hm, fun _ he => Except.error.inj he ▸ h⟩

theorem modify {f : Memory → Memory} (h : ∀ m, (f m).stack = m.stack) :
    Faults P around (modify f : Compile PUnit) := fun m hm => ⟨(h m).trans hm, nofun⟩

theorem bind {x : Compile α} {f : α → Compile β} (hx : Faults P around x)
    (hf : ∀ a m, (runFrom x m).1 = .ok a → Faults P around (f a)) : Faults P around (x >>= f) := by
  intro m hm
  obtain ⟨hstack, herror⟩ := hx m hm
  rw [runFrom_bind]
  rcases hr : runFrom x m with ⟨e | a, m'⟩ <;> rw [hr] at hstack herror
  · refine ⟨hstack, fun e' he => ?_⟩
    obtain rfl : e = e' := Except.error.inj he
    exact herror e rfl
  · exact hf a m (by rw [hr]) m' hstack

theorem get {f : Memory → Compile α} (hf : ∀ m, m.stack = around → Faults P around (f m)) :
    Faults P around (get >>= f) := by
  intro m hm
  rw [runFrom_bind, runFrom_get]
  exact hf m hm m hm

theorem forM {f : α → Compile PUnit} {l : List α} (hf : ∀ a ∈ l, Faults P around (f a)) :
    Faults P around (l.forM f) := by
  induction l with
  | nil => exact pure _
  | cons a l ih => exact (hf a (by simp)).bind fun _ _ _ => ih fun b hb => hf b (by simp [hb])

/-- An include fills in what is missing of the place of an error. -/
theorem located {template : Text} {act : Compile α} (h : Faults Q around act)
    (hQ : ∀ e, Q e → P (e.filled template i)) : Faults P around (located template i act) := by
  intro m hm
  obtain ⟨hstack, herror⟩ := h m hm
  rw [Compiler.located, runFrom_tryCatch]
  rcases hr : runFrom act m with ⟨e | a, m'⟩ <;> rw [hr] at hstack herror
  · have hfilled := hQ e (herror e rfl)
    cases e <;> exact throw hfilled m' hstack
  · exact ⟨hstack, fun e he => by cases he⟩

theorem whileOpen {act : Compile α} (h : Faults P (around ++ [name]) act) : Faults P around (whileOpen name act) := by
  intro m hm
  obtain ⟨hstack, herror⟩ := h { m with stack := m.stack ++ [name] } (by rw [hm])
  rw [runFrom_whileOpen]
  refine ⟨?_, herror⟩
  simp only [hstack, List.dropLast_concat]

theorem mono {act : Compile α} (h : Faults Q around act) (hQ : ∀ e, Q e → P e) : Faults P around act :=
  fun m hm => ⟨(h m hm).1, fun e he => hQ e ((h m hm).2 e he)⟩

end Faults

theorem report_faults (level : Level) (message : Text) : Faults P around (report level message) :=
  Faults.modify fun _ => rfl

/-- A template that is being compiled already is refused. -/
theorem checkClosed_faults {f : Unit → Compile α} (hf : name ∉ around → Faults (Fails c around source name) around (f ())) :
    Faults (Fails c around source name) around (checkClosed name >>= f) := by
  intro m hm
  have hcheck : runFrom (checkClosed name) m =
      if name ∈ around then (.error (.ofCause (.cycle (around ++ [name]))), m) else (.ok (), m) := by
    simp only [checkClosed, runFrom_bind, runFrom_get, hm]
    split <;> rfl
  by_cases hname : name ∈ around
  · rw [if_pos hname] at hcheck
    rw [runFrom_bind_error hcheck]
    exact ⟨hm, fun e he => Except.error.inj he ▸ .cycle _⟩
  · rw [if_neg hname] at hcheck
    rw [runFrom_bind_ok hcheck]
    exact hf hname m hm

/-! ## Compiling -/

section Compiling

variable {inner : Text → Compile Unit} (hname : name ∉ around)
  (hinner : ∀ n, Faults (FailsBelow c (around ++ [name]) n) (around ++ [name]) (inner n))

include hname hinner

theorem translate_faults :
    Faults (Fails c around source name) (around ++ [name]) (translate c inner source name) := by
  refine (report_faults _ _).bind fun _ _ _ => ?_
  refine (Faults.forM fun i hi => ?_).bind fun _ _ _ => ?_
  · refine (hinner i.name).located fun e he => ?_
    cases he with
    | unloaded hload hn => exact .unfollowed hname hi hload hn
    | inside hload hn h => exact .included hname hi hload hn h
  · refine (Faults.liftM fun e he => .unread hname he).bind fun nodes _ hnodes => ?_
    have hnodes : (Markup.read c.registry name source).nodes = .ok nodes := by simpa using hnodes
    refine (Faults.liftM fun e he => .unmade hname hnodes he).bind fun b _ hb => ?_
    have hb : Program.generate (some name) nodes = .ok b := by simpa using hb
    exact (Faults.liftM fun e he => .unfit hname hnodes hb he).bind fun _ _ _ => Faults.pure _

theorem remembered_faults :
    Faults (Fails c around source name) (around ++ [name]) (remembered c inner source name) := by
  refine Faults.get fun m hm => ?_
  split
  · refine (report_faults _ _).bind fun _ _ _ => ?_
    refine (Faults.forM fun n _ => (hinner n).mono fun e he => ?_).bind fun _ _ _ => Faults.pure _
    cases he with
    | unloaded hload hn => exact .unloaded hload hn
    | inside hload hn h => exact .remembered hname hload hn h
  · refine (translate_faults hname hinner).bind fun made _ _ => ?_
    exact (Faults.modify fun _ => rfl).bind fun _ _ _ => Faults.pure _

end Compiling

theorem compileAt_faults (levels : Nat) (around : List Text) (source name : Text) :
    Faults (Fails c around source name) around (compileAt c levels source name) := by
  induction levels generalizing around source name with
  | zero => exact checkClosed_faults fun hname => Faults.throw (.deep hname)
  | succ levels ih =>
    refine checkClosed_faults fun hname => ?_
    have hfollow : ∀ n, Faults (FailsBelow c (around ++ [name]) n) (around ++ [name])
        (follow c (compileAt c levels) n) := by
      intro n
      unfold follow
      split
      · exact Faults.pure _
      case h_2 load hload =>
        refine (Faults.liftM fun e he => .unloaded hload he).bind fun found m hfound => ?_
        obtain ⟨source', log⟩ := found
        have hfound : load n = .ok (source', log) := by simpa using hfound
        refine Faults.bind (Faults.modify fun _ => rfl) fun _ _ _ => ?_
        refine Faults.bind ?_ fun _ _ _ => Faults.pure _
        exact (ih (around ++ [name]) source' n).mono fun e he => .inside hload hfound he
    refine (remembered_faults hname hfollow).whileOpen.bind fun made _ _ => ?_
    exact (Faults.modify fun _ => rfl).bind fun _ _ _ => Faults.pure _

/-- **Failing.**  Compiling a source fails only in these ways. -/
theorem compile_fails (c : Compiler) (m : Memory) (source name : Text)
    (h : (runFrom (c.compile source name) m).1 = .error e) : Fails c m.stack source name e :=
  (compileAt_faults _ m.stack source name m rfl).2 e h

/-- A sequence whose first part fails fails so. -/
theorem fst_runFrom_bind {x : Compile α} {f : α → Compile β} {m : Memory} (h : (runFrom x m).1 = .error e) :
    (runFrom (x >>= f) m).1 = .error e := by
  have hx : runFrom x m = (.error e, (runFrom x m).2) := Prod.ext h rfl
  rw [runFrom_bind_error hx]

/-- A template that is not remembered fails as its translation does. -/
theorem compileAt_of_translate {levels : Nat} {m : Memory} (hname : name ∉ m.stack)
    (hnew : m.results.get? (key source name) = none)
    (h : (runFrom (translate c (follow c (compileAt c levels)) source name) { m with stack := m.stack ++ [name] }).1 =
      .error e) : (runFrom (compileAt c (levels + 1) source name) m).1 = .error e := by
  have hcheck : runFrom (checkClosed name) m = (.ok (), m) := by
    simp only [checkClosed, runFrom_bind, runFrom_get, if_neg hname]
    rfl
  have hremembered : (runFrom (remembered c (follow c (compileAt c levels)) source name)
      { m with stack := m.stack ++ [name] }).1 = .error e := by
    rw [remembered, runFrom_bind, runFrom_get]
    simp only [hnew]
    exact fst_runFrom_bind h
  rw [compileAt, runFrom_bind_ok hcheck]
  exact fst_runFrom_bind (by rw [runFrom_whileOpen]; exact hremembered)

end Compiler
end Stencil
