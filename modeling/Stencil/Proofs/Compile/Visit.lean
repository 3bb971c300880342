import Stencil.Compiler
import Stencil.Proofs.Step

/-!
# Compiling without a memory

What a compilation answers, told without the memory: the templates that a template includes are visited in depth, down
to the bound on nesting, and then the template itself is translated.

* `translation` — the program of one template and the names it includes, as far as the template itself decides.
* `visit` — the same behind a visit to everything it includes.
* `HasTurn` — a member of a list has its turn, since everything before it went well.
* `Visits` — the sources under names that a visit comes to.
* `Reaches` — a source under a name leads to another one by includes.
* `Alike` — two answers are the same, or errors that differ in the place they name only.
-/

namespace Stencil

/-- An error without the place in a template that it names. -/
def Error.unplaced : Error → Error
  | .compile e => .compile { cause := e.cause }
  | e => e

/-- Two answers are the same, or errors that differ in the place they name only. -/
def Alike {α : Type} (r r' : Except Error α) : Prop := r.mapError Error.unplaced = r'.mapError Error.unplaced

namespace Alike

variable {α β : Type}

theorem rfl {r : Except Error α} : Alike r r := Eq.refl _

theorem symm {r r' : Except Error α} (h : Alike r r') : Alike r' r := Eq.symm h

theorem trans {r r' r'' : Except Error α} (h : Alike r r') (h' : Alike r' r'') : Alike r r'' := Eq.trans h h'

theorem error_iff {e e' : Error} : Alike (.error e : Except Error α) (.error e') ↔ e.unplaced = e'.unplaced :=
  ⟨Except.error.inj, congrArg Except.error⟩

theorem ok_left {a : α} {r : Except Error α} (h : Alike (.ok a) r) : r = .ok a := by
  cases r with
  | error e => cases h
  | ok b => exact congrArg Except.ok (Except.ok.inj h).symm

theorem error_left {e : Error} {r : Except Error α} (h : Alike (.error e) r) :
    ∃ e', r = .error e' ∧ e.unplaced = e'.unplaced := by
  cases r with
  | error e' => exact ⟨e', Eq.refl _, error_iff.mp h⟩
  | ok b => cases h

end Alike

/-- Doing something for the distinct members of a list is doing it for all, where it only succeeds or fails. -/
theorem forM_eraseDups {ε α : Type} [BEq α] [LawfulBEq α] (f : α → Except ε PUnit) (l : List α) :
    l.eraseDups.forM f = l.forM f := by
  -- what has succeeded for `a` may be left out behind it
  have hfilter : ∀ (a : α) (l : List α), f a = .ok ⟨⟩ → (l.filter fun b => !b == a).forM f = l.forM f := by
    intro a l ha
    induction l with
    | nil => rfl
    | cons b l ih =>
      by_cases hb : b = a
      · rw [List.filter_cons_of_neg (by simp [hb]), ih]
        simp only [List.forM, hb, ha]
        rfl
      · rw [List.filter_cons_of_pos (by simp [hb])]
        simp only [List.forM, ih]
  induction hn : l.length using Nat.strongRecOn generalizing l with
  | ind n ih =>
    cases l with
    | nil => rfl
    | cons a l =>
      rw [List.eraseDups_cons]
      simp only [List.forM]
      cases ha : f a with
      | error e => rfl
      | ok u =>
        have hle := List.length_filter_le (fun b => !b == a) l
        have hlen : (l.filter fun b => !b == a).length < n := by
          rw [List.length_cons] at hn
          omega
        rw [ih _ hlen _ rfl, hfilter a l ha]

/-- A member of a list that is gone through has its turn: everything before it went well. -/
def HasTurn {ε α : Type} (f : α → Except ε PUnit) (l : List α) (a : α) : Prop :=
  ∃ before behind, l = before ++ a :: behind ∧ ∀ b ∈ before, f b = .ok ⟨⟩

theorem HasTurn.mem {ε α : Type} {f : α → Except ε PUnit} {l : List α} {a : α} (h : HasTurn f l a) : a ∈ l := by
  obtain ⟨before, behind, rfl, -⟩ := h
  simp

/-- What has its turn has it among the distinct members as well. -/
theorem HasTurn.eraseDups {ε α : Type} [BEq α] [LawfulBEq α] {f : α → Except ε PUnit} {l : List α} {a : α}
    (h : HasTurn f l a) : HasTurn f l.eraseDups a := by
  obtain ⟨before, behind, rfl, hbefore⟩ := h
  rw [List.eraseDups_append]
  by_cases ha : a ∈ before
  · obtain ⟨first, rest, hsplit⟩ := List.append_of_mem (List.mem_eraseDups.mpr ha)
    refine ⟨first, rest ++ ((a :: behind).removeAll before).eraseDups, by rw [hsplit]; simp, fun b hb => ?_⟩
    exact hbefore b (List.mem_eraseDups.mp (by rw [hsplit]; simp [hb]))
  · have hstays : (a :: behind).removeAll before = a :: behind.removeAll before := by
      simp [List.cons_removeAll, ha]
    rw [hstays, List.eraseDups_cons]
    exact ⟨before.eraseDups, _, rfl, fun b hb => hbefore b (List.mem_eraseDups.mp hb)⟩

namespace Compiler

/-! ## Templates by themselves -/

/-- What a source under a name is translated to; the templates it includes are not looked at. -/
def translation (registry : Registry) (source name : Text) : Except Error Compiled := do
  let reading := Markup.read registry name source
  let b ← Program.generate (some name) (← reading.nodes)
  checkProgram name b
  return { program := b.source, dependencies := reading.dependencies }

/-- The names that a source under a name includes. -/
def included (registry : Registry) (source name : Text) : List Text := (Markup.read registry name source).dependencies

/-- A translated template names what its source includes. -/
theorem dependencies_of_translation {registry : Registry} {source name : Text} {made : Compiled}
    (h : translation registry source name = .ok made) : made.dependencies = included registry source name := by
  obtain ⟨nodes, -, h⟩ := bind_eq_ok.mp h
  obtain ⟨b, -, h⟩ := bind_eq_ok.mp h
  obtain ⟨-, -, h⟩ := bind_eq_ok.mp h
  obtain rfl := Except.ok.inj h
  rfl

/-! ## Templates with what they include -/

/-- Loads an included template and looks at it in a given way; without a loader nothing is followed. -/
def lookAt (c : Compiler) (next : Text → Text → Except Error Compiled) (name : Text) : Except Error Unit :=
  match c.loader with
  | none => .ok ()
  | some load => do
    let (source, _) ← load name
    let _ ← next source name

/-- Refuses a template that is among those around it. -/
def checkOutside (around : List Text) (name : Text) : Except Error Unit :=
  if name ∈ around then .error (.ofCause (.cycle (around ++ [name]))) else .ok ()

/-- What compiling answers below the templates `around`, while `levels` more templates may be opened. -/
def visit (c : Compiler) : Nat → List Text → Text → Text → Except Error Compiled
  | 0, around, _, name => do
    checkOutside around name
    throw (.compile { cause := .depth c.maxDepth, template := some name })
  | levels + 1, around, source, name => do
    checkOutside around name
    (included c.registry source name).forM (c.lookAt (c.visit levels (around ++ [name])))
    translation c.registry source name

/-- The sources under names that a visit comes to: those that it finds below the templates `around`, as deep as it may
go, as long as nothing before them fails. -/
inductive Visits (c : Compiler) : Nat → List Text → Text × Text → Text × Text → Prop
  | here {levels : Nat} {around : List Text} {source name : Text} : name ∉ around →
    Visits c (levels + 1) around (source, name) (source, name)
  | there {levels : Nat} {around : List Text} {source name source' n : Text} {q : Text × Text} {load : Loader}
    {log : Log} : name ∉ around → HasTurn (c.lookAt (c.visit levels (around ++ [name]))) (included c.registry source name) n →
    c.loader = some load → load n = .ok (source', log) → Visits c levels (around ++ [name]) (source', n) q →
    Visits c (levels + 1) around (source, name) q

/-- A source under a name leads to another one by the includes that the loader finds. -/
inductive Reaches (c : Compiler) : Text × Text → Text × Text → Prop
  | here (p : Text × Text) : Reaches c p p
  | next {p q : Text × Text} {load : Loader} {name source : Text} {log : Log} :
    Reaches c p q → c.loader = some load → name ∈ included c.registry q.1 q.2 → load name = .ok (source, log) →
    Reaches c p (source, name)

theorem Reaches.trans {c : Compiler} {p q r : Text × Text} (h : Reaches c p q) (h' : Reaches c q r) : Reaches c p r := by
  induction h' with
  | here => exact h
  | next _ hload hname hfound ih => exact ih.next hload hname hfound

/-- A visit comes only to what the includes lead to. -/
theorem Visits.reaches {c : Compiler} {levels : Nat} {around : List Text} {p q : Text × Text}
    (h : Visits c levels around p q) : Reaches c p q := by
  induction h with
  | here => exact .here _
  | there _ hturn hload hfound _ ih =>
    refine Reaches.trans ?_ ih
    exact .next (.here _) hload hturn.mem hfound

end Compiler
end Stencil
