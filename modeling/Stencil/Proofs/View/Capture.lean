import Stencil.Proofs.Step
import Stencil.View.Evaluate

/-!
# What opening and closing captures does

What the operations on captures answer, and the state they leave behind, told exactly.

* `State.over` — a state with other captures open.
* `runFrom_print`, `runFrom_closeCapture`, `runFrom_takeComponent` … — the single operations.
-/

namespace Stencil

/-- A state with other captures open. -/
def State.over (s : State) (captures : List Capture) : State := { s with pass := { s.pass with captures } }

namespace State

/-- A state with so many more templates being evaluated. -/
def nested (s : State) (n : Int) : State := { s with pass := { s.pass with nesting := s.pass.nesting + n } }

@[simp] theorem over_captures (s : State) (cs : List Capture) : (s.over cs).pass.captures = cs := rfl

@[simp] theorem over_nesting (s : State) (cs : List Capture) : (s.over cs).pass.nesting = s.pass.nesting := rfl

@[simp] theorem over_loops (s : State) (cs : List Capture) : (s.over cs).pass.loops = s.pass.loops := rfl

@[simp] theorem over_disk (s : State) (cs : List Capture) : (s.over cs).disk = s.disk := rfl

@[simp] theorem nested_captures (s : State) (n : Int) : (s.nested n).pass.captures = s.pass.captures := rfl

@[simp] theorem nested_nesting (s : State) (n : Int) : (s.nested n).pass.nesting = s.pass.nesting + n := rfl

@[simp] theorem nested_disk (s : State) (n : Int) : (s.nested n).disk = s.disk := rfl

/-- A state behind a program that failed: what it opened since a state before is closed. -/
def cutTo (t s : State) : State :=
  { t with pass := { t.pass with
    captures := Run.outer s.pass.captures.length t.pass.captures, loops := Run.outer s.pass.loops.length t.pass.loops
    nesting := t.pass.nesting - 1 } }

/-- The state in which the program of a template starts. -/
def begun (s : State) (name : Text) : State :=
  (s.over ({ kind := .template, name := .str name } :: s.pass.captures)).nested 1

@[simp] theorem over_over (s : State) (cs cs' : List Capture) : (s.over cs).over cs' = s.over cs' := rfl

@[simp] theorem over_self (s : State) : s.over s.pass.captures = s := rfl

end State

namespace Run

variable {s : State}

@[simp] theorem runFrom_pass (s : State) : runFrom pass s = (.ok s.pass, s) := rfl

@[simp] theorem runFrom_modifyPass (f : Pass → Pass) (s : State) :
    runFrom (modifyPass f) s = (.ok (), { s with pass := f s.pass }) := rfl

@[simp] theorem runFrom_openCapture (kind : CaptureKind) (name : Value) (component : Option Nat) (s : State) :
    runFrom (openCapture kind name component) s = (.ok (), s.over ({ kind, name, component } :: s.pass.captures)) := rfl

/-- The state with a report more. -/
def reported (r : Record) (s : State) : State := { s with disk := { s.disk with log := s.disk.log ++ [r] } }

@[simp] theorem runFrom_warn (message : Text) (s : State) :
    runFrom (warn message) s = (.ok (), reported ⟨.warning, message, false⟩ s) := rfl

@[simp] theorem reported_pass (r : Record) (s : State) : (reported r s).pass = s.pass := rfl

@[simp] theorem reported_log (r : Record) (s : State) : (reported r s).disk.log = s.disk.log ++ [r] := rfl

/-! ## Output -/

/-- What is printed goes to the innermost capture. -/
theorem runFrom_print {c : Capture} {rest : List Capture} (h : s.pass.captures = c :: rest) (text : Text) :
    runFrom (print text) s = (.ok (), s.over ({ c with text := c.text ++ text } :: rest)) := by
  simp only [print, runFrom_bind, runFrom_pass, Pass.print?, h]
  rfl

theorem runFrom_print_nil (h : s.pass.captures = []) (text : Text) :
    runFrom (print text) s = (.error (.fault (.indexRange "list")), s) := by
  simp only [print, runFrom_bind, runFrom_pass, Pass.print?, h]
  rfl

/-! ## Closers -/

/-- A closer takes the innermost capture if it is of its kind. -/
theorem runFrom_closeCapture {c : Capture} {rest : List Capture} (h : s.pass.captures = c :: rest) (directive : Text) :
    runFrom (closeCapture c.kind directive) s = (.ok (some c), s.over rest) := by
  simp only [closeCapture, runFrom_bind, runFrom_pass, Pass.close?, h, if_true]
  rfl

/-- A closer of another kind is reported and does nothing else. -/
theorem runFrom_closeCapture_stray {kind : CaptureKind} (h : ∀ c ∈ s.pass.captures.head?, c.kind ≠ kind)
    (directive : Text) :
    runFrom (closeCapture kind directive) s =
      (.ok none, reported ⟨.warning, "@" ++ directive ++ " without a matching opening directive ignored", false⟩ s) := by
  have hnone : s.pass.close? kind = none := by
    rw [Pass.close?]
    cases hc : s.pass.captures with
    | nil => rfl
    | cons c rest => exact if_neg (h c (by simp [hc]))
  simp only [closeCapture, runFrom_bind, runFrom_pass, hnone, runFrom_warn]
  rfl

/-! ## The component that a closer finds -/

theorem splitAtComponent_eq_none {captures : List Capture} :
    splitAtComponent captures = none ↔ ∀ c ∈ captures, c.kind ≠ .component := by
  induction captures with
  | nil => simp [splitAtComponent]
  | cons c rest ih =>
    rw [splitAtComponent]
    split
    · simp [*]
    · simp [*]

/-- What the search finds is the innermost component. -/
theorem splitAtComponent_eq_some {captures inside around : List Capture} {c : Capture} :
    splitAtComponent captures = some (inside, c, around) ↔
      captures = inside ++ c :: around ∧ c.kind = .component ∧ ∀ i ∈ inside, i.kind ≠ .component := by
  induction captures generalizing inside with
  | nil => simp [splitAtComponent]
  | cons top rest ih =>
    rw [splitAtComponent]
    split
    case isTrue htop =>
      constructor
      · intro h
        cases h
        exact ⟨rfl, htop, by simp⟩
      · rintro ⟨heq, hc, hi⟩
        cases inside with
        | nil => cases heq; rfl
        | cons i inside => cases heq; exact absurd htop (hi _ (by simp))
    case isFalse htop =>
      constructor
      · intro h
        obtain ⟨⟨inside', found, around'⟩, hr, heq⟩ := Option.map_eq_some_iff.mp h
        cases heq
        obtain ⟨rfl, hc, hi⟩ := ih.mp hr
        exact ⟨rfl, hc, by simpa [htop] using hi⟩
      · rintro ⟨heq, hc, hi⟩
        cases inside with
        | nil => cases heq; exact absurd hc htop
        | cons i inside =>
          cases heq
          rw [ih.mpr ⟨rfl, hc, fun i h => hi i (by simp [h])⟩]
          rfl

/-- Without an open component a closer is reported and does nothing else. -/
theorem runFrom_takeComponent_stray (h : ∀ c ∈ s.pass.captures, c.kind ≠ .component) :
    runFrom takeComponent s =
      (.ok none, reported ⟨.warning, "@endcomponent without an open component ignored", false⟩ s) := by
  simp only [takeComponent, runFrom_bind, runFrom_pass, splitAtComponent_eq_none.mpr h, runFrom_warn]
  rfl

/-- A closer takes the innermost component that is open with everything inside it. -/
theorem runFrom_takeComponent {inside around : List Capture} {c : Capture}
    (h : s.pass.captures = inside ++ c :: around) (hc : c.kind = .component) (hi : ∀ i ∈ inside, i.kind ≠ .component) :
    runFrom takeComponent s = (.ok (some c),
      (if inside.isEmpty then s
        else reported ⟨.warning, "Discarding unclosed " ++ kindsOf inside ++ " output inside component", false⟩ s).over
        around) := by
  have hsplit := splitAtComponent_eq_some.mpr ⟨h, hc, hi⟩
  simp only [takeComponent, runFrom_bind, runFrom_pass, hsplit]
  cases inside with
  | nil => rfl
  | cons i inside => rfl

/-! ## The output of a template -/

theorem outer_append {α : Type} (xs ys : List α) : outer ys.length (xs ++ ys) = ys := by
  rw [outer, List.length_append, Nat.add_sub_cancel, List.drop_left]

/-- What a program leaves open is closed behind it if it fails. -/
theorem runFrom_framed {α : Type} (name : Text) (captures loops : Nat) (act : Run α) (s : State) :
    runFrom (framed name captures loops act) s =
      match runFrom act (s.nested 1) with
      | (.ok a, t) => (.ok a, t.nested (-1))
      | (.error e, t) => (.error (e.inTemplate name), { t with pass := { t.pass with
          captures := outer captures t.pass.captures, loops := outer loops t.pass.loops
          nesting := t.pass.nesting - 1 } }) := by
  simp only [framed, runFrom_bind, runFrom_modifyPass, runFrom_tryCatch, State.nested]
  generalize runFrom act _ = r
  rcases r with ⟨e | u, t⟩ <;> rfl

/-- Behind a program the output of its template is taken, with whatever is open inside it. -/
theorem runFrom_collect {above base : List Capture} {c : Capture} (h : s.pass.captures = above ++ c :: base) (name : Text) :
    runFrom (collect name base.length) s = (.ok c.text,
      (if above.isEmpty then s
        else reported ⟨.warning, name ++ ": discarding unclosed " ++ kindsOf above ++ " output", false⟩ s).over base) := by
  have hopen : outer (base.length + 1) s.pass.captures = c :: base := by
    rw [h, ← List.length_cons, outer_append]
  have hleft : s.pass.captures.take (s.pass.captures.length - (base.length + 1)) = above := by
    rw [h, List.length_append, List.length_cons, Nat.add_sub_cancel, List.take_left]
  simp only [collect, runFrom_bind, runFrom_pass, hopen, hleft]
  cases above with
  | nil => rfl
  | cons a above => rfl

/-- Taking the output of a template keeps what reporting and replacing the captures keep. -/
theorem keeps_collect {R : State → State → Prop} [IsPreorder State R] (hwarn : ∀ message, Keeps R (warn message))
    (hcaptures : ∀ captures, Keeps R (modifyPass fun p => { p with captures })) (name : Text) (around : Nat) :
    Keeps R (collect name around) := by
  have hpass : Keeps R pass := Keeps.get.bind fun _ => Keeps.pure _
  refine hpass.bind fun p => hpass.bind fun q => hpass.bind fun r => ?_
  dsimp only
  split
  · refine (hwarn _).bind fun _ => ?_
    split
    · exact Keeps.throw _
    · exact (hcaptures _).bind fun _ => Keeps.pure _
  · split
    · exact Keeps.throw _
    · exact (hcaptures _).bind fun _ => Keeps.pure _

/-- Running something as a template: its program starts with an empty output above the captures there are. -/
theorem runFrom_enclosed (name : Text) (act : Run Unit) (s : State) :
    runFrom (enclosed name act) s =
      match runFrom act (s.begun name) with
      | (.ok _, t) => runFrom (collect name s.pass.captures.length) (t.nested (-1))
      | (.error e, t) => (.error (e.inTemplate name), t.cutTo s) := by
  simp only [enclosed, runFrom_bind, runFrom_pass, runFrom_openCapture, runFrom_framed, State.begun]
  generalize runFrom act _ = r
  rcases r with ⟨e | u, t⟩ <;> rfl

end Run
end Stencil
