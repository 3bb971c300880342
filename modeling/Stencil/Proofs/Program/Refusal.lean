import Stencil.Proofs.Markup.Raise
import Stencil.Proofs.Program.Operation

/-!
# Where nodes are refused

Nodes that become no program are refused on a line of the source that they stand in.

* `Builder.Lined` — what a builder says of its template and its open blocks.
* `emitNodes_lined` — emitting nodes keeps this, and refuses them on a line of the source.
* `generate_bare` — how making a program fails.
-/

namespace Stencil.Program

open Markup

variable {name source : Text} {b c : Builder} {line : Int}

namespace Builder

@[simp] theorem template_add (code : Text) (line : Int) (b : Builder) : (b.add code line).template = b.template := rfl

@[simp] theorem template_addAll (codes : List Text) (line : Int) (b : Builder) :
    (b.addAll codes line).template = b.template := by
  induction codes generalizing b with
  | nil => rfl
  | cons code codes ih => exact ih (b.add code line)

@[simp] theorem template_pad (line : Int) (b : Builder) : (b.pad line).template = b.template := by
  unfold pad
  split
  · split <;> rfl
  · rfl

@[simp] theorem template_openBlock (kind header directive : Text) (line : Int) (b : Builder) :
    (b.openBlock kind header directive line).template = b.template := rfl

@[simp] theorem template_flush (p : Pending) (b : Builder) : (flush p b).template = b.template := by
  unfold flush
  split <;> rfl

/-- A builder is for a template of a name, and every open block was opened on a line of a source. -/
structure Lined (name source : Text) (b : Builder) : Prop where
  template : b.template = some name
  lines : ∀ block ∈ b.opened, IsLineOf source block.line

/-- What keeps the template and opens no block keeps the lines. -/
theorem Lined.of_opened (h : b.Lined name source) (htemplate : c.template = b.template)
    (hopened : c.opened ⊆ b.opened) : c.Lined name source :=
  ⟨htemplate.trans h.template, fun block hblock => h.lines block (hopened hblock)⟩

theorem Lined.flush (h : b.Lined name source) (p : Pending) : (flush p b).Lined name source :=
  h.of_opened (by simp) (by simp)

theorem Lined.add (h : b.Lined name source) (code : Text) (line : Int) : (b.add code line).Lined name source :=
  h.of_opened (by simp) (by simp)

theorem Lined.addAll (h : b.Lined name source) (codes : List Text) (line : Int) :
    (b.addAll codes line).Lined name source :=
  h.of_opened (by simp) (by simp)

theorem Lined.openBlock (h : b.Lined name source) (hline : IsLineOf source line) (kind header directive : Text) :
    (b.openBlock kind header directive line).Lined name source := by
  refine ⟨h.template, ?_⟩
  rw [opened_openBlock]
  exact List.forall_mem_cons.mpr ⟨hline, h.lines⟩

/-- What a builder refuses, it refuses on a line. -/
theorem Lined.fail {α : Type} {cause : Cause} {e : CompileError} (h : b.Lined name source)
    (hcause : cause.isBare = true) (hline : IsLineOf source line)
    (he : (b.fail cause line : Except CompileError α) = .error e) :
    e.Bare name source := by
  obtain rfl := Except.error.inj he
  exact ⟨hcause, h.template, ⟨line, rfl, hline⟩, rfl⟩

theorem Lined.middle {kinds : List Text} {header directive : Text} (h : b.Lined name source)
    (hline : IsLineOf source line) :
    (∀ e, b.middle kinds header directive line = .error e → e.Bare name source) ∧
      ∀ c, b.middle kinds header directive line = .ok c → c.Lined name source := by
  refine ⟨fun e he => ?_, fun c hc => ?_⟩
  · unfold Builder.middle at he
    split at he
    · exact h.fail rfl hline he
    · split at he
      · cases he
      · exact h.fail rfl hline he
  · refine h.of_opened ?_ ?_
    · obtain ⟨block, outer, -, rfl⟩ := middle_eq_ok hc
      simp
    · rcases b.middle_cases kinds header directive line with ⟨d, hd, hopened, -⟩ | ⟨-, e, he, -⟩
      · rw [hc] at hd
        obtain rfl := Except.ok.inj hd
        rw [hopened]
        exact List.Subset.refl _
      · rw [hc] at he
        cases he

theorem Lined.closeBlock {kind directive : Text} (h : b.Lined name source) (hline : IsLineOf source line) :
    (∀ e, b.closeBlock kind directive line = .error e → e.Bare name source) ∧
      ∀ c, b.closeBlock kind directive line = .ok c → c.Lined name source := by
  refine ⟨fun e he => ?_, fun c hc => ?_⟩
  · unfold Builder.closeBlock at he
    split at he
    · exact h.fail rfl hline he
    · split at he
      · cases he
      · exact h.fail rfl hline he
  · refine h.of_opened ?_ ?_
    · obtain ⟨block, outer, -, rfl⟩ := closeBlock_eq_ok hc
      simp
    · rcases b.closeBlock_cases kind directive line with ⟨d, hd, hopened, -⟩ | ⟨-, e, he, -⟩
      · rw [hc] at hd
        obtain rfl := Except.ok.inj hd
        rw [hopened]
        exact List.tail_subset _
      · rw [hc] at he
        cases he

/-- A block that is left open is told with the line on which it was opened. -/
theorem Lined.checkClosed {depth : Int} {place : Text} {e : CompileError} (h : b.Lined name source)
    (he : b.checkClosed depth place = .error (.compile e)) : e.Bare name source := by
  unfold Builder.checkClosed at he
  split at he
  · split at he <;> cases he
  case h_2 block outer hblocks =>
    split at he
    · have hline := h.lines { block with filled := false } (by simp [opened, hblocks])
      have hfail : (b.fail (.openBlock block.directive place) block.line : Except CompileError Unit) = .error e :=
        congrArg Except.error (Error.compile.inj (Except.error.inj he))
      exact h.fail rfl hline hfail
    · cases he

end Builder

/-! ## Emitting nodes -/

/-- Emitting is refused on a line of a source, or leads to a builder whose blocks were opened on such lines. -/
def Lined (name source : Text) (r : Except Error (Pending × Builder)) : Prop :=
  (∀ e, r = .error (.compile e) → e.Bare name source) ∧ ∀ q c, r = .ok (q, c) → c.Lined name source

theorem lined_ok (p : Pending) (hb : b.Lined name source) : Lined name source (.ok (p, b)) := by
  refine ⟨nofun, fun q c h => ?_⟩
  obtain ⟨-, rfl⟩ := Prod.mk.inj (Except.ok.inj h)
  exact hb

theorem lined_map {r : Except CompileError Builder} {f : Builder → Builder}
    (h : (∀ e, r = .error e → e.Bare name source) ∧ ∀ c, r = .ok c → c.Lined name source)
    (hf : ∀ c : Builder, c.Lined name source → (f c).Lined name source) :
    Lined name source ((r.mapError Error.compile).map fun c => ({}, f c)) := by
  cases r with
  | error e =>
    refine ⟨fun e' he => ?_, nofun⟩
    obtain rfl := Error.compile.inj (Except.error.inj he)
    exact h.1 e rfl
  | ok c => exact lined_ok _ (hf c (h.2 c rfl))

theorem lined_bind {r : Except Error (Pending × Builder)} {f : Pending × Builder → Except Error (Pending × Builder)}
    (hr : Lined name source r) (hf : ∀ q c, c.Lined name source → Lined name source (f (q, c))) :
    Lined name source (r >>= f) := by
  cases r with
  | error e =>
    refine ⟨fun e' he => ?_, nofun⟩
    exact hr.1 e' he
  | ok found => exact hf _ _ (hr.2 _ _ rfl)

mutual

theorem emitNode_lined (node : Node) (hnode : ∀ i ∈ itemsOf node, i.StandsIn source) (p : Pending) {b : Builder}
    (hb : b.Lined name source) : Lined name source (emitNode p b node) := by
  have hflush := hb.flush p
  cases node with
  | text | verbatim => exact lined_ok _ hb
  | echo | statement | comment => exact lined_ok _ (hflush.add _ _)
  | openBlock line kind header directive prologue =>
    have hline : IsLineOf source line := hnode (.node (.openBlock line kind header directive prologue)) (by simp)
    exact lined_ok _ ((hflush.openBlock hline kind header directive).addAll prologue line)
  | middle line kinds header directive =>
    have hline : IsLineOf source line := hnode (.node (.middle line kinds header directive)) (by simp)
    exact lined_map (f := id) (hflush.middle hline) fun c hc => hc
  | closeBlock line kind directive epilogue =>
    have hline : IsLineOf source line := hnode (.node (.closeBlock line kind directive epilogue)) (by simp)
    exact lined_map (hflush.closeBlock hline) fun c hc => hc.addAll epilogue line
  | captured line name label body =>
    have hstart := hflush.add ("_view.start_section(" ++ name ++ ")") line
    have hbody := emitNodes_lined body (fun i hi => hnode i (by simp [hi])) {} hstart
    refine lined_bind hbody fun q c hc => ?_
    have hinner := hc.flush q
    refine ⟨fun e he => ?_, fun r d hd => ?_⟩
    · rcases bind_eq_error.mp he with he | ⟨_, -, he⟩
      · exact hinner.checkClosed he
      · cases he
    · obtain ⟨_, -, hd⟩ := bind_eq_ok.mp hd
      obtain ⟨-, rfl⟩ := Prod.mk.inj (Except.ok.inj hd)
      exact hinner.add _ line
  | empty => exact ⟨nofun, nofun⟩

/-- **Lines.**  Nodes that stand in a source are refused on a line of it, or lead to a builder whose blocks were opened
on lines of it. -/
theorem emitNodes_lined (nodes : List Node) (hnodes : ∀ i ∈ items nodes, i.StandsIn source) (p : Pending) {b : Builder}
    (hb : b.Lined name source) : Lined name source (emitNodes p b nodes) := by
  cases nodes with
  | nil => exact lined_ok _ hb
  | cons node nodes =>
    refine lined_bind (emitNode_lined node (fun i hi => hnodes i (by simp [hi])) p hb) fun q c hc => ?_
    exact emitNodes_lined nodes (fun i hi => hnodes i (by simp [hi])) q hc

end

/-- **Refusal.**  Nodes that stand in a source and become no program are refused on a line of the source. -/
theorem generate_bare {nodes : List Node} (hnodes : ∀ i ∈ items nodes, i.StandsIn source) {e : CompileError}
    (h : generate (some name) nodes = .error (.compile e)) : e.Bare name source := by
  have hstart : ({ template := some name } : Builder).Lined name source := ⟨rfl, nofun⟩
  obtain ⟨hrefused, hlined⟩ := emitNodes_lined nodes hnodes {} hstart
  rcases bind_eq_error.mp h with h | ⟨b, hemit, h⟩
  · rcases bind_eq_error.mp h with h | ⟨_, -, h⟩
    · exact hrefused e h
    · cases h
  · obtain ⟨⟨q, c⟩, hnodes, hc⟩ := bind_eq_ok.mp hemit
    obtain rfl : flush q c = b := Except.ok.inj hc
    have hrefused := (bind_eq_error.mp h).resolve_right fun ⟨_, _, h⟩ => nomatch h
    exact ((hlined q c hnodes).flush q).checkClosed hrefused

end Stencil.Program
