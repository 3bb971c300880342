import Stencil.Program.Emit
import Stencil.Proofs.Program.Code
import Stencil.Proofs.Program.Nesting
import Stencil.Proofs.Step

/-!
# The operations of a program

Emitting nodes is a sequence of operations on the builder: program text is added, and blocks are opened, gone on with and
closed.  The sequence depends on the nodes only; what stands in a section is part of it.

* `Operation` — one operation; `perform` — several ones in order.
* `operations`, `allOperations` — the operations of nodes; `programOperations` — those of a program.
* `emitNodes_performs`, `generate_performs` — emitting nodes performs their operations.
* `perform_lines` — operations only add lines.
-/

namespace Stencil.Program

/-- One operation on a builder. -/
inductive Operation where
  | add (code : Text) (line : Int)
  | openBlock (kind header directive : Text) (line : Int)
  | middle (kinds : List Text) (header directive : Text) (line : Int)
  | closeBlock (kind directive : Text) (line : Int)
  deriving DecidableEq, Repr

namespace Operation

/-- The template line that an operation came from. -/
def line : Operation → Int
  | .add _ line | .openBlock _ _ _ line | .middle _ _ _ line | .closeBlock _ _ line => line

/-- The operation puts a header, behind which a block begins or goes on. -/
def heads : Operation → Bool
  | .openBlock .. | .middle .. => true
  | _ => false

/-- The operation goes on with the innermost block or closes it. -/
def turns : Operation → Bool
  | .middle .. | .closeBlock .. => true
  | _ => false

/-- Performs an operation. -/
def apply : Operation → Builder → Except CompileError Builder
  | .add code line, b => .ok (b.add code line)
  | .openBlock kind header directive line, b => .ok (b.openBlock kind header directive line)
  | .middle kinds header directive line, b => b.middle kinds header directive line
  | .closeBlock kind directive line, b => b.closeBlock kind directive line

end Operation

/-- Performs operations in order. -/
def perform : List Operation → Builder → Except CompileError Builder
  | [], b => .ok b
  | op :: ops, b => do perform ops (← op.apply b)

/-! ## The operations of nodes -/

/-- Printing what waits. -/
def Pending.operations (p : Pending) : List Operation :=
  if p.text.isEmpty then [] else [.add ("_echo(" ++ Text.quoted p.text ++ ")") p.line]

mutual

/-- The operations of a node behind pending text, and what is pending behind it. -/
def operations (p : Pending) : Node → Pending × List Operation
  | .text line s | .verbatim line s => (p.push line s, [])
  | .echo line expr escape => ({}, p.operations ++ [.add (echoCode expr escape) line])
  | .statement line code => ({}, p.operations ++ [.add code line])
  | .comment line s => ({}, p.operations ++ [.add ("# " ++ s) line])
  | .openBlock line kind header directive prologue =>
    ({}, p.operations ++ .openBlock kind header directive line :: prologue.map (.add · line))
  | .middle line kinds header directive => ({}, p.operations ++ [.middle kinds header directive line])
  | .closeBlock line kind directive epilogue =>
    ({}, p.operations ++ .closeBlock kind directive line :: epilogue.map (.add · line))
  | .captured line name _ body =>
    let (q, inside) := allOperations {} body
    ({}, p.operations ++ .add ("_view.start_section(" ++ name ++ ")") line ::
      (inside ++ (q.operations ++ [.add "_view.end_section()" line])))
  | .empty _ => ({}, [])

/-- The operations of nodes behind pending text, and what is pending behind them. -/
def allOperations (p : Pending) : List Node → Pending × List Operation
  | [] => (p, [])
  | node :: nodes =>
    let (q, first) := operations p node
    let (r, rest) := allOperations q nodes
    (r, first ++ rest)

end

/-- The operations of a program. -/
def programOperations (nodes : List Node) : List Operation :=
  let (q, ops) := allOperations {} nodes
  ops ++ q.operations

/-! ## Emitting nodes performs their operations -/

variable {b c : Builder} {p q : Pending} {nodes : List Node} {template : Option Text} {ops more : List Operation}

theorem perform_cons {op : Operation} :
    perform (op :: ops) b = .ok c ↔ ∃ d, op.apply b = .ok d ∧ perform ops d = .ok c := bind_eq_ok

theorem perform_append : perform (ops ++ more) b = .ok c ↔ ∃ d, perform ops b = .ok d ∧ perform more d = .ok c := by
  induction ops generalizing b with
  | nil => simp [perform]
  | cons op ops ih =>
    rw [List.cons_append, perform_cons]
    constructor
    · rintro ⟨d, hd, hrest⟩
      obtain ⟨e, he, hmore⟩ := ih.mp hrest
      exact ⟨e, perform_cons.mpr ⟨d, hd, he⟩, hmore⟩
    · rintro ⟨e, he, hmore⟩
      obtain ⟨d, hd, hrest⟩ := perform_cons.mp he
      exact ⟨d, hd, ih.mpr ⟨e, hrest, hmore⟩⟩

theorem perform_singleton {op : Operation} : perform [op] b = .ok c ↔ op.apply b = .ok c := by
  rw [perform_cons]
  constructor
  · rintro ⟨d, hd, hnil⟩
    rw [hd, Except.ok.inj hnil]
  · exact fun h => ⟨c, h, rfl⟩

theorem perform_flush (p : Pending) (b : Builder) : perform p.operations b = .ok (flush p b) := by
  unfold Pending.operations flush
  split <;> rfl

theorem perform_adds (codes : List Text) (line : Int) (b : Builder) :
    perform (codes.map (.add · line)) b = .ok (b.addAll codes line) := by
  induction codes generalizing b with
  | nil => rfl
  | cons code codes ih => exact ih (b.add code line)

mutual

/-- A node that is emitted performs its operations. -/
theorem emitNode_performs (node : Node) (p : Pending) (b : Builder) {q : Pending} {c : Builder}
    (h : emitNode p b node = .ok (q, c)) : q = (operations p node).1 ∧ perform (operations p node).2 b = .ok c := by
  have hflush := perform_flush p b
  match node with
  | .text line s | .verbatim line s =>
    obtain ⟨rfl, rfl⟩ := Prod.mk.inj (Except.ok.inj h)
    exact ⟨rfl, rfl⟩
  | .echo line _ _ | .statement line _ | .comment line _ =>
    obtain ⟨rfl, rfl⟩ := Prod.mk.inj (Except.ok.inj h)
    exact ⟨rfl, perform_append.mpr ⟨_, hflush, rfl⟩⟩
  | .openBlock line kind header directive prologue =>
    obtain ⟨rfl, rfl⟩ := Prod.mk.inj (Except.ok.inj h)
    exact ⟨rfl, perform_append.mpr ⟨_, hflush, perform_adds prologue line _⟩⟩
  | .middle line kinds header directive =>
    obtain ⟨d, hd, heq⟩ := map_eq_ok.mp h
    obtain ⟨rfl, rfl⟩ := Prod.mk.inj heq
    exact ⟨rfl, perform_append.mpr ⟨_, hflush, perform_singleton.mpr (mapError_eq_ok.mp hd)⟩⟩
  | .closeBlock line kind directive epilogue =>
    obtain ⟨d, hd, heq⟩ := map_eq_ok.mp h
    obtain ⟨rfl, rfl⟩ := Prod.mk.inj heq
    exact ⟨rfl, perform_append.mpr ⟨_, hflush, perform_cons.mpr ⟨d, mapError_eq_ok.mp hd, perform_adds epilogue line d⟩⟩⟩
  | .captured line name label body =>
    obtain ⟨⟨r, inner⟩, hbody, hrest⟩ := bind_eq_ok.mp h
    obtain ⟨_, -, hend⟩ := bind_eq_ok.mp hrest
    obtain ⟨rfl, rfl⟩ := Prod.mk.inj (Except.ok.inj hend)
    obtain ⟨rfl, hinside⟩ := emitNodes_performs body {} _ hbody
    refine ⟨rfl, perform_append.mpr ⟨_, hflush, perform_cons.mpr ⟨_, rfl, perform_append.mpr ⟨_, hinside, ?_⟩⟩⟩⟩
    exact perform_append.mpr ⟨_, perform_flush _ _, rfl⟩
  | .empty _ => cases h

/-- Nodes that are emitted perform their operations. -/
theorem emitNodes_performs (nodes : List Node) (p : Pending) (b : Builder) {q : Pending} {c : Builder}
    (h : emitNodes p b nodes = .ok (q, c)) : q = (allOperations p nodes).1 ∧ perform (allOperations p nodes).2 b = .ok c := by
  match nodes with
  | [] =>
    obtain ⟨rfl, rfl⟩ := Prod.mk.inj (Except.ok.inj h)
    exact ⟨rfl, rfl⟩
  | node :: rest =>
    obtain ⟨p', b', hnode, hrest⟩ := emitNodes_cons.mp h
    obtain ⟨rfl, hfirst⟩ := emitNode_performs node p b hnode
    obtain ⟨rfl, hmore⟩ := emitNodes_performs rest _ b' hrest
    exact ⟨rfl, perform_append.mpr ⟨b', hfirst, hmore⟩⟩

end

/-- A program is made by its operations, and leaves no block open. -/
theorem generate_performs (h : generate template nodes = .ok b) :
    perform (programOperations nodes) { template } = .ok b ∧ b.blocks = [] := by
  obtain ⟨q, c, hnodes, hkinds, rfl⟩ := generate_eq_ok.mp h
  obtain ⟨rfl, hperform⟩ := emitNodes_performs nodes {} { template } hnodes
  refine ⟨perform_append.mpr ⟨c, hperform, perform_flush _ c⟩, ?_⟩
  rw [← kinds_of_opened (Builder.opened_flush _ c), Builder.kinds_eq] at hkinds
  exact List.map_eq_nil_iff.mp hkinds

/-! ## Operations only add lines -/

namespace Builder

theorem lines_add (code : Text) (line : Int) (b : Builder) : b.lines <+: (b.add code line).lines := List.prefix_append _ _

theorem lines_pad (line : Int) (b : Builder) : b.lines <+: (b.pad line).lines := by
  unfold pad
  split
  · split
    · exact List.prefix_rfl
    · exact lines_add ..
  · exact List.prefix_rfl

/-- Going on with a block fills it first and puts the header on the level around it. -/
theorem middle_eq_ok {kinds : List Text} {header directive : Text} {line : Int}
    (h : b.middle kinds header directive line = .ok c) :
    ∃ block outer, b.blocks = block :: outer ∧
      c = { { b.pad line with blocks := outer }.add header line with
        blocks := { block with filled := false } :: fill header outer } := by
  cases hb : b.blocks with
  | nil =>
    rw [middle, hb] at h
    cases h
  | cons block outer =>
    by_cases hk : block.kind ∈ kinds
    · refine ⟨block, outer, rfl, ?_⟩
      rw [middle, hb] at h
      simp only [hk, if_true] at h
      exact (Except.ok.inj h).symm
    · rw [middle, hb] at h
      simp only [hk, if_false] at h
      cases h

/-- Closing a block fills it first. -/
theorem closeBlock_eq_ok {kind directive : Text} {line : Int} (h : b.closeBlock kind directive line = .ok c) :
    ∃ block outer, b.blocks = block :: outer ∧ c = { b.pad line with blocks := outer } := by
  cases hb : b.blocks with
  | nil =>
    rw [closeBlock, hb] at h
    cases h
  | cons block outer =>
    by_cases hk : block.kind = kind
    · refine ⟨block, outer, rfl, ?_⟩
      rw [closeBlock, hb] at h
      simp only [hk, if_true] at h
      exact (Except.ok.inj h).symm
    · rw [closeBlock, hb] at h
      simp only [hk, if_false] at h
      cases h

end Builder

/-- A block that is gone on with or closed is filled first. -/
theorem Operation.lines_turns {op : Operation} (hop : op.turns) (h : op.apply b = .ok c) :
    (b.pad op.line).lines <+: c.lines := by
  cases op with
  | middle kinds header directive line =>
    obtain ⟨block, outer, -, rfl⟩ := Builder.middle_eq_ok h
    exact Builder.lines_add header line { b.pad line with blocks := outer }
  | closeBlock kind directive line =>
    obtain ⟨block, outer, -, rfl⟩ := Builder.closeBlock_eq_ok h
    exact List.prefix_rfl
  | _ => cases hop

/-- An operation only adds lines. -/
theorem Operation.lines_apply {op : Operation} (h : op.apply b = .ok c) : b.lines <+: c.lines := by
  by_cases hop : op.turns
  · exact (Builder.lines_pad op.line b).trans (op.lines_turns hop h)
  · cases op with
    | add code line =>
      obtain rfl := Except.ok.inj h
      exact Builder.lines_add code line b
    | openBlock kind header directive line =>
      obtain rfl := Except.ok.inj h
      exact Builder.lines_add header line b
    | _ => exact absurd rfl hop

/-- Operations only add lines. -/
theorem perform_lines (h : perform ops b = .ok c) : b.lines <+: c.lines := by
  induction ops generalizing b with
  | nil =>
    obtain rfl := Except.ok.inj h
    exact List.prefix_rfl
  | cons op ops ih =>
    obtain ⟨d, hd, hrest⟩ := perform_cons.mp h
    exact (op.lines_apply hd).trans (ih hrest)

end Stencil.Program
