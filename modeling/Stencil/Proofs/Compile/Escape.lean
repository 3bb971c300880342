import Stencil.Proofs.Compile.Failure
import Stencil.Proofs.Markup.Raise
import Stencil.Proofs.Markup.Written
import Stencil.Proofs.Program.Nesting

/-!
# What escapes from compiling

Whatever the handlers of a registry raise, compiling mostly says that a template is at fault.  What a directive's handler
raises never comes out in another form, but what a filter's handler raises does, and so do literals that cannot be worked
out, programs with a zero character in them, and everything that the loader raises.

* `meaningful_of_written` — no node that a template is read as is a place without meaning.
* `Escapes c source e` — an error that may escape while a source is compiled.
* `compile_escapes` — nothing else does.
-/

namespace Stencil

open Markup

mutual

theorem meaningful_of_written (node : Node) (h : Written [node]) : Program.Meaningful node := by
  cases node with
  | empty line =>
    have hblank : Text.blank [] = false := codes_of_written rfl h [] (List.mem_singleton_self _)
    cases hblank
  | captured line name label body => exact allMeaningful_of_written body fun i hi => h i (by simp [hi])
  | _ => trivial

/-- Written nodes have a meaning. -/
theorem allMeaningful_of_written (nodes : List Node) (h : Written nodes) : Program.AllMeaningful nodes := by
  cases nodes with
  | nil => trivial
  | cons node nodes =>
    rw [← List.singleton_append, written_append] at h
    exact ⟨meaningful_of_written node h.1, allMeaningful_of_written nodes h.2⟩

end

namespace Compiler

variable {c : Compiler} {source name : Text} {around : List Text} {e : Error} {i : Inclusion}

/-- The fault of a program that holds a zero character. -/
def zeroFault : Fault := .wrongValue "source code string cannot contain null bytes"

/-- What may escape while a source is compiled, apart from faults of a template. -/
inductive Escapes (c : Compiler) : Text → Error → Prop
  /-- A filter's handler fails. -/
  | filter {source : Text} {entry : Text × Filter} {value : Text} {args : Option Text} {f : Fault} :
    entry ∈ c.registry.filters → entry.2.handler value args = .error (.fault f) → Escapes c source (.fault f)
  /-- A literal of the source cannot be worked out. -/
  | literal {source s : Text} {f : Fault} : s <:+: source → Argument.literal s = .error f → Escapes c source (.fault f)
  /-- The program of the source holds a zero character. -/
  | zero {source name : Text} {nodes : List Node} {b : Program.Builder} :
    (read c.registry name source).nodes = .ok nodes → Program.generate (some name) nodes = .ok b → '\x00' ∈ b.source →
    Escapes c source (.fault zeroFault)
  /-- The loader fails. -/
  | loader {source n : Text} {load : Loader} {e : Error} : c.loader = some load → load n = .error e → Escapes c source e
  /-- The same while a source is compiled that the loader finds. -/
  | loaded {source source' n : Text} {load : Loader} {log : Log} {e : Error} : c.loader = some load →
    load n = .ok (source', log) → Escapes c source' e → Escapes c source e

/-- An error says that a template is at fault, or may escape while a source is compiled. -/
def Contained (c : Compiler) (source : Text) (e : Error) : Prop := (∃ e', e = .compile e') ∨ Escapes c source e

/-- An include changes nothing about what escapes. -/
theorem Contained.filled (h : Contained c source e) (name : Text) (i : Inclusion) :
    Contained c source (e.filled name i) := by
  cases e with
  | compile e => exact .inl ⟨_, rfl⟩
  | _ => exact h

theorem Contained.loaded {source' n : Text} {load : Loader} {log : Log} (hload : c.loader = some load)
    (hn : load n = .ok (source', log)) (h : Contained c source' e) : Contained c source e :=
  h.imp_right (.loaded hload hn)

/-! ## Reading and making programs -/

theorem contained_of_finds {α : Type} {rule : Rule α} (hrule : rule.Raises c.registry name) {p : Place}
    (h : rule.Finds source p (.error e)) : Contained c source e := by
  obtain ⟨hstands, n, h⟩ := h
  obtain ⟨r, directive, hr, rfl⟩ := hrule p n e h
  cases hr with
  | scan | bare | shown | directive => exact .inl ⟨_, rfl⟩
  | literal hs hliteral => exact .inr (.literal (hstands.isInfix hs) hliteral)
  | filter hentry hhandler =>
    cases r with
    | compile | scan => exact .inl ⟨_, rfl⟩
    | fault f => exact .inr (.filter hentry hhandler)

theorem contained_of_readFault (h : ReadFault c.registry name source e) : Contained c source e := by
  cases h with
  | rule hrule hfinds => exact contained_of_finds (rules_raise hrule) hfinds
  | outline hfault =>
    cases hfault with
    | found hfinds => exact contained_of_finds mark_raises hfinds
    | nested | unfinished => exact .inl ⟨_, rfl⟩

/-- Nodes that are read are refused for their blocks only. -/
theorem contained_of_generate {nodes : List Node} (hread : (read c.registry name source).nodes = .ok nodes)
    (h : Program.generate (some name) nodes = .error e) : Contained c source e := by
  have hm := allMeaningful_of_written nodes (read_written hread)
  obtain ⟨e', rfl, -⟩ := (Program.nests_iff (some name) nodes).2.2 hm e h
  exact .inl ⟨e', rfl⟩

theorem contained_of_checkProgram {nodes : List Node} {b : Program.Builder}
    (hread : (read c.registry name source).nodes = .ok nodes) (hmade : Program.generate (some name) nodes = .ok b)
    (h : checkProgram name b = .error e) : Contained c source e := by
  unfold checkProgram at h
  split at h
  · cases h
  case h_2 hparse =>
    obtain rfl : .fault zeroFault = e := Except.error.inj h
    refine .inr (.zero hread hmade ?_)
    by_contra hzero
    rw [Script.parse, if_neg hzero] at hparse
    simp only at hparse
    split at hparse
    · cases hparse
    · split at hparse <;> cases hparse
  · exact .inl ⟨_, (Except.error.inj h).symm⟩

/-! ## Compiling -/

theorem Fails.contained (h : Fails c around source name e) : Contained c source e := by
  induction h with
  | cycle | deep => exact .inl ⟨_, rfl⟩
  | unread _ hread => exact contained_of_readFault ((read_fails c.registry _ _).1 _ hread)
  | unmade _ hread hmade => exact contained_of_generate hread hmade
  | unfit _ hread hmade hcheck => exact contained_of_checkProgram hread hmade hcheck
  | unloaded hload hn => exact .inr (.loader hload hn)
  | remembered _ hload hn _ ih => exact ih.loaded hload hn
  | unfollowed _ _ hload hn => exact Contained.filled (.inr (.loader hload hn)) _ _
  | included _ _ hload hn _ ih => exact (ih.loaded hload hn).filled _ _

/-- **What escapes.**  Compiling returns a program, or says that a template is at fault, or fails by what the loader
raises, by what a filter's handler raises, by a literal of a source that cannot be worked out, or by a zero character in a
program; so what a directive's handler raises never escapes as it is. -/
theorem compile_escapes (c : Compiler) (m : Memory) (source name : Text)
    (h : (runFrom (c.compile source name) m).1 = .error e) : (∃ e', e = .compile e') ∨ Escapes c source e :=
  (compile_fails c m source name h).contained

/-- A compiler with a filter whose handler fails. -/
def failingFilter : Compiler :=
  { registry := { Registry.standard with
      filters := Registry.builtinFilters.put "f" ⟨fun _ _ => .error (.fault (.wrongValue "filter None")), false⟩ } }

theorem compile_failingFilter :
    (runFrom (failingFilter.compile "\x7b\x7b x | f \x7d\x7d" "page") {}).1 =
      .error (.fault (.wrongValue "filter None")) := by
  have hread : read failingFilter.registry "page" "\x7b\x7b x | f \x7d\x7d" =
      ⟨[], .error (.fault (.wrongValue "filter None"))⟩ := by cbv
  have hlevels : (failingFilter.maxDepth - (([] : List Text).length : Int)).toNat = 49 + 1 := rfl
  rw [Compiler.compile, runFrom_bind, runFrom_get]
  simp only [hlevels]
  refine compileAt_of_translate List.not_mem_nil rfl ?_
  simp only [translate, report, runFrom_bind, runFrom_modify, hread, List.forM, runFrom_pure, runFrom_liftM]

theorem compile_escapes_failingFilter :
    (∃ e', Error.fault (.wrongValue "filter None") = .compile e') ∨
      Escapes failingFilter "\x7b\x7b x | f \x7d\x7d" (.fault (.wrongValue "filter None")) :=
  compile_escapes failingFilter {} _ _ compile_failingFilter

/-- It is not so that compiling returns a program, says that a template is at fault or fails as the loader does: without
any loader, what a filter's handler raises escapes as it is. -/
theorem filter_escapes : ¬ ∀ (c : Compiler) (m : Memory) (source name : Text) (e : Error),
    (runFrom (c.compile source name) m).1 = .error e →
      (∃ e', e = .compile e') ∨ ∃ load n, c.loader = some load ∧ load n = .error e := by
  intro h
  rcases h failingFilter {} _ _ _ compile_failingFilter with ⟨e', he⟩ | ⟨load, n, hload, -⟩
  · cases he
  · cases hload

end Compiler
end Stencil
