import Stencil.Proofs.Program.Code
import Stencil.Proofs.Program.Draft
import Stencil.Proofs.Program.Nesting

/-!
# Program text on one line

The lines of a template end at line breaks only.  Program text is put into a program by lines that end at any of ten
characters, so text from one line of a template stays on one line of the program, character for character, exactly if it
holds none of the other nine either.

* `codeLines_eq_singleton` — without a line end, what stands behind the indentation is one line.
* `lines_add_eq_iff` — program text becomes the one line that it is written as exactly if it holds no line end.
* `one_line_iff` — so does each text that is not blank, and so does each printed expression.
-/

namespace Stencil.Program

open Text

variable {code expr : Text} {line : Int} {b : Builder}

/-- Program text that is not blank holds more than spaces and tabs. -/
theorem all_isIndent_of_not_blank (h : blank code = false) : code.all isIndent = false := by
  rw [← Bool.not_eq_true] at h ⊢
  intro hall
  refine h (List.all_eq_true.mpr fun c hc => ?_)
  exact isBlank_of_isIndent (List.all_eq_true.mp hall c hc)

/-- What is dropped in front of program text ends no line. -/
theorem isLineEnd_dropWhile_iff (code : Text) :
    (∀ c ∈ code.dropWhile isIndent, isLineEnd c = false) ↔ ∀ c ∈ code, isLineEnd c = false := by
  refine ⟨fun h c hc => ?_, fun h c hc => h c ((List.dropWhile_suffix _).subset hc)⟩
  rw [← List.takeWhile_append_dropWhile (p := isIndent) (l := code), List.mem_append] at hc
  rcases hc with hc | hc
  · have hindent : isIndent c = true := List.all_eq_true.mp List.all_takeWhile c hc
    simp only [isIndent, Bool.or_eq_true, beq_iff_eq] at hindent
    rcases hindent with rfl | rfl <;> decide
  · exact h c hc

/-- Without a line end, what stands behind the indentation is one line. -/
theorem codeLines_eq_singleton (hblank : blank code = false) (h : ∀ c ∈ code, isLineEnd c = false) :
    codeLines code = [code.dropWhile isIndent] := by
  have hbreak : '\n' ∉ code := fun hmem => absurd (h _ hmem) (by decide)
  rw [codeLines_of_not_mem hbreak (all_isIndent_of_not_blank hblank)]
  have hends := (isLineEnd_dropWhile_iff code).mpr h
  cases hbehind : code.dropWhile isIndent with
  | nil =>
    have hfirst := first?_dropWhile (fun c => isBlank_of_isIndent) code
    rw [hbehind] at hfirst
    rw [blank_iff.mpr hfirst.symm] at hblank
    cases hblank
  | cons c rest =>
    rw [hbehind] at hends
    exact lines_unbroken hends

/-- **One line.**  Program text becomes one line, the indentation of the open blocks and the text without the spaces and
tabs in front of it, exactly if it holds no character that ends a line. -/
theorem lines_add_eq_iff (hblank : blank code = false) :
    (b.add code line).lines = b.lines ++ [⟨b.indent ++ code.dropWhile isIndent, line⟩] ↔
      ∀ c ∈ code, isLineEnd c = false := by
  constructor
  · intro hlines
    rw [← isLineEnd_dropWhile_iff]
    intro c hc
    -- no line that is added holds a line end, and the text is in one of them
    obtain ⟨added, hadded, hplain⟩ := extends_add code line b
    rw [hadded, List.append_cancel_left_eq] at hlines
    obtain ⟨-, hone⟩ := hplain ⟨b.indent ++ code.dropWhile isIndent, line⟩ (by rw [hlines]; simp)
    exact hone c (List.mem_append_right _ hc)
  · intro hends
    have hbehind : blank (code.dropWhile isIndent) = false := by
      rw [← Bool.not_eq_true, blank_iff, first?_dropWhile (fun c => isBlank_of_isIndent), ← blank_iff, hblank]
      decide
    unfold Builder.add
    simp only
    rw [codeLines_eq_singleton hblank hends, List.map_singleton, indented, hbehind]
    rfl

/-! ## Printed expressions -/

theorem indent_flush (p : Pending) (b : Builder) : (flush p b).indent = b.indent := by
  unfold Builder.indent
  rw [Builder.depth_eq, Builder.depth_eq, Builder.opened_flush]

/-- The program text that prints an expression is that text without a margin. -/
theorem dropWhile_echoCode (expr : Text) (escape : Bool) : (echoCode expr escape).dropWhile isIndent = echoCode expr escape := by
  cases escape <;> rfl

theorem isLineEnd_of_all {s : Text} (h : s.all (fun c => !isLineEnd c) = true) : ∀ c ∈ s, isLineEnd c = false := by
  simpa using h

theorem isLineEnd_echoCode_iff (expr : Text) (escape : Bool) :
    (∀ c ∈ echoCode expr escape, isLineEnd c = false) ↔ ∀ c ∈ expr, isLineEnd c = false := by
  have hplain : ∀ s ∈ (["_echo(_e(", "_echo(", "))", ")"] : List Text), ∀ c ∈ s, isLineEnd c = false := by
    simp only [List.forall_mem_cons]
    refine ⟨?_, ?_, ?_, ?_, List.forall_mem_nil _⟩ <;> exact isLineEnd_of_all (by decide)
  cases escape <;>
  · simp only [echoCode, Bool.false_eq_true, if_true, if_false, List.mem_append]
    refine ⟨fun h c hc => h c (.inl (.inr hc)), ?_⟩
    rintro h c ((hc | hc) | hc)
    · exact hplain _ (by simp) c hc
    · exact h c hc
    · exact hplain _ (by simp) c hc

/-- **Code stays on its line.**  Program text that is not blank becomes one line, the indentation of the open blocks and
the text without the spaces and tabs in front of it, exactly if it holds no character that ends a line.  So the call that
prints an expression, escaped or raw, is one line that holds the expression character for character, behind what waited to
be printed, exactly if the expression holds none. -/
theorem one_line_iff (b : Builder) (line : Int) :
    (∀ code, blank code = false →
      ((b.add code line).lines = b.lines ++ [⟨b.indent ++ code.dropWhile isIndent, line⟩] ↔
        ∀ c ∈ code, isLineEnd c = false)) ∧
    ∀ p expr escape, ∃ c, emitNode p b (.echo line expr escape) = .ok ({}, c) ∧
      (c.lines = (flush p b).lines ++
          [⟨b.indent ++ (if escape then "_echo(_e(" ++ expr ++ "))" else "_echo(" ++ expr ++ ")"), line⟩] ↔
        ∀ c ∈ expr, isLineEnd c = false) := by
  refine ⟨fun code hblank => lines_add_eq_iff hblank, fun p expr escape => ⟨_, rfl, ?_⟩⟩
  have hblank : blank (echoCode expr escape) = false := by
    rw [← Bool.not_eq_true, blank_iff]
    cases escape <;> simp [echoCode, first?, show isBlank '_' = false by decide]
  have hline : ((flush p b).add (echoCode expr escape) line).lines = _ ↔ _ := lines_add_eq_iff hblank
  rw [dropWhile_echoCode, indent_flush, isLineEnd_echoCode_iff] at hline
  exact hline

/-- In a block an indented text is one line behind the indentation of the block. -/
theorem one_line_iff_indented :
    blank "\t x = 'a b'" = false ∧
      (({ blocks := [⟨"if", "if", 1, true⟩] } : Builder).add "\t x = 'a b'" 2).lines = [⟨"    x = 'a b'", 2⟩] := by
  have hblank : blank "\t x = 'a b'" = false := by decide
  exact ⟨hblank, ((one_line_iff { blocks := [⟨"if", "if", 1, true⟩] } 2).1 _ hblank).mpr (isLineEnd_of_all (by decide))⟩

/-- A line separator inside a literal ends a line of the program, although it ends no line of a template. -/
theorem separator_splits :
    ¬ ∀ (b : Builder) (code : Text) (line : Int), blank code = false → '\n' ∉ code → '\r' ∉ code →
      (b.add code line).lines = b.lines ++ [⟨b.indent ++ code.dropWhile isIndent, line⟩] := by
  intro h
  have hone := h {} "_echo(_e('a\u2028b'))" 1 (by decide) (by decide) (by decide)
  revert hone
  decide

end Stencil.Program
