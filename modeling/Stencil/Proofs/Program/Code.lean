import Stencil.Program.Builder
import Stencil.Proofs.Text.Split

/-!
# The lines of program text

Program text is put into a program line by line, without its margin and with the indentation of the open blocks.

* `Text.first?` — the first character of a text that is not blank.
* `codeLines_first?` — the first character of program text is the first one of its lines.
* `codeLines_of_not_mem` — the lines of program text without a line break are those behind its indentation.
* `codeLines_unbroken` — program text without a line end and without a margin is one line as it stands.
* `Builder.indent_eq` — the indentation is four spaces for each open block.
* `Line.works` — a line that does something; `exists_works` — program text that is neither blank nor a remark adds one.
-/

namespace Stencil

/-! ## The first character -/

namespace Text

/-- The first character of a text that is not blank. -/
def first? (s : Text) : Option Char := s.find? fun c => !isBlank c

theorem first?_cons_of_blank {c : Char} (h : isBlank c) (s : Text) : first? (c :: s) = first? s := by
  simp [first?, h]

theorem first?_append (s t : Text) : first? (s ++ t) = (first? s).or (first? t) := List.find?_append

theorem first?_cons (c : Char) (s : Text) : first? (c :: s) = (first? [c]).or (first? s) := first?_append [c] s

/-- The first character of lines is that of the first one, if it has any. -/
theorem findSome?_first? (line : Text) (more : List Text) :
    (line :: more).findSome? first? = (first? line).or (more.findSome? first?) := by
  cases h : first? line <;> simp [h]

/-- A text is blank if it has no first character. -/
theorem blank_iff {s : Text} : blank s ↔ first? s = none := by
  simp [blank, first?]

theorem first?_of_blank {s t : Text} (h : blank s) : first? (s ++ t) = first? t := by
  rw [first?_append, blank_iff.mp h]
  rfl

/-- The first character is at the head of what is left without leading blanks. -/
theorem head?_stripLeft (s : Text) : (stripLeft s).head? = first? s := by
  unfold stripLeft
  induction s with
  | nil => rfl
  | cons c s ih =>
    by_cases hc : isBlank c
    · rw [List.dropWhile_cons_of_pos hc, ih, first?_cons_of_blank hc]
    · rw [List.dropWhile_cons_of_neg hc, first?, List.find?_cons_of_pos (by simpa using hc)]
      rfl

variable {p : Char → Bool}

/-- Dropping blank characters in front keeps the first character. -/
theorem first?_dropWhile (hp : ∀ c, p c → isBlank c) (s : Text) : first? (s.dropWhile p) = first? s := by
  induction s with
  | nil => rfl
  | cons c s ih =>
    by_cases hc : p c
    · rw [List.dropWhile_cons_of_pos hc, ih, first?_cons_of_blank (hp c hc)]
    · rw [List.dropWhile_cons_of_neg hc]

/-- Trimming blank characters keeps the first character. -/
theorem first?_trim (hp : ∀ c, p c → isBlank c) (s : Text) : first? (trim p s) = first? s := by
  have hback : ∀ t : Text, first? (t.reverse.dropWhile p).reverse = first? t := by
    intro t
    have hsplit : t = (t.reverse.dropWhile p).reverse ++ (t.reverse.takeWhile p).reverse := by
      rw [← List.reverse_append, List.takeWhile_append_dropWhile, List.reverse_reverse]
    have hblank : blank (t.reverse.takeWhile p).reverse := by
      rw [blank, List.all_eq_true]
      intro c hc
      exact hp c (List.all_eq_true.mp List.all_takeWhile c (List.mem_reverse.mp hc))
    rw [hsplit, first?_append, blank_iff.mp hblank, Option.or_none, ← hsplit]
  unfold trim
  rw [hback, first?_dropWhile hp]

theorem isBlank_of_isIndent {c : Char} (h : isIndent c) : isBlank c := by
  simp only [isIndent, Bool.or_eq_true, beq_iff_eq] at h
  rcases h with rfl | rfl <;> decide

theorem isBlank_of_isLineEnd {c : Char} (h : isLineEnd c) : isBlank c := by
  simp only [isLineEnd, List.mem_cons, List.not_mem_nil, or_false, decide_eq_true_eq] at h
  rcases h with rfl | rfl | rfl | rfl | rfl | rfl | rfl | rfl | rfl | rfl <;> decide

/-- The first character of lines that are joined is the first one of them. -/
theorem first?_join (parts : List Text) : first? (join ['\n'] parts) = parts.findSome? first? := by
  have hbreak : isBlank '\n' := by decide
  induction parts with
  | nil => rfl
  | cons part parts ih =>
    cases parts with
    | nil => simp [join]
    | cons next parts =>
      have hjoin : join ['\n'] (part :: next :: parts) = part ++ '\n' :: join ['\n'] (next :: parts) := by
        simp [join]
      rw [hjoin, first?_append, first?_cons_of_blank hbreak, ih, findSome?_first? part]

/-- The first character of a text is the first one of its lines. -/
theorem first?_lines (s : Text) : (lines s).findSome? first? = first? s := by
  induction s using lines.induct with
  | case1 => rfl
  | case2 s ih =>
    rw [lines, findSome?_first?, ih, first?_cons_of_blank (by decide), first?_cons_of_blank (by decide)]
    rfl
  | case3 c s _ hend ih =>
    rw [lines, if_pos hend, findSome?_first?, ih, first?_cons_of_blank (isBlank_of_isLineEnd hend)]
    · rfl
    · assumption
  | case4 c s _ hend hs ih =>
    have hnone : first? s = none := by rw [← ih, hs]; rfl
    rw [lines, if_neg hend, hs]
    · rw [findSome?_first?, first?_cons c s, hnone]
      rfl
    · assumption
  | case5 c s _ hend line more hs ih =>
    rw [hs, findSome?_first?] at ih
    rw [lines, if_neg hend, hs]
    · rw [findSome?_first?, first?_cons c line, first?_cons c s, ← ih, Option.or_assoc]
    · assumption

/-! ## Margins -/

theorem isIndent_of_mem_commonStart {s t : Text} (h : ∀ c ∈ s, isIndent c) : ∀ c ∈ commonStart s t, isIndent c := by
  induction s generalizing t with
  | nil => cases t <;> simp [commonStart]
  | cons d s ih =>
    cases t with
    | nil => simp [commonStart]
    | cons e t =>
      unfold commonStart
      split
      · intro c hc
        rcases List.mem_cons.mp hc with rfl | hc
        · exact h _ (by simp)
        · exact ih (fun c hc => h c (by simp [hc])) c hc
      · simp

/-- A margin is made of spaces and tabs. -/
theorem isIndent_of_mem_sharedMargin {indents : List Text} (h : ∀ indent ∈ indents, ∀ c ∈ indent, isIndent c) :
    ∀ c ∈ sharedMargin indents, isIndent c := by
  cases indents with
  | nil => simp [sharedMargin]
  | cons indent indents =>
    have hfirst : ∀ c ∈ indent, isIndent c := h indent (by simp)
    unfold sharedMargin
    clear h
    induction indents generalizing indent with
    | nil => exact hfirst
    | cons next indents ih => exact ih _ (isIndent_of_mem_commonStart hfirst)

/-- Lines that change in their blanks only keep the first character. -/
theorem findSome?_map_first? {f : Text → Text} (hf : ∀ line, first? (f line) = first? line) (parts : List Text) :
    (parts.map f).findSome? first? = parts.findSome? first? := by
  rw [List.findSome?_map]
  exact congrArg (parts.findSome? ·) (funext hf)

theorem first?_indents {indent : Text} (h : ∀ c ∈ indent, isIndent c) (s : Text) : first? (indent ++ s) = first? s := by
  apply first?_of_blank
  rw [blank, List.all_eq_true]
  exact fun c hc => isBlank_of_isIndent (h c hc)

/-- Removing the margin keeps the first character. -/
theorem first?_dedent (s : Text) : first? (dedent s) = first? s := by
  have hempty : ∀ line : Text, first? (if line.all isIndent then [] else line) = first? line := by
    intro line
    by_cases hall : line.all isIndent
    · have hline := first?_indents (List.all_eq_true.mp hall) []
      rw [List.append_nil] at hline
      rw [if_pos hall, hline]
    · rw [if_neg hall]
  have hcut : ∀ margin : Text, (∀ c ∈ margin, isIndent c) → ∀ line : Text,
      first? ((after? margin line).getD line) = first? line := by
    intro margin hmargin line
    cases h : after? margin line with
    | none => rfl
    | some rest =>
      rw [after?_eq_some.mp h, first?_indents hmargin]
      rfl
  unfold dedent
  simp only
  rw [first?_join, findSome?_map_first? (hcut _ ?_), findSome?_map_first? hempty, ← first?_join, join_splitOn]
  apply isIndent_of_mem_sharedMargin
  intro indent hindent
  obtain ⟨line, -, hline⟩ := List.mem_filterMap.mp hindent
  unfold indentOf? at hline
  split at hline
  · cases hline
  · cases hline
    exact fun c hc => List.all_eq_true.mp List.all_takeWhile c hc

end Text

/-! ## The lines of program text -/

namespace Program

open Text

/-- The first character of program text is the first one of its lines. -/
theorem codeLines_first? (code : Text) : (codeLines code).findSome? first? = first? code := by
  have hbreak : ∀ c : Char, (c == '\n') = true → isBlank c := by
    intro c hc
    rw [beq_iff_eq.mp hc]
    decide
  have hlines := first?_lines (trim (· == '\n') (dedent code))
  rw [first?_trim hbreak, first?_dedent] at hlines
  unfold codeLines
  split
  · next hnil =>
    rw [← hlines, hnil]
    rfl
  · exact hlines

/-- Program text is a remark if its first character begins one. -/
theorem isRemark_iff (code : Text) : isRemark code = true ↔ first? code = some '#' := by
  unfold isRemark
  rw [head?_stripLeft, beq_iff_eq]

/-- Program text that is neither blank nor a remark has such a line. -/
theorem exists_codeLine {code : Text} (hblank : blank code = false) (hremark : isRemark code = false) :
    ∃ line ∈ codeLines code, blank line = false ∧ isRemark line = false := by
  obtain ⟨c, hc⟩ : ∃ c, first? code = some c := by
    rw [← Bool.not_eq_true, blank_iff] at hblank
    exact Option.ne_none_iff_exists'.mp hblank
  have hfirst : c ≠ '#' := by
    rintro rfl
    rw [(isRemark_iff code).mpr hc] at hremark
    cases hremark
  rw [← codeLines_first?] at hc
  obtain ⟨line, hmem, hline⟩ := List.exists_of_findSome?_eq_some hc
  refine ⟨line, hmem, ?_, ?_⟩
  · rw [← Bool.not_eq_true, blank_iff, hline]
    simp
  · rw [← Bool.not_eq_true, isRemark_iff, hline]
    simpa using hfirst

theorem lines_unbroken {c : Char} {s : Text} (h : ∀ d ∈ c :: s, isLineEnd d = false) : lines (c :: s) = [c :: s] := by
  induction s generalizing c with
  | nil =>
    have hc := h c (by simp)
    rw [lines, if_neg (by simp [hc])]
    · rfl
    · simp
  | cons d s ih =>
    have hc := h c (by simp)
    rw [lines, if_neg (by simp [hc]), ih fun e he => h e (by simp [he])]
    rintro rest rfl
    cases hc

/-- The margin of a single line is its indentation. -/
theorem dedent_of_not_mem {s : Text} (h : '\n' ∉ s) (hall : s.all isIndent = false) :
    dedent s = s.dropWhile isIndent := by
  have hparts : ([s].map fun line : Text => if line.all isIndent then [] else line) = [s] := by
    rw [List.map_singleton, hall]
    rfl
  have hmargin : [s].filterMap indentOf? = [s.takeWhile isIndent] := by
    have hindent : indentOf? s = some (s.takeWhile isIndent) := by
      unfold indentOf?
      rw [hall]
      rfl
    rw [List.filterMap_cons_some hindent]
    rfl
  have hcut : after? (s.takeWhile isIndent) s = some (s.dropWhile isIndent) :=
    after?_eq_some.mpr List.takeWhile_append_dropWhile.symm
  unfold dedent
  simp only
  rw [splitOn_of_not_mem h, hparts, hmargin]
  simp [sharedMargin, hcut, join]

/-- A text that is not empty has a line. -/
theorem lines_ne_nil {s : Text} (h : s ≠ []) : lines s ≠ [] := by
  induction s using lines.induct with
  | case1 => exact absurd rfl h
  | case2 s _ =>
    rw [lines]
    exact List.cons_ne_nil _ _
  | case3 c s _ hend _ =>
    rw [lines, if_pos hend]
    · exact List.cons_ne_nil _ _
    · assumption
  | case4 c s _ hend hs _ =>
    rw [lines, if_neg hend, hs]
    · exact List.cons_ne_nil _ _
    · assumption
  | case5 c s _ hend line more hs _ =>
    rw [lines, if_neg hend, hs]
    · exact List.cons_ne_nil _ _
    · assumption

/-- The lines of program text without a line break are those of what stands behind its indentation. -/
theorem codeLines_of_not_mem {code : Text} (h : '\n' ∉ code) (hall : code.all isIndent = false) :
    codeLines code = lines (code.dropWhile isIndent) := by
  have hbehind : '\n' ∉ code.dropWhile isIndent := fun hmem => h ((List.dropWhile_suffix _).subset hmem)
  have hkeep : ∀ t : Text, '\n' ∉ t → t.dropWhile (· == '\n') = t := by
    intro t ht
    apply List.dropWhile_beq_eq_self_of_head?_ne
    intro hhead
    exact ht (List.mem_of_mem_head? hhead)
  have htrim : trim (· == '\n') (code.dropWhile isIndent) = code.dropWhile isIndent := by
    unfold trim
    rw [hkeep _ hbehind, hkeep _ (fun hmem => hbehind (List.mem_reverse.mp hmem)), List.reverse_reverse]
  have hsome : lines (code.dropWhile isIndent) ≠ [] := by
    refine lines_ne_nil fun hnil => ?_
    have hwhole : code.takeWhile isIndent = code := by
      rw [← List.append_nil (code.takeWhile isIndent), ← hnil, List.takeWhile_append_dropWhile]
    rw [← hwhole, List.all_takeWhile] at hall
    cases hall
  unfold codeLines
  rw [dedent_of_not_mem h hall, htrim]
  split
  · exact absurd ‹_› hsome
  · rfl

/-- Program text without a line end and without a margin is one line as it stands. -/
theorem codeLines_unbroken {c : Char} {s : Text} (hc : isIndent c = false) (h : ∀ d ∈ c :: s, isLineEnd d = false) :
    codeLines (c :: s) = [c :: s] := by
  have hbreak : '\n' ∉ c :: s := by
    intro hmem
    exact absurd (h _ hmem) (by decide)
  rw [codeLines_of_not_mem hbreak (by simp [hc]), List.dropWhile_cons_of_neg (by simp [hc]), lines_unbroken h]

/-! ## Indentation -/

/-- The indentation is four spaces for each open block. -/
theorem Builder.indent_eq (b : Builder) : b.indent = List.replicate (4 * b.depth) ' ' := by
  have hspaces : indentation = List.replicate 4 ' ' := by decide
  unfold indent
  rw [hspaces, List.flatten_replicate_replicate, Nat.mul_comm]

/-- A line of the program that does something: it is neither blank nor a remark. -/
def Line.works (line : Line) : Bool := !blank line.text && !isRemark line.text

theorem Line.works_iff {line : Line} : line.works ↔ ∃ c, first? line.text = some c ∧ c ≠ '#' := by
  have hremark : (isRemark line.text = false) ↔ first? line.text ≠ some '#' := by
    rw [← Bool.not_eq_true, isRemark_iff]
  have hblank : (blank line.text = false) ↔ first? line.text ≠ none := by
    rw [← Bool.not_eq_true, blank_iff]
  unfold works
  rw [Bool.and_eq_true, Bool.not_eq_true', Bool.not_eq_true', hremark, hblank]
  cases first? line.text with
  | none => simp
  | some c => simp

theorem blank_replicate (n : Nat) : blank (List.replicate n ' ') := by
  rw [blank, List.all_eq_true]
  intro c hc
  rw [List.eq_of_mem_replicate hc]
  decide

/-- The lines that program text adds: each is blank or indented. -/
theorem blank_or_indented {indent part : Text} : blank (indented indent part) ∨ indent <+: indented indent part := by
  unfold indented
  split
  · exact .inl rfl
  · exact .inr (List.prefix_append _ _)

/-- Program text that is neither blank nor a remark adds a line that does something. -/
theorem exists_works {code : Text} (hblank : blank code = false) (hremark : isRemark code = false) (line : Int)
    (b : Builder) : ∃ l ∈ (codeLines code).map fun part => (⟨indented b.indent part, line⟩ : Line), l.works := by
  obtain ⟨part, hmem, hpart, hnoremark⟩ := exists_codeLine hblank hremark
  refine ⟨_, List.mem_map_of_mem hmem, ?_⟩
  have hindented : indented b.indent part = b.indent ++ part := by
    unfold indented
    rw [hpart]
    rfl
  have hworks : (⟨part, line⟩ : Line).works := by
    unfold Line.works
    rw [hpart, hnoremark]
    rfl
  rw [Line.works_iff] at hworks ⊢
  rw [hindented, b.indent_eq, first?_of_blank (blank_replicate _)]
  exact hworks

end Program
end Stencil
