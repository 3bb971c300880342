import Mathlib.Data.Bool.AllAny
import Stencil.Program.Draft
import Stencil.Proofs.Step
import Stencil.Proofs.Text.Split

/-!
# What calls make of a draft

* `lines_append_break`, `lines_breaks` — lines that are written with a break behind each are read back.
* `Builder.draft`, `runFrom_perform` — a call does to a draft what the operation does to the builder, and a call that
  fails changes nothing.
* `on_extends`, `on_depth` — what one call adds, and how many blocks are open behind it.
* `lines_after`, `line_of_after`, `unbroken_after`, `depth_after` — the same of calls made one after the other.
* `draft_exact` — what is true of a draft behind any calls.
-/

namespace Stencil

namespace Text

variable {s line : Text} {c : Char}

/-- The lines of a text hold no line end. -/
theorem not_isLineEnd_of_mem_lines (h : line ∈ lines s) : ∀ c ∈ line, isLineEnd c = false := by
  fun_induction lines s generalizing line with
  | case1 => cases h
  | case2 s ih =>
    rcases List.mem_cons.mp h with rfl | h
    · exact nofun
    · exact ih h
  | case3 c s _ _ ih =>
    rcases List.mem_cons.mp h with rfl | h
    · exact nofun
    · exact ih h
  | case4 c s _ hend hnil ih =>
    obtain rfl := List.mem_singleton.mp h
    intro d hd
    obtain rfl := List.mem_singleton.mp hd
    simpa using hend
  | case5 c s _ hend first more hmore ih =>
    rw [hmore] at ih
    rcases List.mem_cons.mp h with rfl | h
    · intro d hd
      rcases List.mem_cons.mp hd with rfl | hd
      · simpa using hend
      · exact ih List.mem_cons_self d hd
    · exact ih (List.mem_cons_of_mem _ h)

/-- A line before a break is the first one. -/
theorem lines_append_break (h : ∀ c ∈ line, isLineEnd c = false) (s : Text) :
    lines (line ++ '\n' :: s) = line :: lines s := by
  induction line with
  | nil => rfl
  | cons c line ih =>
    obtain ⟨hc, hline⟩ := List.forall_mem_cons.mp h
    have hother : c ≠ '\r' := by
      rintro rfl
      exact absurd hc (by decide)
    rw [List.cons_append, lines, ih hline]
    · simp [hc]
    · exact fun _ hreturn _ => hother hreturn

/-- Lines that are written with a break behind each are read back. -/
theorem lines_breaks {parts : List Text} (h : ∀ line ∈ parts, ∀ c ∈ line, isLineEnd c = false) :
    lines (parts.flatMap (· ++ ['\n'])) = parts := by
  induction parts with
  | nil => rfl
  | cons line parts ih =>
    obtain ⟨hline, hparts⟩ := List.forall_mem_cons.mp h
    rw [List.flatMap_cons, List.append_assoc, List.singleton_append, lines_append_break hline, ih hparts]

end Text

namespace Program

/-! ## Drafts and builders -/

/-- The draft that a builder describes. -/
def Builder.draft (b : Builder) : Draft := ⟨b.template, b.lines.map Line.text, b.lineMap, b.blocks⟩

/-- What a call makes of a builder. -/
def Call.on (b : Builder) : Call → Except Error Builder
  | add code line => .ok (b.add code line)
  | openBlock kind header directive line => .ok (b.openBlock kind header directive line)
  | middle kinds header directive line => (b.middle kinds header directive line).mapError .compile
  | closeBlock kind directive line => (b.closeBlock kind directive line).mapError .compile
  | checkClosed depth place => (b.checkClosed depth place).map fun _ => b

variable {b : Builder} {call : Call} {calls : List Call} {line : Int}

/-- A builder with more lines. -/
def Builder.more (b : Builder) (added : List Line) : Builder := { b with lines := b.lines ++ added }

theorem runFrom_append (part : Text) :
    runFrom (Draft.append line part) b.draft = (.ok (), (b.more [⟨part, line⟩]).draft) := by
  simp [Draft.append, runFrom_bind, Builder.draft, Builder.lineMap, Builder.more]

theorem runFrom_appends (indent : Text) (parts : List Text) :
    runFrom (parts.forM fun part => Draft.append line (indented indent part)) b.draft =
      (.ok (), (b.more (parts.map fun part => ⟨indented indent part, line⟩)).draft) := by
  induction parts generalizing b with
  | nil => simp [Builder.more]
  | cons part parts ih =>
    rw [List.forM_eq_forM, List.forM_cons, runFrom_bind_ok (runFrom_append _), ← List.forM_eq_forM, ih]
    simp [Builder.more]

theorem runFrom_add (code : Text) :
    runFrom (Draft.add code line) b.draft = (.ok (), (b.add code line).draft) := by
  rw [Draft.add, runFrom_bind, runFrom_get]
  simp only
  rw [runFrom_bind_ok (runFrom_appends _ _), runFrom_modify]
  rfl

/-- A block that would be empty gets its line. -/
theorem runFrom_pad {block : Block} {outer : List Block} (hb : b.blocks = block :: outer) :
    runFrom (Draft.pad block line) b.draft = (.ok (), (b.pad line).draft) := by
  cases hfilled : block.filled with
  | true => simp [Draft.pad, Builder.pad, hb, hfilled]
  | false => simp [Draft.pad, Builder.pad, hb, hfilled, runFrom_add]

theorem blocks_pad_tail {block : Block} {outer : List Block} (hb : b.blocks = block :: outer) :
    (b.pad line).blocks.tail = outer := by
  rw [Builder.pad, hb]
  simp only
  split
  · rw [hb]
    rfl
  · rw [Builder.add, hb]
    rfl

theorem runFrom_pop {outer : List Block} (hb : b.blocks.tail = outer) :
    runFrom Draft.pop b.draft = (.ok (), { b with blocks := outer }.draft) := by
  rw [← hb]
  rfl

theorem runFrom_middle (kinds : List Text) (header directive : Text) :
    runFrom (Draft.middle kinds header directive line) b.draft =
      match b.middle kinds header directive line with
      | .ok c => (.ok (), c.draft)
      | .error e => (.error (.compile e), b.draft) := by
  have hblocks : b.draft.blocks = b.blocks := rfl
  rw [Draft.middle, runFrom_bind, runFrom_get]
  simp only [hblocks, Builder.middle]
  cases hb : b.blocks with
  | nil => rfl
  | cons block outer =>
    by_cases hkind : block.kind ∈ kinds
    · simp only [hkind, not_true_eq_false, if_false, if_true]
      rw [runFrom_bind_ok (runFrom_pad hb), runFrom_bind_ok (runFrom_pop (blocks_pad_tail hb)),
        runFrom_bind_ok (runFrom_add _)]
      rfl
    · simp only [hkind, not_false_eq_true, if_false, if_true]
      rfl

theorem runFrom_closeBlock (kind directive : Text) :
    runFrom (Draft.closeBlock kind directive line) b.draft =
      match b.closeBlock kind directive line with
      | .ok c => (.ok (), c.draft)
      | .error e => (.error (.compile e), b.draft) := by
  have hblocks : b.draft.blocks = b.blocks := rfl
  rw [Draft.closeBlock, runFrom_bind, runFrom_get]
  simp only [hblocks, Builder.closeBlock]
  cases hb : b.blocks with
  | nil => rfl
  | cons block outer =>
    by_cases hkind : block.kind = kind
    · simp only [hkind, ne_eq, not_true_eq_false, if_false, if_true]
      rw [runFrom_bind_ok (runFrom_pad hb), runFrom_pop (blocks_pad_tail hb)]
    · simp only [hkind, ne_eq, not_false_eq_true, if_false, if_true]
      rfl

theorem runFrom_checkClosed (depth : Int) (place : Text) :
    runFrom (Draft.checkClosed depth place) b.draft = (b.checkClosed depth place, b.draft) := by
  have hblocks : b.draft.blocks = b.blocks := rfl
  have hdepth : b.draft.depth = b.depth := rfl
  rw [Draft.checkClosed, runFrom_bind, runFrom_get]
  simp only [hblocks, hdepth, Builder.checkClosed]
  cases hb : b.blocks with
  | nil =>
    have hnone : b.depth = 0 := by rw [Builder.depth, hb]; rfl
    by_cases hneg : depth < 0
    · simp [hnone, hneg]
    · simp [hnone, hneg]
  | cons block outer =>
    by_cases hmany : (b.depth : Int) > depth
    · simp only [hmany, if_true]
      rfl
    · simp only [hmany, if_false]
      rfl

/-- A call does to the draft what it makes of the builder; if it fails, the draft is as it was. -/
theorem runFrom_perform (call : Call) (b : Builder) :
    runFrom call.perform b.draft =
      match call.on b with
      | .ok c => (.ok (), c.draft)
      | .error e => (.error e, b.draft) := by
  cases call with
  | add code line => exact runFrom_add code
  | openBlock kind header directive line =>
    have hadd : runFrom (Draft.add header line) b.draft = (.ok (), (b.add header line).draft) := runFrom_add header
    simp only [Call.perform, Draft.openBlock, Call.on]
    rw [runFrom_bind_ok hadd, runFrom_modify]
    rfl
  | middle kinds header directive line =>
    simp only [Call.perform, Call.on, runFrom_middle]
    cases b.middle kinds header directive line <;> rfl
  | closeBlock kind directive line =>
    simp only [Call.perform, Call.on, runFrom_closeBlock]
    cases b.closeBlock kind directive line <;> rfl
  | checkClosed depth place =>
    simp only [Call.perform, Call.on, runFrom_checkClosed]
    cases b.checkClosed depth place <;> rfl

/-! ## What one call adds -/

/-- A builder has the lines of another one and more, each of them without a line end and from one template line. -/
def Extends (line? : Option Int) (b c : Builder) : Prop :=
  ∃ added : List Line, c.lines = b.lines ++ added ∧
    ∀ l ∈ added, line? = some l.source ∧ ∀ c ∈ l.text, Text.isLineEnd c = false

namespace Extends

variable {line? : Option Int} {c d : Builder}

theorem refl (b : Builder) : Extends line? b b := ⟨[], (List.append_nil _).symm, nofun⟩

theorem trans (h : Extends line? b c) (h' : Extends line? c d) : Extends line? b d := by
  obtain ⟨added, hc, hadded⟩ := h
  obtain ⟨added', hd, hadded'⟩ := h'
  refine ⟨added ++ added', by rw [hd, hc, List.append_assoc], fun l hl => ?_⟩
  exact (List.mem_append.mp hl).elim (hadded l) (hadded' l)

end Extends

theorem not_isLineEnd_of_mem_codeLines {code part : Text} (h : part ∈ codeLines code) :
    ∀ c ∈ part, Text.isLineEnd c = false := by
  unfold codeLines at h
  split at h
  · obtain rfl := List.mem_singleton.mp h
    exact nofun
  · exact Text.not_isLineEnd_of_mem_lines h

theorem not_isLineEnd_of_mem_indented {n : Nat} {part : Text} (h : ∀ c ∈ part, Text.isLineEnd c = false) :
    ∀ c ∈ indented (List.replicate n indentation).flatten part, Text.isLineEnd c = false := by
  intro c hc
  unfold indented at hc
  split at hc
  · cases hc
  · rcases List.mem_append.mp hc with hc | hc
    · obtain ⟨indent, hindent, hc⟩ := List.mem_flatten.mp hc
      obtain rfl := List.eq_of_mem_replicate hindent
      have hspaces : ∀ c ∈ indentation, Text.isLineEnd c = false := List.all_iff_forall_prop.mp (by decide)
      exact hspaces c hc
    · exact h c hc

theorem extends_add (code : Text) (line : Int) (b : Builder) : Extends (some line) b (b.add code line) := by
  refine ⟨_, rfl, fun l hl => ?_⟩
  obtain ⟨part, hpart, rfl⟩ := List.mem_map.mp hl
  exact ⟨rfl, not_isLineEnd_of_mem_indented (not_isLineEnd_of_mem_codeLines hpart)⟩

theorem extends_pad (line : Int) (b : Builder) : Extends (some line) b (b.pad line) := by
  unfold Builder.pad
  split
  · split
    · exact .refl b
    · exact extends_add _ _ b
  · exact .refl b

/-- What a call adds are lines without a line end, each from the template line that the call is for. -/
theorem on_extends {c : Builder} (h : call.on b = .ok c) : Extends call.line? b c := by
  cases call with
  | add code line =>
    obtain rfl := Except.ok.inj h
    exact extends_add code line b
  | openBlock kind header directive line =>
    obtain rfl := Except.ok.inj h
    exact extends_add header line b
  | middle kinds header directive line =>
    have h := mapError_eq_ok.mp h
    unfold Builder.middle at h
    split at h
    · cases h
    case h_2 block outer _ =>
      split at h
      · obtain rfl := Except.ok.inj h
        exact (extends_pad line b).trans (extends_add header line { b.pad line with blocks := outer })
      · cases h
  | closeBlock kind directive line =>
    have h := mapError_eq_ok.mp h
    unfold Builder.closeBlock at h
    split at h
    · cases h
    · split at h
      · obtain rfl := Except.ok.inj h
        exact extends_pad line b
      · cases h
  | checkClosed depth place =>
    obtain ⟨_, -, rfl⟩ := map_eq_ok.mp h
    exact .refl b

/-- The call opens a block. -/
def Call.opens : Call → Bool
  | openBlock .. => true
  | _ => false

/-- The call closes a block. -/
def Call.closes : Call → Bool
  | closeBlock .. => true
  | _ => false

theorem depth_add (code : Text) (line : Int) (b : Builder) : (b.add code line).depth = b.depth := by
  rw [Builder.depth, Builder.add]
  unfold Builder.fill
  split
  case h_1 h => rw [Builder.depth, h]
  case h_2 h => rw [Builder.depth, h]; rfl

/-- A call that ends well opens one block, closes one, or leaves as many open as there were. -/
theorem on_depth {c : Builder} (h : call.on b = .ok c) :
    c.depth + call.closes.toNat = b.depth + call.opens.toNat := by
  cases call with
  | add code line =>
    obtain rfl := Except.ok.inj h
    exact depth_add code line b
  | openBlock kind header directive line =>
    obtain rfl := Except.ok.inj h
    exact congrArg (· + 1) (depth_add header line b)
  | middle kinds header directive line =>
    have h := mapError_eq_ok.mp h
    unfold Builder.middle at h
    split at h
    · cases h
    case h_2 block outer hb =>
      split at h
      · obtain rfl := Except.ok.inj h
        have hadd := depth_add header line { b.pad line with blocks := outer }
        simp only [Builder.depth, List.length_cons, Call.closes, Call.opens, Bool.toNat_false, hb] at hadd ⊢
        rw [hadd]
      · cases h
  | closeBlock kind directive line =>
    have h := mapError_eq_ok.mp h
    unfold Builder.closeBlock at h
    split at h
    · cases h
    case h_2 block outer hb =>
      split at h
      · obtain rfl := Except.ok.inj h
        simp only [Builder.depth, hb, List.length_cons]
        rfl
      · cases h
  | checkClosed depth place =>
    obtain ⟨_, -, rfl⟩ := map_eq_ok.mp h
    rfl

/-! ## What calls leave behind -/

/-- A draft behind calls that are made one after the other, whether they fail or not. -/
def after (d : Draft) (calls : List Call) : Draft := calls.foldl (fun d call => (runFrom call.perform d).2) d

/-- The calls among them that end well. -/
def done (d : Draft) : List Call → List Call
  | [] => []
  | call :: calls =>
    match runFrom call.perform d with
    | (.ok _, d) => call :: done d calls
    | (.error _, d) => done d calls

/-- What a call leaves of a builder. -/
def Builder.step (b : Builder) (call : Call) : Builder := (call.on b).toOption.getD b

theorem runFrom_perform_snd (call : Call) (b : Builder) : (runFrom call.perform b.draft).2 = (b.step call).draft := by
  rw [runFrom_perform, Builder.step]
  cases call.on b <;> rfl

theorem after_draft (calls : List Call) (b : Builder) : after b.draft calls = (calls.foldl Builder.step b).draft := by
  induction calls generalizing b with
  | nil => rfl
  | cons call calls ih => exact (congrArg (after · calls) (runFrom_perform_snd call b)).trans (ih (b.step call))

theorem step_extends (call : Call) (b : Builder) : Extends call.line? b (b.step call) := by
  unfold Builder.step
  cases h : call.on b with
  | ok c => exact on_extends h
  | error e => exact .refl b

/-- Calls only add lines. -/
theorem lines_after (calls : List Call) (b : Builder) : b.lines <+: (calls.foldl Builder.step b).lines := by
  induction calls generalizing b with
  | nil => exact List.prefix_refl _
  | cons call calls ih =>
    obtain ⟨added, hlines, -⟩ := step_extends call b
    exact (List.prefix_append _ _).trans (hlines ▸ ih (b.step call))

/-- No line behind calls holds a line end if none did before. -/
theorem unbroken_after (calls : List Call) (b : Builder)
    (hb : ∀ l ∈ b.lines, ∀ c ∈ l.text, Text.isLineEnd c = false) :
    ∀ l ∈ (calls.foldl Builder.step b).lines, ∀ c ∈ l.text, Text.isLineEnd c = false := by
  induction calls generalizing b with
  | nil => exact hb
  | cons call calls ih =>
    refine ih (b.step call) fun l hl => ?_
    obtain ⟨added, hlines, hadded⟩ := step_extends call b
    rw [hlines] at hl
    exact (List.mem_append.mp hl).elim (hb l) fun hl => (hadded l hl).2

/-- The open blocks are those that were opened and not yet closed. -/
theorem depth_after (calls : List Call) (b : Builder) :
    (calls.foldl Builder.step b).depth + (done b.draft calls).countP Call.closes =
      b.depth + (done b.draft calls).countP Call.opens := by
  induction calls generalizing b with
  | nil => rfl
  | cons call calls ih =>
    have hstep := runFrom_perform call b
    rw [List.foldl_cons, done, Builder.step]
    cases h : call.on b with
    | ok c =>
      have hdepth := on_depth h
      have hrest := ih c
      rw [h] at hstep
      simp only [hstep, Except.toOption, Option.getD_some, List.countP_cons]
      cases hopens : call.opens <;> cases hcloses : call.closes <;> simp [hopens, hcloses] at hdepth ⊢ <;> omega
    | error e =>
      rw [h] at hstep
      simp only [hstep]
      exact ih b

/-- A line behind calls that was not there before was added by one of them, and it came from that call's template
line. -/
theorem line_of_after {calls : List Call} {b : Builder} {i : Nat} {l : Line}
    (h : (calls.foldl Builder.step b).lines[i]? = some l) (hi : b.lines.length ≤ i) :
    ∃ before call behind, calls = before ++ call :: behind ∧ (before.foldl Builder.step b).lines.length ≤ i ∧
      i < ((before ++ [call]).foldl Builder.step b).lines.length ∧ call.line? = some l.source := by
  induction calls generalizing b with
  | nil =>
    obtain ⟨hlt, -⟩ := List.getElem?_eq_some_iff.mp h
    exact absurd hi (Nat.not_le_of_lt hlt)
  | cons call calls ih =>
    rw [List.foldl_cons] at h
    by_cases hfirst : i < (b.step call).lines.length
    · refine ⟨[], call, calls, rfl, hi, hfirst, ?_⟩
      obtain ⟨added, hlines, hadded⟩ := step_extends call b
      obtain ⟨more, hmore⟩ := lines_after calls (b.step call)
      rw [← hmore, List.getElem?_append_left hfirst, hlines, List.getElem?_append_right hi] at h
      exact (hadded l (List.mem_of_getElem? h)).1
    · obtain ⟨before, call', behind, hsplit, hlow, hhigh, hline⟩ := ih h (Nat.le_of_not_lt hfirst)
      exact ⟨call :: before, call', behind, by rw [hsplit]; rfl, hlow, hhigh, hline⟩

/-- The text of a draft holds every line with a break behind it. -/
theorem source_eq (d : Draft) : d.source = d.lines.flatMap (· ++ ['\n']) := by
  have hjoin : ∀ (line : Text) (lines : List Text),
      Text.join "\n" (line :: lines) ++ "\n" = (line :: lines).flatMap (· ++ ['\n']) := by
    intro line lines
    induction lines generalizing line with
    | nil => rw [Text.join_singleton]; simp
    | cons next lines ih =>
      rw [Text.join_cons_cons, List.append_assoc, List.append_assoc, ih next]
      simp
  rw [Draft.source]
  cases hlines : d.lines with
  | nil => rfl
  | cons line lines => exact hjoin line lines

/-- **Drafts.**  Behind any calls, whether they failed or not, a draft has one template line for each of its lines, no
line holds a line end, and the text falls into the very lines; each line is from the template line of the call that added
it; the open blocks are those that were opened and not yet closed; and a call that fails leaves everything as it was. -/
theorem draft_exact (template : Option Text) (calls : List Call) :
    let d := after { template } calls
    d.lines.length = d.lineMap.length ∧
    (∀ line ∈ d.lines, ∀ c ∈ line, Text.isLineEnd c = false) ∧
    Text.lines d.source = d.lines ∧
    (∀ i < d.lines.length, ∃ before call behind, calls = before ++ call :: behind ∧
      (after { template } before).lines.length ≤ i ∧ i < (after { template } (before ++ [call])).lines.length ∧
      (after { template } (before ++ [call])).lines <+: d.lines ∧ d.lineMap[i]? = call.line?) ∧
    d.depth + (done { template } calls).countP Call.closes = (done { template } calls).countP Call.opens ∧
    ∀ (call : Call) (e : Error) (d' : Draft), runFrom call.perform d = (.error e, d') → d' = d := by
  have hempty : ({ template } : Draft) = ({ template } : Builder).draft := rfl
  have hafter : ∀ calls, after { template } calls = (calls.foldl Builder.step { template }).draft :=
    fun calls => by rw [hempty, after_draft]
  have hunbroken := unbroken_after calls { template } nofun
  simp only [hafter]
  generalize hb : calls.foldl Builder.step { template } = b at hunbroken
  have hlines : ∀ line ∈ b.draft.lines, ∀ c ∈ line, Text.isLineEnd c = false := by
    intro line hline
    obtain ⟨l, hl, rfl⟩ := List.mem_map.mp hline
    exact hunbroken l hl
  refine ⟨by simp [Builder.draft, Builder.lineMap], hlines, ?_, fun i hi => ?_, ?_, fun call e d' h => ?_⟩
  · rw [source_eq, Text.lines_breaks hlines]
  · have hi : i < b.lines.length := by simpa [Builder.draft] using hi
    have hl : (calls.foldl Builder.step { template }).lines[i]? = some b.lines[i] := by simp [hb, hi]
    obtain ⟨before, call, behind, rfl, hlow, hhigh, hline⟩ := line_of_after hl (Nat.zero_le _)
    have hmore := lines_after behind ((before ++ [call]).foldl Builder.step { template })
    rw [← List.foldl_append, List.append_assoc, List.singleton_append, hb] at hmore
    refine ⟨before, call, behind, rfl, by simpa [Builder.draft] using hlow, by simpa [Builder.draft] using hhigh,
      hmore.map Line.text, ?_⟩
    simp [hline, Builder.draft, Builder.lineMap, hi]
  · have hdepth := depth_after calls { template }
    rw [hb, ← hempty] at hdepth
    exact hdepth.trans (Nat.zero_add _)
  · rw [runFrom_perform] at h
    split at h
    · cases h
    · exact (Prod.mk.inj h).2.symm

/-- A block that is closed by the wrong directive first: the refusal leaves the draft alone, and the line that fills the
block is from the line of the call that closes it. -/
theorem draft_exact_mismatched :
    let calls := [.openBlock "if" "if x:" "if" 1, .closeBlock "for" "endfor" 2, .closeBlock "if" "endif" 3]
    after {} calls = ⟨none, ["if x:", "    pass"], [1, 3], []⟩ ∧
    Text.lines (after {} calls).source = (after {} calls).lines ∧
    (∃ before call behind, calls = before ++ call :: behind ∧ (after {} before).lines.length ≤ 1 ∧
      call.line? = some 3) ∧
    ∃ e, runFrom (Call.perform (.closeBlock "for" "endfor" 4)) (after {} calls) = (.error e, after {} calls) := by
  intro calls
  obtain ⟨-, -, hsource, hline, -, hfails⟩ := draft_exact none calls
  have hrun : after {} calls = ⟨none, ["if x:", "    pass"], [1, 3], []⟩ := by decide
  obtain ⟨before, call, behind, hcalls, hlow, -, -, hmap⟩ := hline 1 (by rw [hrun]; decide)
  rw [hrun] at hmap
  refine ⟨hrun, hsource, ⟨before, call, behind, hcalls, hlow, hmap.symm⟩, ?_⟩
  obtain ⟨e, he⟩ : ∃ e, (runFrom (Call.perform (.closeBlock "for" "endfor" 4)) (after {} calls)).1 = .error e :=
    ⟨_, rfl⟩
  exact ⟨e, Prod.ext he (hfails _ e _ (Prod.ext he rfl))⟩

end Program
end Stencil
