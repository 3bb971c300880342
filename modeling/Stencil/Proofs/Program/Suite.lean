import Stencil.Proofs.Markup.Written
import Stencil.Proofs.Program.Operation

/-!
# No block is empty

Between the header of a block and the place where the block goes on or is closed, a program has a line that does
something, and every line there is indented by one step more than the header.

* `Operation.Written` — an operation adds no blank program text; `written_operations` — the operations of nodes that are
  read do not.
* `Suite` — a builder stands inside a block: what was put in behind its header, and whether that fills the block.
* `Suite.apply` — what one operation does; `Suite.turns` — the operations up to the one that turns the block.
* `suites_filled` — no block of a program that is made from a template is empty.
-/

namespace Stencil.Program

open Text

/-- The operation adds no blank program text. -/
def Operation.Written : Operation → Prop
  | .add code _ => blank code = false
  | .openBlock _ header _ _ | .middle _ header _ _ => blank header = false
  | .closeBlock .. => True

/-- The lines of the header that an operation puts around a number of blocks. -/
def Operation.headerLines (depth : Nat) : Operation → List Line
  | .openBlock _ header _ line | .middle _ header _ line =>
    (codeLines header).map fun part => ⟨indented (List.replicate (4 * depth) ' ') part, line⟩
  | _ => []

/-- A builder stands inside the innermost block of another one, and a suite was put in between.  The block is marked as
filled only if the suite has a line that does something. -/
structure Suite (h b : Builder) (suite : List Line) : Prop where
  lines : b.lines = h.lines ++ suite
  indented : ∀ line ∈ suite, blank line.text ∨ h.indent <+: line.text
  filled : ∃ above block outer, b.blocks = above ++ block :: outer ∧ outer.length + 1 = h.depth ∧
    (block.filled → ∃ line ∈ suite, line.works)

/-- The operations behind a header up to the first one that goes on with its block or closes it. -/
structure Turns (h : Builder) (inside : List Operation) (turn : Operation) (e : Builder) : Prop where
  performed : perform inside h = .ok e
  turns : turn.turns
  depth : e.depth = h.depth
  first : ∀ front op back m, inside = front ++ op :: back → perform front h = .ok m → op.turns → h.depth < m.depth

variable {h b c e : Builder} {suite : List Line} {op : Operation} {ops : List Operation} {p : Pending} {node : Node}
  {nodes : List Node} {block : Block} {outer : List Block}

/-! ## One operation -/

namespace Suite

theorem depth_le (hs : Suite h b suite) : h.depth ≤ b.depth := by
  obtain ⟨above, block, outer, hblocks, hdepth, -⟩ := hs.filled
  unfold Builder.depth at hdepth ⊢
  rw [hblocks, List.length_append, List.length_cons]
  omega

/-- The innermost block of the builder is the block itself if no further one is open. -/
theorem innermost (hs : Suite h b suite) (hd : b.depth ≤ h.depth) :
    ∃ block outer, b.blocks = block :: outer ∧ outer.length + 1 = h.depth ∧
      (block.filled → ∃ line ∈ suite, line.works) := by
  obtain ⟨above, block, outer, hblocks, hdepth, hfilled⟩ := hs.filled
  have habove : above = [] := by
    unfold Builder.depth at hd hdepth
    rw [hblocks, List.length_append, List.length_cons] at hd
    exact List.length_eq_zero_iff.mp (by omega)
  rw [habove, List.nil_append] at hblocks
  exact ⟨block, outer, hblocks, hdepth, hfilled⟩

/-- Program text that is not blank is put into the block, or into one inside it. -/
theorem add {code : Text} (hs : Suite h b suite) (hcode : blank code = false) (line : Int) :
    ∃ suite', Suite h (b.add code line) suite' := by
  have hbegins : h.indent <+: b.indent := by
    have hd := hs.depth_le
    rw [h.indent_eq, b.indent_eq]
    exact ⟨List.replicate (4 * b.depth - 4 * h.depth) ' ', by rw [List.replicate_append_replicate]; congr 1; omega⟩
  refine ⟨suite ++ (codeLines code).map fun part => ⟨Program.indented b.indent part, line⟩, ?_, ?_, ?_⟩
  · rw [← List.append_assoc, ← hs.lines]
    rfl
  · intro l hl
    rcases List.mem_append.mp hl with hl | hl
    · exact hs.indented l hl
    · obtain ⟨part, -, rfl⟩ := List.mem_map.mp hl
      exact blank_or_indented.imp_right hbegins.trans
  · obtain ⟨above, block, outer, hblocks, hdepth, hfilled⟩ := hs.filled
    have hkept : block.filled → ∃ l ∈ suite ++ (codeLines code).map fun part => ⟨Program.indented b.indent part, line⟩,
        l.works := fun hf => (hfilled hf).imp fun l hl => ⟨List.mem_append_left _ hl.1, hl.2⟩
    have hadded : (b.add code line).blocks = Builder.fill code (above ++ block :: outer) := by
      rw [← hblocks]
      rfl
    cases above with
    | cons top above =>
      exact ⟨_ :: above, block, outer, hadded, hdepth, hkept⟩
    | nil =>
      refine ⟨[], if isRemark code then block else { block with filled := true }, outer, hadded, hdepth, ?_⟩
      by_cases hremark : isRemark code
      · rw [if_pos hremark]
        exact hkept
      · intro _
        obtain ⟨l, hl, hworks⟩ := exists_works hcode (by simpa using hremark) line b
        exact ⟨l, List.mem_append_right _ hl, hworks⟩

/-- A block is opened inside the block. -/
theorem push (hs : Suite h b suite) (block : Block) : Suite h { b with blocks := block :: b.blocks } suite := by
  obtain ⟨above, own, outer, hblocks, hrest⟩ := hs.filled
  exact ⟨hs.lines, hs.indented, block :: above, own, outer, congrArg (block :: ·) hblocks, hrest⟩

/-- A block that was opened inside the block ends. -/
theorem pop (hs : Suite h b suite) (hb : b.blocks = block :: outer) (hd : h.depth < b.depth) :
    Suite h { b with blocks := outer } suite := by
  obtain ⟨above, own, rest, hblocks, hdepth, hfilled⟩ := hs.filled
  cases above with
  | nil =>
    unfold Builder.depth at hd hdepth
    rw [hblocks, List.nil_append, List.length_cons] at hd
    omega
  | cons top above =>
    rw [hb, List.cons_append, List.cons.injEq] at hblocks
    exact ⟨hs.lines, hs.indented, above, own, rest, hblocks.2, hdepth, hfilled⟩

/-- An innermost block that would be empty gets a line. -/
theorem pad (hs : Suite h b suite) (line : Int) : ∃ suite', Suite h (b.pad line) suite' := by
  unfold Builder.pad
  split
  · split
    · exact ⟨suite, hs⟩
    · exact hs.add (by decide) line
  · exact ⟨suite, hs⟩

end Suite

namespace Builder

theorem depth_pad (line : Int) (b : Builder) : (b.pad line).depth = b.depth := by
  rw [depth_eq, depth_eq, opened_pad]

/-- A block that is gone on with or closed is filled. -/
theorem blocks_pad (hb : b.blocks = block :: outer) (line : Int) :
    ∃ top, (b.pad line).blocks = top :: outer ∧ top.filled := by
  unfold pad
  rw [hb]
  simp only
  by_cases hfilled : block.filled
  · rw [if_pos hfilled]
    exact ⟨block, hb, hfilled⟩
  · rw [if_neg hfilled]
    refine ⟨{ block with filled := true }, ?_, rfl⟩
    unfold add
    simp only
    rw [hb]
    rfl

end Builder

/-- An operation that leaves the block open keeps the builder inside it. -/
theorem Suite.apply (hs : Suite h b suite) (hop : op.Written) (hturn : op.turns → h.depth < b.depth)
    (happly : op.apply b = .ok c) : ∃ suite', Suite h c suite' := by
  cases op with
  | add code line =>
    obtain rfl := Except.ok.inj happly
    exact hs.add hop line
  | openBlock kind header directive line =>
    obtain rfl := Except.ok.inj happly
    obtain ⟨suite', hs'⟩ := hs.add hop line
    exact ⟨suite', hs'.push _⟩
  | middle kinds header directive line =>
    obtain ⟨block, outer, hb, rfl⟩ := Builder.middle_eq_ok happly
    obtain ⟨top, htop, -⟩ := Builder.blocks_pad hb line
    obtain ⟨padded, hpadded⟩ := hs.pad line
    have hd : h.depth < (b.pad line).depth := by
      rw [Builder.depth_pad]
      exact hturn rfl
    obtain ⟨suite', hs'⟩ := (hpadded.pop htop hd).add hop line
    exact ⟨suite', hs'.push _⟩
  | closeBlock kind directive line =>
    obtain ⟨block, outer, hb, rfl⟩ := Builder.closeBlock_eq_ok happly
    obtain ⟨top, htop, -⟩ := Builder.blocks_pad hb line
    obtain ⟨padded, hpadded⟩ := hs.pad line
    have hd : h.depth < (b.pad line).depth := by
      rw [Builder.depth_pad]
      exact hturn rfl
    exact ⟨padded, hpadded.pop htop hd⟩

/-- Behind a header the suite of its block begins. -/
theorem suite_behind (hop : op.heads) (happly : op.apply b = .ok c) : Suite c c [] := by
  have hinner : ∃ block outer, c.blocks = block :: outer ∧ block.filled = false := by
    cases op with
    | openBlock kind header directive line =>
      obtain rfl := Except.ok.inj happly
      exact ⟨_, _, rfl, rfl⟩
    | middle kinds header directive line =>
      obtain ⟨block, outer, -, rfl⟩ := Builder.middle_eq_ok happly
      exact ⟨_, _, rfl, rfl⟩
    | _ => cases hop
  obtain ⟨block, outer, hblocks, hfilled⟩ := hinner
  refine ⟨(List.append_nil _).symm, by simp, [], block, outer, hblocks, ?_, ?_⟩
  · unfold Builder.depth
    rw [hblocks, List.length_cons]
  · rw [hfilled]
    exact fun hf => nomatch hf

/-- Where the block is turned, its suite has a line that does something; the next header stands behind it. -/
theorem Suite.turn (hs : Suite h b suite) (hd : b.depth = h.depth) (hop : op.turns) (happly : op.apply b = .ok c) :
    ∃ suite', c.lines = h.lines ++ suite' ++ op.headerLines (h.depth - 1) ∧ (∃ line ∈ suite', line.works) ∧
      ∀ line ∈ suite', blank line.text ∨ h.indent <+: line.text := by
  obtain ⟨suite', hs'⟩ := hs.pad op.line
  have hd' : (b.pad op.line).depth ≤ h.depth := by
    rw [Builder.depth_pad]
    exact hd.le
  obtain ⟨top, rest, htop, hdepth, hfilled⟩ := hs'.innermost hd'
  have hb : ∃ block outer, b.blocks = block :: outer ∧ outer.length + 1 = h.depth ∧
      c.lines = (b.pad op.line).lines ++ op.headerLines (h.depth - 1) := by
    cases op with
    | middle kinds header directive line =>
      obtain ⟨block, outer, hb, rfl⟩ := Builder.middle_eq_ok happly
      have hlength : outer.length + 1 = h.depth := by
        rw [← hd, Builder.depth, hb, List.length_cons]
      refine ⟨block, outer, hb, hlength, ?_⟩
      have hindent := Builder.indent_eq { b.pad line with blocks := outer }
      have hlevel : h.depth - 1 = outer.length := by omega
      unfold Builder.add Operation.headerLines
      simp only
      rw [hindent, hlevel]
      rfl
    | closeBlock kind directive line =>
      obtain ⟨block, outer, hb, rfl⟩ := Builder.closeBlock_eq_ok happly
      have hlength : outer.length + 1 = h.depth := by
        rw [← hd, Builder.depth, hb, List.length_cons]
      exact ⟨block, outer, hb, hlength, (List.append_nil _).symm⟩
    | _ => cases hop
  obtain ⟨block, outer, hblocks, -, hlines⟩ := hb
  obtain ⟨top', htop', hf⟩ := Builder.blocks_pad hblocks op.line
  rw [htop'] at htop
  obtain ⟨rfl, -⟩ := List.cons.inj htop
  exact ⟨suite', by rw [hlines, hs'.lines], hfilled hf, hs'.indented⟩

/-! ## Operations up to the turn -/

/-- Operations that leave no block open turn the block at some time. -/
theorem Suite.turns (hs : Suite h b suite) (hops : ∀ op ∈ ops, op.Written) (hrun : perform ops b = .ok c)
    (hc : c.blocks = []) :
    ∃ inside turn after e suite', ops = inside ++ turn :: after ∧ perform inside b = .ok e ∧ turn.turns ∧
      e.depth = h.depth ∧ Suite h e suite' ∧
      ∀ front op back m, inside = front ++ op :: back → perform front b = .ok m → op.turns → h.depth < m.depth := by
  induction ops generalizing b suite with
  | nil =>
    obtain rfl := Except.ok.inj hrun
    obtain ⟨above, block, outer, hblocks, -⟩ := hs.filled
    rw [hc] at hblocks
    simp at hblocks
  | cons op ops ih =>
    obtain ⟨d, happly, hrest⟩ := perform_cons.mp hrun
    by_cases hturn : op.turns ∧ b.depth = h.depth
    · exact ⟨[], op, ops, b, suite, rfl, rfl, hturn.1, hturn.2, hs, by simp⟩
    · have hdeeper : op.turns → h.depth < b.depth := by
        intro hop
        have hle := hs.depth_le
        have hne : b.depth ≠ h.depth := fun heq => hturn ⟨hop, heq⟩
        omega
      obtain ⟨suite', hs'⟩ := hs.apply (hops op (by simp)) hdeeper happly
      obtain ⟨inside, turn, after, e, suite'', rfl, hinside, hturns, hdepth, hs'', hfirst⟩ :=
        ih hs' (fun o ho => hops o (by simp [ho])) hrest
      refine ⟨op :: inside, turn, after, e, suite'', rfl, perform_cons.mpr ⟨d, happly, hinside⟩, hturns, hdepth, hs'', ?_⟩
      intro front o back m hsplit hfront ho
      cases front with
      | nil =>
        obtain ⟨rfl, -⟩ := List.cons.inj hsplit
        obtain rfl := Except.ok.inj hfront
        exact hdeeper ho
      | cons first front =>
        rw [List.cons_append, List.cons.injEq] at hsplit
        obtain ⟨rfl, hsplit⟩ := hsplit
        obtain ⟨d', happly', hfront⟩ := perform_cons.mp hfront
        rw [happly] at happly'
        obtain rfl := Except.ok.inj happly'
        exact hfirst front o back m hsplit hfront ho

/-! ## The operations of nodes that are read -/

theorem written_flush (p : Pending) : ∀ op ∈ p.operations, op.Written := by
  unfold Pending.operations
  split
  · simp
  · intro op hop
    rw [List.mem_singleton.mp hop]
    rfl

theorem written_adds {codes : List Text} (h : ∀ code ∈ codes, blank code = false) (line : Int) :
    ∀ op ∈ codes.map (Operation.add · line), op.Written := by
  intro op hop
  obtain ⟨code, hcode, rfl⟩ := List.mem_map.mp hop
  exact h code hcode

mutual

theorem written_operations (node : Node) (p : Pending) (h : Markup.Written [node]) :
    ∀ op ∈ (operations p node).2, op.Written := by
  intro op hop
  have hwaiting := written_flush p
  cases node with
  | text line s => exact absurd hop List.not_mem_nil
  | verbatim line s => exact absurd hop List.not_mem_nil
  | echo line expr escape =>
    rcases List.mem_append.mp hop with hop | hop
    · exact hwaiting op hop
    · rw [List.mem_singleton.mp hop]
      cases escape <;> rfl
  | statement line code =>
    rcases List.mem_append.mp hop with hop | hop
    · exact hwaiting op hop
    · rw [List.mem_singleton.mp hop]
      exact Markup.codes_of_written rfl h code (by simp [Node.codes])
  | comment line s =>
    rcases List.mem_append.mp hop with hop | hop
    · exact hwaiting op hop
    · rw [List.mem_singleton.mp hop]
      rfl
  | openBlock line kind header directive prologue =>
    have hcodes := Markup.codes_of_written rfl h
    rcases List.mem_append.mp hop with hop | hop
    · exact hwaiting op hop
    · rcases List.mem_cons.mp hop with rfl | hop
      · exact hcodes header (by simp [Node.codes])
      · exact written_adds (fun code hcode => hcodes code (by simp [Node.codes, hcode])) line op hop
  | middle line kinds header directive =>
    rcases List.mem_append.mp hop with hop | hop
    · exact hwaiting op hop
    · rw [List.mem_singleton.mp hop]
      exact Markup.codes_of_written rfl h header (by simp [Node.codes])
  | closeBlock line kind directive epilogue =>
    rcases List.mem_append.mp hop with hop | hop
    · exact hwaiting op hop
    · rcases List.mem_cons.mp hop with rfl | hop
      · trivial
      · exact written_adds (Markup.codes_of_written rfl h) line op hop
  | captured line name label body =>
    have hbody : Markup.Written body := fun i hi => h i (by simp [hi])
    rcases List.mem_append.mp hop with hop | hop
    · exact hwaiting op hop
    rcases List.mem_cons.mp hop with rfl | hop
    · rfl
    rcases List.mem_append.mp hop with hop | hop
    · exact written_allOperations body {} hbody op hop
    rcases List.mem_append.mp hop with hop | hop
    · exact written_flush _ op hop
    · rw [List.mem_singleton.mp hop]
      rfl
  | empty line => exact absurd hop List.not_mem_nil

/-- Nodes whose program texts are not blank add no blank program text. -/
theorem written_allOperations (nodes : List Node) (p : Pending) (h : Markup.Written nodes) :
    ∀ op ∈ (allOperations p nodes).2, op.Written := by
  intro op hop
  cases nodes with
  | nil => exact absurd hop List.not_mem_nil
  | cons node rest =>
    rw [← List.singleton_append, Markup.written_append] at h
    rcases List.mem_append.mp hop with hop | hop
    · exact written_operations node p h.1 op hop
    · exact written_allOperations rest _ h.2 op hop

end

theorem written_programOperations (h : Markup.Written nodes) : ∀ op ∈ programOperations nodes, op.Written := by
  intro op hop
  rcases List.mem_append.mp hop with hop | hop
  · exact written_allOperations nodes {} h op hop
  · exact written_flush _ op hop

/-! ## Programs -/

/-- **No block is empty.**  A program that is made from a template, whatever the handlers of its registry return, performs
operations.  Behind each header, which stands inside `d` blocks, operations follow up to the first one that goes on with
the block or closes it.  What the program has in between, up to the next header, holds a line that is neither blank nor a
remark, and every line of it is blank or indented by four spaces for the block and each of the `d` around it. -/
theorem suites_filled {registry : Registry} {template source : Text} {nodes : List Node} {program : Builder}
    (hread : (Markup.read registry template source).nodes = .ok nodes)
    (hprogram : generate (some template) nodes = .ok program) :
    perform (programOperations nodes) { template := some template } = .ok program ∧
    ∀ before op behind, programOperations nodes = before ++ op :: behind → op.heads →
      ∃ h d inside turn after e f suite, perform (before ++ [op]) { template := some template } = .ok h ∧
        h.depth = d + 1 ∧ behind = inside ++ turn :: after ∧ Turns h inside turn e ∧ turn.apply e = .ok f ∧
        f.lines = h.lines ++ suite ++ turn.headerLines d ∧ f.lines <+: program.lines ∧
        (∃ line ∈ suite, blank line.text = false ∧ isRemark line.text = false) ∧
        ∀ line ∈ suite, blank line.text ∨ List.replicate (4 * (d + 1)) ' ' <+: line.text := by
  obtain ⟨hperform, hclosed⟩ := generate_performs hprogram
  refine ⟨hperform, fun before op behind hsplit hop => ?_⟩
  have hwritten := written_programOperations (Markup.read_written hread)
  rw [hsplit] at hperform hwritten
  obtain ⟨g, hbefore, hrest⟩ := perform_append.mp hperform
  obtain ⟨h, happly, hbehind⟩ := perform_cons.mp hrest
  have hstart : perform (before ++ [op]) { template := some template } = .ok h :=
    perform_append.mpr ⟨g, hbefore, perform_singleton.mpr happly⟩
  obtain ⟨inside, turn, after, e, reached, rfl, hinside, hturns, hdepth, hsuite, hfirst⟩ :=
    (suite_behind hop happly).turns (fun o ho => hwritten o (by simp [ho])) hbehind hclosed
  obtain ⟨e', he', hturned⟩ := perform_append.mp hbehind
  rw [hinside] at he'
  obtain rfl := Except.ok.inj he'
  obtain ⟨f, hf, hafter⟩ := perform_cons.mp hturned
  obtain ⟨suite, hlines, ⟨line, hline, hworks⟩, hindented⟩ := hsuite.turn hdepth hturns hf
  have hpositive : h.depth = h.depth - 1 + 1 := by
    obtain ⟨above, block, outer, -, hlength, -⟩ := hsuite.filled
    omega
  refine ⟨h, h.depth - 1, inside, turn, after, e, f, suite, hstart, hpositive, rfl,
    ⟨hinside, hturns, hdepth, hfirst⟩, hf, hlines, perform_lines hafter, ⟨line, hline, ?_⟩, ?_⟩
  · unfold Line.works at hworks
    simpa using hworks
  · rw [← hpositive, ← h.indent_eq]
    exact hindented

/-- What the template `@if(x)@else@endif` is read as: nothing stands in either part of the condition. -/
def bareCondition : List Node :=
  [.openBlock 1 "if" "if x:" "if" [], .middle 1 Markup.conditionKinds "else:" "else", .closeBlock 1 "if" "endif" []]

/-- Both parts of the condition get a line that does nothing. -/
theorem suites_filled_bareCondition : ∃ (h f : Builder) (d : Nat) (turn : Operation) (suite : List Line),
    perform [.openBlock "if" "if x:" "if" 1] { template := some "page" } = .ok h ∧ h.depth = d + 1 ∧
    f.lines = h.lines ++ suite ++ turn.headerLines d ∧
    f.lines <+: [⟨"if x:", 1⟩, ⟨"    pass", 1⟩, ⟨"else:", 1⟩, ⟨"    pass", 1⟩] ∧
    ∃ line ∈ suite, blank line.text = false ∧ isRemark line.text = false := by
  have hread : (Markup.read .standard "page" "@if(x)@else@endif").nodes = .ok bareCondition := by cbv
  have hprogram : generate (some "page") bareCondition =
      .ok ⟨some "page", [⟨"if x:", 1⟩, ⟨"    pass", 1⟩, ⟨"else:", 1⟩, ⟨"    pass", 1⟩], []⟩ := by rfl
  obtain ⟨h, d, inside, turn, after, e, f, suite, hstart, hdepth, -, -, -, hlines, hkept, hworks, -⟩ :=
    (suites_filled hread hprogram).2 [] _ _ rfl rfl
  exact ⟨h, f, d, turn, suite, hstart, hdepth, hlines, hkept, hworks⟩

end Stencil.Program
