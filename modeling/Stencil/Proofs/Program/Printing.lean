import Stencil.Proofs.Program.Operation
import Stencil.Proofs.Text.Quoted

/-!
# Printing literal text

Literal nodes that stand side by side become one line of the program, which prints their text in its quoted form.

* `Node.literal?` — the text that a node prints as it stands; `literalText` — that of several nodes.
* `Siblings` — nodes that are emitted side by side: those of the page, or those of a section.
* `IsRun` — the literal nodes between other ones.
* `literal_text_survives` — a quoted text ends no line and stands for the text, and a run of literal nodes becomes one
  line that prints its text, behind what the nodes before it become and before what the nodes behind it become.
-/

namespace Stencil

/-- The text that a node prints as it stands. -/
def Node.literal? : Node → Option Text
  | .text _ s | .verbatim _ s => some s
  | _ => none

namespace Program

/-- The text that nodes print as they stand. -/
def literalText (nodes : List Node) : Text := nodes.flatMap fun node => node.literal?.getD []

/-- The program text that prints a text. -/
def printing (s : Text) : Text := "_echo(" ++ Text.quoted s ++ ")"

/-- Nodes that are emitted side by side for a program: the builder before them and the one behind them. -/
inductive Siblings (template : Option Text) (nodes : List Node) : Builder → List Node → Builder → Prop
  | page {b : Builder} : generate template nodes = .ok b → Siblings template nodes { template } nodes b
  | inside {before behind : Builder} {body : List Node} :
    IsSection {} { template } nodes before body behind → Siblings template nodes before body behind

/-- A run of literal nodes that no further literal node stands beside. -/
structure IsRun (before run behind : List Node) : Prop where
  literal : ∀ node ∈ run, node.literal?.isSome
  starts : ∀ node ∈ before.getLast?, node.literal? = none
  ends : ∀ node ∈ behind.head?, node.literal? = none

variable {b c start finish : Builder} {p q : Pending} {template : Option Text} {node : Node}
  {nodes before run behind : List Node}

/-! ## The line that prints a text -/

/-- The line that prints a text is one line of program text. -/
theorem codeLines_printing (s : Text) : codeLines (printing s) = [printing s] := by
  have hplain : ∀ c ∈ printing s, Text.isLineEnd c = false := by
    intro c hc
    rcases List.mem_append.mp hc with hc | hc
    · rcases List.mem_append.mp hc with hc | hc
      · have hnone : List.any ("_echo(" : Text) Text.isLineEnd = false := by decide
        exact Bool.eq_false_iff.mpr (List.any_eq_false.mp hnone c hc)
      · exact Text.isLineEnd_of_isPrintable (Text.isPrintable_of_mem_quoted hc)
    · have hnone : List.any (")" : Text) Text.isLineEnd = false := by decide
      exact Bool.eq_false_iff.mpr (List.any_eq_false.mp hnone c hc)
  exact codeLines_unbroken (by decide) hplain

/-- Printing a text adds one line on the level of the open blocks. -/
theorem lines_add_printing (s : Text) (line : Int) (b : Builder) :
    (b.add (printing s) line).lines = b.lines ++ [⟨b.indent ++ printing s, line⟩] := by
  have hfirst : Text.first? (printing s) = some '_' := rfl
  have hblank : ¬ Text.blank (printing s) := by
    rw [Text.blank_iff, hfirst]
    simp
  have hindented : indented b.indent (printing s) = b.indent ++ printing s := if_neg hblank
  unfold Builder.add
  simp only
  rw [codeLines_printing, List.map_singleton, hindented]

theorem flush_of_ne_nil (h : p.text ≠ []) (b : Builder) : flush p b = b.add (printing p.text) p.line := by
  unfold flush
  rw [if_neg (by simpa using h)]
  rfl

/-! ## Nodes before, in and behind a run -/

theorem emitNodes_append {more : List Node} : emitNodes p b (nodes ++ more) = .ok (q, c) ↔
    ∃ r d, emitNodes p b nodes = .ok (r, d) ∧ emitNodes r d more = .ok (q, c) := by
  induction nodes generalizing p b with
  | nil => simp [emitNodes]
  | cons node nodes ih =>
    rw [List.cons_append, emitNodes_cons]
    constructor
    · rintro ⟨p', b', hnode, hrest⟩
      obtain ⟨r, d, hnodes, hmore⟩ := ih.mp hrest
      exact ⟨r, d, emitNodes_cons.mpr ⟨p', b', hnode, hnodes⟩, hmore⟩
    · rintro ⟨r, d, hnodes, hmore⟩
      obtain ⟨p', b', hnode, hrest⟩ := emitNodes_cons.mp hnodes
      exact ⟨p', b', hnode, ih.mpr ⟨r, d, hrest, hmore⟩⟩

/-- A node that is not literal prints what waits before it does anything else. -/
theorem emitNode_flush (h : node.literal? = none) (p : Pending) (b : Builder) :
    emitNode p b node = emitNode {} (flush p b) node := by
  cases node with
  | text line s => cases h
  | verbatim line s => cases h
  | _ => rfl

/-- Behind a node that is not literal nothing waits. -/
theorem pending_of_emitNode (h : node.literal? = none) (hnode : emitNode p b node = .ok (q, c)) : q = {} := by
  obtain ⟨rfl, -⟩ := emitNode_performs node p b hnode
  cases node with
  | text line s => cases h
  | verbatim line s => cases h
  | _ => rfl

/-- Behind nodes that end with one that is not literal nothing waits. -/
theorem pending_of_emitNodes (h : ∀ node ∈ nodes.getLast?, node.literal? = none)
    (hnodes : emitNodes {} b nodes = .ok (q, c)) : q = {} := by
  rcases nodes.eq_nil_or_concat with rfl | ⟨init, node, rfl⟩
  · exact (Prod.mk.inj (Except.ok.inj hnodes)).1.symm
  · rw [List.concat_eq_append] at hnodes h
    obtain ⟨r, d, -, hlast⟩ := emitNodes_append.mp hnodes
    obtain ⟨p', b', hnode, hnil⟩ := emitNodes_cons.mp hlast
    obtain ⟨rfl, -⟩ := Prod.mk.inj (Except.ok.inj hnil)
    exact pending_of_emitNode (h node (by simp)) hnode

/-- Literal nodes wait: their texts are joined behind what waits already, and the builder stays as it is. -/
theorem emitNodes_literal {first : Node} (h : ∀ node ∈ first :: run, node.literal?.isSome) (b : Builder) :
    emitNodes {} b (first :: run) = .ok (⟨literalText (first :: run), first.line, true⟩, b) := by
  have hpush : ∀ (node : Node) (p : Pending), node.literal?.isSome →
      emitNode p b node = .ok (p.push node.line (node.literal?.getD []), b) := by
    intro node p hnode
    cases node with
    | text line s => rfl
    | verbatim line s => rfl
    | _ => cases hnode
  have hrest : ∀ (s : Text) (nodes : List Node), (∀ node ∈ nodes, node.literal?.isSome) →
      emitNodes ⟨s, first.line, true⟩ b nodes = .ok (⟨s ++ literalText nodes, first.line, true⟩, b) := by
    intro s nodes hnodes
    induction nodes generalizing s with
    | nil => simp [emitNodes, literalText]
    | cons node nodes ih =>
      refine emitNodes_cons.mpr ⟨⟨s ++ node.literal?.getD [], first.line, true⟩, b, hpush node _ (hnodes node (by simp)), ?_⟩
      rw [ih _ fun n hn => hnodes n (by simp [hn])]
      simp [literalText]
  exact emitNodes_cons.mpr ⟨_, b, hpush first {} (h first (by simp)), hrest _ run fun n hn => h n (by simp [hn])⟩

/-- What stands behind a run is emitted behind the line that the run becomes. -/
theorem emit_behind (h : ∀ node ∈ behind.head?, node.literal? = none) (hbehind : emitNodes p b behind = .ok (q, c)) :
    emit behind (flush p b) = .ok (flush q c) := by
  cases behind with
  | nil =>
    obtain ⟨rfl, rfl⟩ := Prod.mk.inj (Except.ok.inj hbehind)
    rfl
  | cons node rest =>
    obtain ⟨p', b', hnode, hrest⟩ := emitNodes_cons.mp hbehind
    rw [emitNode_flush (h node rfl)] at hnode
    exact bind_eq_ok.mpr ⟨(q, c), emitNodes_cons.mpr ⟨p', b', hnode, hrest⟩, rfl⟩

/-! ## Siblings -/

/-- A section that is emitted keeps the lines of its body. -/
theorem lines_section {line : Int} {name label : Text} {body : List Node}
    (h : emitNode p b (.captured line name label body) = .ok (q, c)) :
    ∃ r inner, emitNodes {} (sectionStart p b line name) body = .ok (r, inner) ∧ (flush r inner).lines <+: c.lines := by
  obtain ⟨⟨r, inner⟩, hbody, hend⟩ := bind_eq_ok.mp h
  obtain ⟨_, -, hreturn⟩ := bind_eq_ok.mp hend
  obtain ⟨-, rfl⟩ := Prod.mk.inj (Except.ok.inj hreturn)
  exact ⟨r, inner, hbody, Builder.lines_add ..⟩

/-- What is put into a builder before a node comes is not taken out again. -/
theorem Comes.lines {q' : Pending} {c' : Builder} (h : Comes p b nodes q c node)
    (hok : emitNodes p b nodes = .ok (q', c')) : ∃ r d, emitNode q c node = .ok (r, d) ∧ d.lines <+: c'.lines := by
  induction h generalizing q' c' with
  | here =>
    obtain ⟨r, d, hnode, hrest⟩ := emitNodes_cons.mp hok
    exact ⟨r, d, hnode, perform_lines (emitNodes_performs _ _ _ hrest).2⟩
  | behind hnode _ ih =>
    obtain ⟨r, d, hnode', hrest⟩ := emitNodes_cons.mp hok
    rw [hnode] at hnode'
    obtain ⟨rfl, rfl⟩ := Prod.mk.inj (Except.ok.inj hnode')
    exact ih hrest
  | inside _ ih =>
    obtain ⟨r, d, hnode, hrest⟩ := emitNodes_cons.mp hok
    obtain ⟨r', inner, hbody, hsection⟩ := lines_section hnode
    obtain ⟨r'', d'', hemitted, hbegins⟩ := ih hbody
    have hflush : inner.lines <+: (flush r' inner).lines := perform_lines (perform_flush r' inner)
    have hbehind := perform_lines (emitNodes_performs _ _ _ hrest).2
    exact ⟨r'', d'', hemitted, ((hbegins.trans hflush).trans hsection).trans hbehind⟩

/-- Siblings are emitted between their builders, and what they become stays in the program. -/
theorem Siblings.emitted (h : Siblings template nodes start before finish) (hok : generate template nodes = .ok b) :
    emit before start = .ok finish ∧ finish.lines <+: b.lines := by
  obtain ⟨q, c, hnodes, -, hb⟩ := generate_eq_ok.mp hok
  cases h with
  | page hpage =>
    rw [hok] at hpage
    obtain rfl := Except.ok.inj hpage
    exact ⟨bind_eq_ok.mpr ⟨(q, c), hnodes, congrArg Except.ok hb.symm⟩, List.prefix_rfl⟩
  | inside hsection =>
    cases hsection with
    | intro hcomes hbody =>
      refine ⟨bind_eq_ok.mpr ⟨_, hbody, rfl⟩, ?_⟩
      obtain ⟨r, d, hnode, hbegins⟩ := hcomes.lines hnodes
      obtain ⟨r', inner, hbody', hsection⟩ := lines_section hnode
      rw [hbody] at hbody'
      obtain ⟨rfl, rfl⟩ := Prod.mk.inj (Except.ok.inj hbody')
      have hflush : c.lines <+: (flush q c).lines := perform_lines (perform_flush q c)
      rw [hb]
      exact (hsection.trans hbegins).trans hflush

/-- **Literal text survives.**  The quoted form of a text holds no character that ends a line, and as a literal argument
it stands for the text.  In a program, a run of literal nodes with a text becomes one line: the indentation of the open
blocks and the call that prints the quoted text, mapped to the line of the first node.  It stands behind what the nodes
before the run become; what the nodes behind the run become stands behind it. -/
theorem literal_text_survives :
    (∀ s : Text, (∀ c ∈ Text.quoted s, Text.isLineEnd c = false) ∧ Argument.literal? (Text.quoted s) = some s) ∧
    ∀ template nodes program, generate template nodes = .ok program →
      ∀ start siblings finish, Siblings template nodes start siblings finish →
        ∀ before first more behind, siblings = before ++ (first :: more) ++ behind → IsRun before (first :: more) behind →
          literalText (first :: more) ≠ [] →
          ∃ c d, emit before start = .ok c ∧ emit behind d = .ok finish ∧
            d.lines = c.lines ++ [⟨c.indent ++ ("_echo(" ++ Text.quoted (literalText (first :: more)) ++ ")"), first.line⟩] ∧
            d.opened = c.opened ∧ d.lines <+: program.lines := by
  refine ⟨fun s => ⟨fun c hc => ?_, Text.literal?_quoted s⟩, ?_⟩
  · exact Text.isLineEnd_of_isPrintable (Text.isPrintable_of_mem_quoted hc)
  · intro template nodes program hprogram start siblings finish hsiblings before first more behind hsplit hrun htext
    obtain ⟨hemit, hkept⟩ := hsiblings.emitted hprogram
    obtain ⟨⟨q, inner⟩, hall, hfinish⟩ := bind_eq_ok.mp hemit
    obtain rfl := Except.ok.inj hfinish
    rw [hsplit] at hall
    obtain ⟨r, c', hfront, hbehind⟩ := emitNodes_append.mp hall
    obtain ⟨p, c, hbefore, hrun'⟩ := emitNodes_append.mp hfront
    -- nothing waits before the run, its text waits behind it
    obtain rfl := pending_of_emitNodes hrun.starts hbefore
    rw [emitNodes_literal hrun.literal] at hrun'
    obtain ⟨rfl, rfl⟩ := Prod.mk.inj (Except.ok.inj hrun')
    have hemitted := emit_behind hrun.ends hbehind
    rw [flush_of_ne_nil htext] at hemitted
    refine ⟨c, _, bind_eq_ok.mpr ⟨_, hbefore, rfl⟩, hemitted, lines_add_printing _ _ c, Builder.opened_add .., ?_⟩
    have hgrown : (c.add (printing (literalText (first :: more))) first.line).lines <+: (flush q inner).lines := by
      obtain ⟨⟨q', inner'⟩, hnodes, hflush⟩ := bind_eq_ok.mp hemitted
      rw [← Except.ok.inj hflush]
      exact (perform_lines (emitNodes_performs _ _ _ hnodes).2).trans (perform_lines (perform_flush q' inner'))
    exact hgrown.trans hkept

/-- A section with verbatim text, text and a printed value. -/
def quotation : List Node := [.verbatim 1 "it's", .text 1 "\n", .echo 2 "x" true]

/-- In a section the text of the first two nodes is printed by one line in double quotes. -/
theorem literal_text_survives_quotation : ∃ start finish c d,
    Siblings none [.captured 1 "'a'" "a" quotation] start quotation finish ∧ emit [] start = .ok c ∧
    emit [.echo 2 "x" true] d = .ok finish ∧ d.lines = c.lines ++ [⟨"_echo(\"it's\\n\")", 1⟩] := by
  have hsiblings : Siblings none [.captured 1 "'a'" "a" quotation] (sectionStart {} {} 1 "'a'") quotation _ :=
    .inside (.intro .here rfl)
  have hrun : IsRun [] [.verbatim 1 "it's", .text 1 "\n"] [.echo 2 "x" true] := ⟨by decide, by simp, by simp [Node.literal?]⟩
  obtain ⟨c, d, hbefore, hbehind, hlines, -⟩ :=
    literal_text_survives.2 none _ _ rfl _ _ _ hsiblings [] _ _ _ rfl hrun (by decide)
  refine ⟨_, _, c, d, hsiblings, hbefore, hbehind, ?_⟩
  obtain rfl := Except.ok.inj hbefore
  exact hlines

end Program
end Stencil
