import Stencil.Proofs.Markup.Pass
import Stencil.Proofs.Program.Code

/-!
# What is read is written

No pass puts blank program text into a node, whatever the handlers of a registry return.

* `Node.codes` — the program texts of a node; `Item.Written` — none of them is blank.
* `Rule.Writes` — a rule makes written nodes of markup; `family_writes`, `program_writes`, … — every rule does.
* `rewrite_written`, `structure_written` — the two ways in which a pass goes over nodes keep them written.
* `read_written` — the nodes that a template is read as are written.
-/

namespace Stencil

/-- The program texts of a node that stand in the program as they are; a place without meaning counts as a blank one. -/
def Node.codes : Node → List Text
  | .statement _ code => [code]
  | .openBlock _ _ header _ prologue => header :: prologue
  | .middle _ _ header _ => [header]
  | .closeBlock _ _ _ epilogue => epilogue
  | .empty _ => [[]]
  | _ => []

theorem Text.blank_append (s t : Text) : Text.blank (s ++ t) = (Text.blank s && Text.blank t) := List.all_append

theorem Text.blank_of_left {s : Text} (h : Text.blank s = false) (t : Text) : Text.blank (s ++ t) = false := by
  rw [Text.blank_append, h, Bool.false_and]

namespace Markup

/-- No program text is blank. -/
def Item.Written : Item → Prop
  | .node n => ∀ code ∈ n.codes, Text.blank code = false
  | _ => True

/-- No program text of nodes is blank, at any depth inside sections. -/
def Written (nodes : List Node) : Prop := ∀ i ∈ items nodes, i.Written

variable {registry : Registry} {template : Text} {line : Int} {node : Node} {nodes more out : List Node}

theorem written_nil : Written [] := by simp [Written]

theorem written_append : Written (nodes ++ more) ↔ Written nodes ∧ Written more := by
  simp [Written, or_imp, forall_and]

theorem written_cons : Written (node :: nodes) ↔ (∀ i ∈ itemsOf node, i.Written) ∧ Written nodes := by
  simp [Written, or_imp, forall_and]

/-- A node that is no section is written if its program texts are. -/
theorem written_singleton (h : itemsOf node = [.node node]) (hcodes : ∀ code ∈ node.codes, Text.blank code = false) :
    Written [node] := by
  intro i hi
  rw [items_cons, h, items_nil, List.append_nil, List.mem_singleton] at hi
  rw [hi]
  exact hcodes

theorem codes_of_written (h : itemsOf node = [.node node]) (hnode : Written [node]) :
    ∀ code ∈ node.codes, Text.blank code = false := by
  have hitem : Item.node node ∈ items [node] := by
    rw [items_cons, h]
    exact List.mem_cons_self
  exact hnode _ hitem

theorem written_text (line : Int) (s : Text) : Written [.text line s] := written_singleton rfl (by simp [Node.codes])

theorem written_verbatim (line : Int) (s : Text) : Written [.verbatim line s] :=
  written_singleton rfl (by simp [Node.codes])

theorem written_echo (line : Int) (expr : Text) (escape : Bool) : Written [.echo line expr escape] :=
  written_singleton rfl (by simp [Node.codes])

theorem written_statement {code : Text} (line : Int) (h : Text.blank code = false) : Written [.statement line code] :=
  written_singleton rfl (by simpa [Node.codes] using h)

/-! ## Rules -/

/-- What a rule makes of markup is written. -/
def Rule.Writes (rule : Rule (List Node)) : Prop :=
  ∀ p n found, rule p = some (.accepted n (.ok found)) → Written found

theorem comment_writes : comment.Writes := by
  intro p n found h
  unfold comment at h
  split at h
  · cases h
  · obtain ⟨_, -, haccepted⟩ := Option.map_eq_some_iff.mp h
    obtain rfl := Except.ok.inj (Verdict.accepted.inj haccepted).2
    exact written_nil

theorem verbatim_writes : verbatim.Writes := by
  intro p n found h
  obtain ⟨_, -, haccepted⟩ := Option.map_eq_some_iff.mp h
  obtain rfl := Except.ok.inj (Verdict.accepted.inj haccepted).2
  exact written_verbatim _ _

theorem program_writes : program.Writes := by
  intro p n found h
  obtain ⟨⟨body, rest⟩, -, haccepted⟩ := Option.map_eq_some_iff.mp h
  obtain rfl := Except.ok.inj (Verdict.accepted.inj haccepted).2
  by_cases hblank : Text.blank (programText body)
  · simp only [hblank, if_true]
    exact written_nil
  · simp only [hblank, Bool.false_eq_true, if_false]
    exact written_statement p.line (by simpa using hblank)

theorem echo_writes : (echo registry template).Writes := by
  intro p n found h
  unfold echo at h
  split at h
  · obtain ⟨_, -, haccepted⟩ := Option.map_eq_some_iff.mp h
    obtain rfl := Except.ok.inj (Verdict.accepted.inj haccepted).2
    exact written_verbatim _ _
  · obtain ⟨⟨inside, rest⟩, -, haccepted⟩ := Option.map_eq_some_iff.mp h
    obtain ⟨⟨expr, safe⟩, -, hnode⟩ := bind_eq_ok.mp (accept_eq_ok haccepted)
    obtain rfl := Except.ok.inj hnode
    exact written_echo _ _ _

theorem rawEcho_writes : (rawEcho template).Writes := by
  intro p n found h
  obtain ⟨⟨inside, rest⟩, -, haccepted⟩ := Option.map_eq_some_iff.mp h
  have hnode := accept_eq_ok haccepted
  unfold rawEchoNode at hnode
  simp only at hnode
  split at hnode
  · cases hnode
  · obtain rfl := Except.ok.inj hnode
    exact written_echo _ _ _

theorem escaped_writes (names : List Text) : (escaped names).Writes := by
  intro p n found h
  unfold escaped at h
  split at h
  · obtain ⟨_, -, haccepted⟩ := Option.map_eq_some_iff.mp h
    obtain rfl := Except.ok.inj (Verdict.accepted.inj haccepted).2
    exact written_verbatim _ _
  · cases h

/-- What a rule finds is found in one of its branches, and only the nodes of it are kept. -/
theorem inclusion_writes : ((inclusion template).map Prod.snd).Writes := by
  intro p n found h
  unfold Rule.map at h
  cases hrule : inclusion template p with
  | none =>
    rw [hrule] at h
    cases h
  | some v =>
    rw [hrule] at h
    cases v with
    | declined m => cases h
    | accepted m result =>
      cases result with
      | error e => cases h
      | ok pair =>
        obtain rfl := Except.ok.inj (Verdict.accepted.inj (Option.some.inj h)).2
        unfold inclusion at hrule
        split at hrule
        · cases hrule
        · split at hrule
          · cases accept_eq_ok (Option.some.inj hrule)
          · cases hrule
          · have hincluded := accept_eq_ok (Option.some.inj hrule)
            split at hincluded
            · cases hincluded
            · obtain ⟨-, -, data, hnodes⟩ := inclusionOf_eq_ok hincluded
              exact hnodes ▸ written_echo _ _ _

/-! ## Directives -/

/-- What a directive becomes is written. -/
def Lowering.Written : Lowering → Prop
  | .bare nodes => ∀ line, Markup.Written (nodes line)
  | .optional nodes => ∀ line args found, nodes line args = .ok found → Markup.Written found
  | .required nodes => ∀ line args found, nodes line args = .ok found → Markup.Written found

theorem family_writes {ds : List Directive} (hds : ∀ d ∈ ds, d.lowering.Written) : (family template ds).Writes := by
  intro p n found h
  unfold family at h
  split at h
  · split at h
    · cases h
    · obtain ⟨d, hfind, hread⟩ := Option.map_eq_some_iff.mp h
      have hd := hds d (List.mem_of_find?_eq_some hfind)
      unfold Directive.read at hread
      cases hlowering : d.lowering with
      | bare nodes =>
        rw [hlowering] at hd hread
        obtain rfl := Except.ok.inj (accept_eq_ok hread)
        exact hd p.line
      | optional nodes =>
        rw [hlowering] at hd hread
        simp only at hread
        split at hread
        · cases accept_eq_ok hread
        · exact hd _ _ _ (accept_eq_ok hread)
      | required nodes =>
        rw [hlowering] at hd hread
        simp only at hread
        split at hread
        · cases accept_eq_ok hread
        · cases hread
        · have hnodes := accept_eq_ok hread
          split at hnodes
          · cases hnodes
          · exact hd _ _ _ hnodes
  · cases h

theorem custom_written {d : Directive} (hd : d ∈ custom registry) : d.lowering.Written := by
  obtain ⟨⟨name, handler⟩, -, rfl⟩ := List.mem_map.mp hd
  intro line args found hfound
  obtain ⟨code, -, rfl⟩ := map_eq_ok.mp hfound
  unfold handledNodes
  split
  · exact written_nil
  · next code =>
    -- blank text of a handler adds nothing
    by_cases hblank : Text.blank code
    · rw [if_pos hblank]
      exact written_nil
    · rw [if_neg hblank]
      exact written_statement line (by simpa using hblank)

theorem opener_written (name after : Text) {before : Text} (h : Text.blank before = false) :
    (opener name before after).lowering.Written := by
  intro line args found hfound
  obtain rfl := Except.ok.inj hfound
  refine written_singleton rfl fun code hcode => ?_
  rw [List.mem_singleton.mp hcode, List.append_assoc]
  exact Text.blank_of_left h _

theorem bareOpener_written (name : Text) {header : Text} (h : Text.blank header = false) :
    (bareOpener name header).lowering.Written := by
  intro line
  refine written_singleton rfl fun code hcode => ?_
  rw [List.mem_singleton.mp hcode]
  exact h

theorem closer_written (name kind : Text) : (closer name kind).lowering.Written :=
  fun line => written_singleton rfl (by simp [Node.codes])

theorem printer_written (name expr : Text) : (printer name expr).lowering.Written := fun line => written_echo line expr false

theorem callPrinter_written (name function : Text) : (callPrinter name function).lowering.Written := by
  intro line args found hfound
  obtain rfl := Except.ok.inj hfound
  exact written_echo _ _ _

theorem caller_written (name : Text) {function : Text} (h : Text.blank function = false) :
    (caller name function).lowering.Written := by
  intro line args found hfound
  obtain rfl := Except.ok.inj hfound
  refine written_statement line ?_
  rw [List.append_assoc, List.append_assoc]
  exact Text.blank_of_left h _

theorem bareStatement_written (name : Text) {code : Text} (h : Text.blank code = false) :
    (bareStatement name code).lowering.Written := fun line => written_statement line h

theorem loop_written (name before after : Text) {prologue : List Text}
    (h : ∀ code ∈ prologue, Text.blank code = false) : (loop name before after prologue).lowering.Written := by
  intro line args found hfound
  simp only at hfound
  split at hfound
  · cases hfound
  · obtain rfl := Except.ok.inj hfound
    refine written_singleton rfl fun code hcode => ?_
    rcases List.mem_cons.mp hcode with rfl | hcode
    · rfl
    · exact h code hcode

theorem jump_written {name : Text} (h : Text.blank name = false) : (jump name).lowering.Written := by
  intro line args found hfound
  simp only at hfound
  split at hfound
  · obtain rfl := Except.ok.inj hfound
    exact written_statement line h
  · obtain rfl := Except.ok.inj hfound
    exact written_statement line h
  · obtain rfl := Except.ok.inj hfound
    exact written_statement line rfl

theorem control_written : ∀ d ∈ control, d.lowering.Written := by
  intro d hd
  simp only [control, List.mem_cons, List.not_mem_nil, or_false] at hd
  rcases hd with rfl | rfl | rfl | rfl | rfl | rfl | rfl | rfl | rfl | rfl | rfl | rfl | rfl | rfl
  · exact opener_written _ _ rfl
  · intro line args found hfound
    obtain rfl := Except.ok.inj hfound
    exact written_singleton rfl fun code hcode => by rw [List.mem_singleton.mp hcode]; rfl
  · exact fun line => written_singleton rfl fun code hcode => by rw [List.mem_singleton.mp hcode]; rfl
  · exact closer_written _ _
  · exact opener_written _ _ rfl
  · exact closer_written _ _
  · exact loop_written _ _ _ fun code hcode => by rw [List.mem_singleton.mp hcode]; rfl
  · refine fun line => written_singleton rfl fun code hcode => ?_
    rcases List.mem_cons.mp hcode with rfl | hcode
    · rfl
    · rw [List.mem_singleton.mp hcode]
      rfl
  · exact loop_written _ _ _ fun code hcode => absurd hcode List.not_mem_nil
  · exact closer_written _ _
  · exact opener_written _ _ rfl
  · exact closer_written _ _
  · exact jump_written rfl
  · exact jump_written rfl

/-- Every built-in directive becomes written nodes. -/
theorem innerDirectives_written : ∀ d ∈ innerDirectives, d.lowering.Written := by
  intro d hd
  simp only [innerDirectives, csrf, json, auth, parent, permission, component, componentSlot, push, List.mem_append,
    List.mem_cons, List.not_mem_nil, or_false] at hd
  rcases hd with (((((((rfl | rfl) | hd) | (rfl | rfl | rfl | rfl)) | rfl) | (rfl | rfl | rfl | rfl)) |
    (rfl | rfl | rfl | rfl)) | (rfl | rfl | rfl)) | (rfl | rfl | rfl)
  · exact printer_written _ _
  · intro line args found hfound
    obtain rfl := Except.ok.inj hfound
    exact written_echo _ _ _
  · exact control_written d hd
  · exact bareOpener_written _ rfl
  · exact closer_written _ _
  · exact bareOpener_written _ rfl
  · exact closer_written _ _
  · exact printer_written _ _
  · exact opener_written _ _ rfl
  · exact closer_written _ _
  · exact opener_written _ _ rfl
  · exact closer_written _ _
  · exact caller_written _ rfl
  · exact printer_written _ _
  · exact caller_written _ rfl
  · exact bareStatement_written _ rfl
  · exact callPrinter_written _ _
  · exact opener_written _ _ rfl
  · exact closer_written _ _
  · exact caller_written _ rfl
  · exact bareStatement_written _ rfl
  · exact callPrinter_written _ _

/-- Every family of built-in directives writes. -/
theorem innerFamily_writes {ds : List Directive} (hds : ds ⊆ innerDirectives) : (family template ds).Writes :=
  family_writes fun d hd => innerDirectives_written d (hds hd)

theorem rulesBeforeIncludes_write {rule : Rule (List Node)} (h : rule ∈ rulesBeforeIncludes registry template) :
    rule.Writes :=
  forall_rulesBeforeIncludes (family_writes fun _ => custom_written) (fun _ => innerFamily_writes) echo_writes
    rawEcho_writes rule h

theorem rulesAfterIncludes_write {rule : Rule (List Node)} (h : rule ∈ rulesAfterIncludes registry template) :
    rule.Writes := forall_rulesAfterIncludes (fun _ => innerFamily_writes) (escaped_writes _) rule h

/-! ## Rewriting and structure -/

/-- Of what a rule reads it keeps what is said of all it finds. -/
theorem Rule.Reads.written {Q : Int → Text → List Node → Prop} {rule : Rule (List Node)} (h : rule.Reads Q)
    (hwrites : rule.Writes) : rule.Reads fun _ _ found => Written found := by
  intro p v hv
  cases h p v hv with
  | declined hrest hused => exact .declined hrest hused
  | failed hrest hused => exact .failed hrest hused
  | found hrest hused _ => exact .found hrest hused (hwrites p _ _ hv)

/-- The nodes of pieces are written if what was found in them is. -/
theorem Tiles.written {s : Text} {ps : List (Piece (List Node))} (h : Tiles (fun _ _ found => Written found) line s ps)
    (hout : nodesOf ps = .ok out) : Written out := by
  induction h generalizing out with
  | nil =>
    obtain rfl := Except.ok.inj hout
    exact written_nil
  | plain _ _ ih =>
    obtain ⟨rest, hrest, hout⟩ := bind_eq_ok.mp hout
    obtain rfl := Except.ok.inj hout
    exact written_append.mpr ⟨written_text _ _, ih hrest⟩
  | declined _ _ ih =>
    obtain ⟨rest, hrest, hout⟩ := bind_eq_ok.mp hout
    obtain rfl := Except.ok.inj hout
    exact written_append.mpr ⟨written_text _ _, ih hrest⟩
  | markup _ hfound _ ih =>
    obtain ⟨found, hok, hout⟩ := bind_eq_ok.mp hout
    obtain ⟨rest, hrest, hout⟩ := bind_eq_ok.mp hout
    obtain rfl := Except.ok.inj hout
    obtain rfl := Except.ok.inj hok
    exact written_append.mpr ⟨hfound, ih hrest⟩
  | failed =>
    obtain ⟨found, hfound, -⟩ := bind_eq_ok.mp hout
    cases hfound

mutual

theorem rewriteNode_written {rule : Rule (List Node)} (hrule : rule.Reads fun _ _ found => Written found) (node : Node)
    (hnode : Written [node]) {out : List Node} (h : rewriteNode rule node = .ok out) : Written out := by
  cases node with
  | text line s =>
    rw [rewriteNode] at h
    exact (hrule.tiles line s).absorbDeclined.written h
  | captured line name label body =>
    rw [rewriteNode] at h
    obtain ⟨body', hbody, h⟩ := bind_eq_ok.mp h
    obtain rfl := Except.ok.inj h
    have hwritten : Written body := by
      intro i hi
      exact hnode i (by simp [hi])
    have hbody' := rewrite_written hrule body hwritten hbody
    intro i hi
    simp only [items_cons, items_nil, itemsOf, List.append_nil, List.cons_append, List.mem_cons, List.mem_append,
      List.not_mem_nil, or_false] at hi
    rcases hi with rfl | hi | rfl
    · trivial
    · exact hbody' i hi
    · trivial
  | _ =>
    obtain rfl := Except.ok.inj h
    exact hnode

/-- Rewriting keeps nodes written. -/
theorem rewrite_written {rule : Rule (List Node)} (hrule : rule.Reads fun _ _ found => Written found)
    (nodes : List Node) (hnodes : Written nodes) {out : List Node} (h : rewrite rule nodes = .ok out) : Written out := by
  cases nodes with
  | nil =>
    rw [rewrite] at h
    obtain rfl := Except.ok.inj h
    exact hnodes
  | cons node nodes =>
    rw [rewrite] at h
    obtain ⟨first, hfirst, h⟩ := bind_eq_ok.mp h
    obtain ⟨rest, hrest, h⟩ := bind_eq_ok.mp h
    obtain rfl := Except.ok.inj h
    rw [← List.singleton_append, written_append] at hnodes
    exact written_append.mpr ⟨rewriteNode_written hrule node hnodes.1 hfirst, rewrite_written hrule nodes hnodes.2 hrest⟩

end

namespace Outline

/-- What an outline holds is written. -/
def Written (o : Outline) : Prop := ∀ i ∈ o.items, i.Written

theorem written_add {o : Outline} (h : o.Written) (hnode : Markup.Written [node]) : (o.add node).Written := by
  intro i hi
  rw [items_add] at hi
  rcases List.mem_append.mp hi with hi | hi
  · exact h i hi
  · exact hnode i (by simpa using hi)

theorem written_addDone {o : Outline} (hcurrent : o.current = none) (h : o.Written) (hnodes : Markup.Written nodes) :
    (o.addDone nodes).Written := by
  intro i hi
  rw [items_addDone hcurrent] at hi
  rcases List.mem_append.mp hi with hi | hi
  · exact h i hi
  · exact hnodes i hi

/-- A structural directive adds what is written. -/
theorem written_take {excerpt : Text} {m : Mark} {o o' : Outline} (ho : o.Written)
    (h : o.take template line excerpt m = .ok o') : o'.Written := by
  cases m with
  | «extends» layout =>
    obtain rfl := Except.ok.inj h
    exact written_add ho (written_statement line rfl)
  | yield name default =>
    obtain rfl := Except.ok.inj h
    exact written_add ho (written_echo _ _ _)
  | opening name label =>
    cases hcurrent : o.current with
    | some outer => simp [take, hcurrent] at h
    | none =>
      simp only [take, hcurrent, Except.ok.injEq] at h
      subst h
      intro i hi
      have hitems : i ∈ o.items ∨ i = .start line name label := by
        simpa [items, hcurrent] using hi
      rcases hitems with hi | rfl
      · exact ho i hi
      · trivial
  | inline name label value =>
    cases hcurrent : o.current with
    | some outer => simp [take, hcurrent] at h
    | none =>
      simp only [take, hcurrent, Except.ok.injEq] at h
      subst h
      exact written_addDone hcurrent ho (written_statement line rfl)
  | closing directive =>
    cases hcurrent : o.current with
    | none =>
      simp only [take, hcurrent, Except.ok.injEq] at h
      subst h
      exact written_addDone hcurrent ho (written_singleton rfl (by simp [Node.codes]))
    | some s =>
      simp only [take, hcurrent, Except.ok.injEq] at h
      subst h
      intro i hi
      rw [items_close hcurrent] at hi
      rcases List.mem_append.mp hi with hi | hi
      · exact ho i hi
      · rcases List.mem_cons.mp hi with rfl | hi
        · trivial
        · split at hi
          · exact written_echo _ _ _ i hi
          · exact absurd hi List.not_mem_nil

/-- Taking in an event whose node, if it is one, is written. -/
theorem written_step {e : Event} {o o' : Outline} (ho : o.Written) (he : ∀ n, e = .node n → Markup.Written [n])
    (h : o.step template e = .ok o') : o'.Written := by
  cases e with
  | node n =>
    obtain rfl := Except.ok.inj h
    exact written_add ho (he n rfl)
  | mark line m excerpt => exact written_take ho h
  | failure e => cases h

end Outline

/-- The nodes among the events of a node are texts or the node itself. -/
theorem written_of_mem_eventsOf {n : Node} (hnode : Written [node]) (h : .node n ∈ eventsOf template node) :
    Written [n] := by
  cases node with
  | text line s =>
    obtain ⟨piece, -, hpiece⟩ := List.mem_map.mp h
    unfold eventOf at hpiece
    split at hpiece
    · obtain rfl := Event.node.inj hpiece
      exact written_text _ _
    · obtain rfl := Event.node.inj hpiece
      exact written_text _ _
    · cases hpiece
    · cases hpiece
  | _ =>
    obtain rfl := Event.node.inj (List.mem_singleton.mp h)
    exact hnode

/-- Grouping nodes into sections keeps them written. -/
theorem structure_written (hnodes : Written nodes) (h : structure? template nodes = .ok out) : Written out := by
  have hfold : ∀ (events : List Event) (o o' : Outline), (∀ n, Event.node n ∈ events → Written [n]) → o.Written →
      events.foldlM (Outline.step template) o = .ok o' → o'.Written := by
    intro events
    induction events with
    | nil =>
      intro o o' _ ho hfold
      obtain rfl := Except.ok.inj hfold
      exact ho
    | cons e events ih =>
      intro o o' hevents ho hfold
      obtain ⟨o₁, hstep, hrest⟩ := bind_eq_ok.mp hfold
      have hfirst : ∀ n, e = .node n → Written [n] := fun n he => hevents n (by simp [he])
      exact ih o₁ o' (fun n hn => hevents n (by simp [hn])) (Outline.written_step ho hfirst hstep) hrest
  obtain ⟨o, ho, hfinish⟩ := bind_eq_ok.mp h
  have hwritten : o.Written := by
    refine hfold _ {} o (fun n hn => ?_) (fun i hi => absurd hi List.not_mem_nil) ho
    obtain ⟨node, hmem, hn⟩ := List.mem_flatMap.mp hn
    refine written_of_mem_eventsOf (fun i hi => ?_) hn
    obtain ⟨before, behind, rfl⟩ := List.append_of_mem hmem
    rw [written_append, written_cons] at hnodes
    exact hnodes.2.1 i (by simpa using hi)
  cases hcurrent : o.current with
  | some s => simp [Outline.finish, hcurrent] at hfinish
  | none =>
    simp only [Outline.finish, hcurrent, Except.ok.injEq] at hfinish
    subst hfinish
    intro i hi
    exact hwritten i (by simpa [Outline.items, hcurrent] using hi)

/-! ## Reading -/

/-- A pass keeps nodes written. -/
def Pass.Writes (pass : Pass) : Prop := ∀ nodes out, Written nodes → pass nodes = .ok out → Written out

/-- Rewriting by a rule that writes is a pass that keeps nodes written. -/
theorem Rule.Reads.pass_writes {Q : Int → Text → List Node → Prop} {rule : Rule (List Node)} (h : rule.Reads Q)
    (hwrites : rule.Writes) : Pass.Writes (rewrite rule) :=
  fun nodes _ hnodes hpass => rewrite_written (h.written hwrites) nodes hnodes hpass

theorem passes_write {pass : Pass} (h : pass ∈ passes registry template) : pass.Writes := by
  simp only [passes, List.mem_append, List.mem_cons, List.not_mem_nil, or_false, List.mem_map] at h
  rcases h with (((rfl | rfl) | ⟨rule, hrule, rfl⟩) | rfl) | ⟨rule, hrule, rfl⟩
  · have hreads : comment.Reads (Lowers registry) := comment_reads
    exact hreads.pass_writes comment_writes
  · exact fun nodes out => structure_written
  · exact (rulesBeforeIncludes_read hrule).pass_writes (rulesBeforeIncludes_write hrule)
  · have hreads : ((inclusion template).map Prod.snd).Reads (Lowers registry) := inclusion_reads.map fun _ _ _ h => h
    exact hreads.pass_writes inclusion_writes
  · exact (rulesAfterIncludes_read hrule).pass_writes (rulesAfterIncludes_write hrule)

/-- The nodes that a template is read as are written, whatever the handlers of its registry return. -/
theorem read_written {source : Text} (h : (read registry template source).nodes = .ok nodes) : Written nodes := by
  rw [read_nodes_eq] at h
  obtain ⟨regions, hregions, h⟩ := bind_eq_ok.mp h
  obtain ⟨between, hverbatim, hprogram⟩ := bind_eq_ok.mp hregions
  have hreads : verbatim.Reads (Lowers registry) ∧ program.Reads (Lowers registry) := ⟨verbatim_reads, program_reads⟩
  have hbetween : Written between := hreads.1.pass_writes verbatim_writes _ _ (written_text 1 source) hverbatim
  have hwritten : Written regions := hreads.2.pass_writes program_writes _ _ hbetween hprogram
  have hpasses : ∀ (ps : List Pass) (nodes out : List Node), (∀ pass ∈ ps, pass.Writes) → Written nodes →
      runPasses ps nodes = .ok out → Written out := by
    intro ps
    induction ps with
    | nil =>
      intro nodes out _ hnodes hrun
      obtain rfl := Except.ok.inj hrun
      exact hnodes
    | cons pass ps ih =>
      intro nodes out hps hnodes hrun
      obtain ⟨next, hpass, hrest⟩ := bind_eq_ok.mp hrun
      obtain ⟨hfirst, hps⟩ := List.forall_mem_cons.mp hps
      exact ih next out hps (hfirst nodes next hnodes hpass) hrest
  exact hpasses _ regions nodes (fun pass hpass => passes_write hpass) hwritten h

end Markup
end Stencil
