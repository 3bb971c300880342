import Mathlib
import Stencil.Proofs.Markup.Grammar

/-!
# Passes over a template

A template is read by one pass after the other.  No pass looks into what an earlier one made of markup, and none loses,
repeats or misplaces text.

* `rewrite_refines`, `structure_refines` — the two ways in which a pass goes over nodes: it cuts what is still text and
  leaves everything else as it is.
* `passes` — the passes behind the regions, in order; `read_nodes_eq` — reading a template runs them.
* `passes_keep_lowered` — what is not text stays as it is, in the same order, through every pass and to the end.
* `read_cut` — the nodes that a template is read as are what the stretches of its source became.
-/

namespace Stencil.Markup

variable {registry : Registry} {template : Text} {line : Int} {s : Text}

/-! ## Rewriting -/

/-- The nodes of pieces that tile a text cover it. -/
theorem Tiles.covers {ps : List (Piece (List Node))} {out : List Node} (h : Tiles (Lowers registry) line s ps)
    (hout : nodesOf ps = .ok out) : Covers (IsMarkup registry) line s (items out) := by
  induction h generalizing out with
  | nil =>
    obtain rfl := Except.ok.inj hout
    exact .nil
  | plain ht _ ih =>
    obtain ⟨rest, hrest, hout⟩ := bind_eq_ok.mp hout
    obtain rfl := Except.ok.inj hout
    exact (Covers.text ht).append (ih hrest)
  | declined ht _ ih =>
    obtain ⟨rest, hrest, hout⟩ := bind_eq_ok.mp hout
    obtain rfl := Except.ok.inj hout
    exact (Covers.text ht).append (ih hrest)
  | markup ht hQ _ ih =>
    obtain ⟨found, hfound, hout⟩ := bind_eq_ok.mp hout
    obtain ⟨rest, hrest, hout⟩ := bind_eq_ok.mp hout
    obtain rfl := Except.ok.inj hout
    obtain rfl := Except.ok.inj hfound
    rw [items_append]
    exact (Covers.markup ht hQ.1 hQ.2).append (ih hrest)
  | failed =>
    obtain ⟨found, hfound, hout⟩ := bind_eq_ok.mp hout
    cases hfound

/-- A text that is rewritten is cut. -/
theorem rewriteNode_text_covers {rule : Rule (List Node)} (hrule : rule.Reads (Lowers registry)) {out : List Node}
    (h : rewriteNode rule (.text line s) = .ok out) : Covers (IsMarkup registry) line s (items out) := by
  rw [rewriteNode] at h
  exact (hrule.tiles line s).absorbDeclined.covers h

section Replacing

variable {C : Int → Text → List Item → Prop}

mutual

theorem rewriteNode_replaces {rule : Rule (List Node)}
    (hC : ∀ line s out, rewriteNode rule (.text line s) = .ok out → C line s (items out)) (node : Node)
    {out : List Node} (h : rewriteNode rule node = .ok out) : Replaces C (itemsOf node) (items out) := by
  cases node with
  | text line s => simpa using Replaces.text (hC line s out h) .nil
  | captured line name label body =>
    rw [rewriteNode] at h
    obtain ⟨body', hbody, h⟩ := bind_eq_ok.mp h
    obtain rfl := Except.ok.inj h
    have hbody' := rewrite_replaces hC body hbody
    simpa using Replaces.same _ (hbody'.append (.refl [.stop]))
  | _ =>
    obtain rfl := Except.ok.inj h
    simpa using Replaces.refl _

/-- What rewriting puts in the place of a text stands in the place of each text in nodes, and all else stays. -/
theorem rewrite_replaces {rule : Rule (List Node)}
    (hC : ∀ line s out, rewriteNode rule (.text line s) = .ok out → C line s (items out)) (nodes : List Node)
    {out : List Node} (h : rewrite rule nodes = .ok out) : Replaces C (items nodes) (items out) := by
  cases nodes with
  | nil =>
    rw [rewrite] at h
    obtain rfl := Except.ok.inj h
    exact .nil
  | cons node nodes =>
    rw [rewrite] at h
    obtain ⟨first, hfirst, h⟩ := bind_eq_ok.mp h
    obtain ⟨rest, hrest, h⟩ := bind_eq_ok.mp h
    obtain rfl := Except.ok.inj h
    rw [items_append]
    exact (rewriteNode_replaces hC node hfirst).append (rewrite_replaces hC nodes hrest)

end

end Replacing

/-- **Rewriting.**  A rule that reads markup cuts the text in nodes and leaves all else as it is. -/
theorem rewrite_refines {rule : Rule (List Node)} (hrule : rule.Reads (Lowers registry)) (nodes : List Node)
    {out : List Node} (h : rewrite rule nodes = .ok out) : Refines (IsMarkup registry) (items nodes) (items out) :=
  refines_iff_replaces.mpr (rewrite_replaces (fun _ _ _ => rewriteNode_text_covers hrule) nodes h)

/-! ## Structure -/

namespace Outline

/-- What an outline holds so far, in document order: an open section has no mark at its end yet. -/
def items (o : Outline) : List Item :=
  Markup.items o.done ++ o.current.elim [] fun s => .start s.line s.name s.label :: Markup.items s.body

theorem items_add (node : Node) (o : Outline) : (o.add node).items = o.items ++ itemsOf node := by
  cases hcurrent : o.current <;> simp [add, items, hcurrent]

theorem items_addDone {o : Outline} (h : o.current = none) (nodes : List Node) :
    (o.addDone nodes).items = o.items ++ Markup.items nodes := by
  simp [addDone, items, h]

/-- Closing a section puts the mark at its end behind what it holds. -/
theorem items_close {o : Outline} {s : OpenSection} (h : o.current = some s) (nodes : List Node) :
    ({ o.addDone (.captured s.line s.name s.label s.body :: nodes) with current := none } : Outline).items =
      o.items ++ .stop :: Markup.items nodes := by
  simp [items, addDone, h]

/-- A structural directive adds what is on its line and not text behind everything else. -/
theorem items_take {line : Int} {excerpt : Text} {m : Mark} {o o' : Outline}
    (h : o.take template line excerpt m = .ok o') :
    ∃ new, o'.items = o.items ++ new ∧ ∀ i ∈ new, i.FinalAt line := by
  cases m with
  | «extends» layout =>
    obtain rfl := Except.ok.inj h
    exact ⟨_, items_add _ o, by simp⟩
  | yield name default =>
    obtain rfl := Except.ok.inj h
    exact ⟨_, items_add _ o, by simp⟩
  | opening name label =>
    cases hcurrent : o.current with
    | some outer => simp [take, hcurrent] at h
    | none =>
      simp only [take, hcurrent, Except.ok.injEq] at h
      subst h
      exact ⟨[.start line name label], by simp [items, hcurrent], by simp⟩
  | inline name label value =>
    cases hcurrent : o.current with
    | some outer => simp [take, hcurrent] at h
    | none =>
      simp only [take, hcurrent, Except.ok.injEq] at h
      subst h
      exact ⟨_, items_addDone hcurrent _, by simp⟩
  | closing directive =>
    cases hcurrent : o.current with
    | none =>
      simp only [take, hcurrent, Except.ok.injEq] at h
      subst h
      exact ⟨_, items_addDone hcurrent _, by simp⟩
    | some s =>
      simp only [take, hcurrent, Except.ok.injEq] at h
      subst h
      refine ⟨_, items_close hcurrent _, List.forall_mem_cons.mpr ⟨trivial, ?_⟩⟩
      split <;> simp

end Outline

/-- Taking in the events of pieces that tile a text adds what covers it. -/
theorem Tiles.outline {ps : List (Piece (Mark × Text))} {o o' : Outline}
    (h : Tiles (fun _ s _ => IsMarkup registry s) line s ps)
    (ho : (ps.map eventOf).foldlM (Outline.step template) o = .ok o') :
    ∃ new, o'.items = o.items ++ new ∧ Covers (IsMarkup registry) line s new := by
  induction h generalizing o with
  | nil =>
    obtain rfl := Except.ok.inj ho
    exact ⟨[], by simp, .nil⟩
  | plain ht _ ih =>
    obtain ⟨o₁, hstep, ho⟩ := bind_eq_ok.mp ho
    obtain rfl := Except.ok.inj hstep
    obtain ⟨new, hnew, hcovers⟩ := ih ho
    exact ⟨_, by rw [hnew, Outline.items_add, List.append_assoc]; rfl, (Covers.text ht).append hcovers⟩
  | declined ht _ ih =>
    obtain ⟨o₁, hstep, ho⟩ := bind_eq_ok.mp ho
    obtain rfl := Except.ok.inj hstep
    obtain ⟨new, hnew, hcovers⟩ := ih ho
    exact ⟨_, by rw [hnew, Outline.items_add, List.append_assoc]; rfl, (Covers.text ht).append hcovers⟩
  | markup ht hQ _ ih =>
    obtain ⟨o₁, hstep, ho⟩ := bind_eq_ok.mp ho
    obtain ⟨first, hfirst, hline⟩ := Outline.items_take hstep
    obtain ⟨new, hnew, hcovers⟩ := ih ho
    exact ⟨first ++ new, by rw [hnew, hfirst, List.append_assoc], (Covers.markup ht hQ hline).append hcovers⟩
  | failed =>
    obtain ⟨o₁, hstep, ho⟩ := bind_eq_ok.mp ho
    cases hstep

section Replacing

variable {C : Int → Text → List Item → Prop}

/-- Taking in the events of nodes adds what they become. -/
theorem outline_replaces (hC : ∀ line s o o', (eventsOf template (.text line s)).foldlM (Outline.step template) o =
      .ok o' → ∃ new, o'.items = o.items ++ new ∧ C line s new) {nodes : List Node} {o o' : Outline}
    (ho : (nodes.flatMap (eventsOf template)).foldlM (Outline.step template) o = .ok o') :
    ∃ new, o'.items = o.items ++ new ∧ Replaces C (items nodes) new := by
  induction nodes generalizing o with
  | nil =>
    obtain rfl := Except.ok.inj ho
    exact ⟨[], by simp, .nil⟩
  | cons node nodes ih =>
    rw [List.flatMap_cons, List.foldlM_append] at ho
    obtain ⟨o₁, hnode, ho⟩ := bind_eq_ok.mp ho
    obtain ⟨new, hnew, hreplaces⟩ := ih ho
    have hfirst : ∃ first, o₁.items = o.items ++ first ∧ Replaces C (itemsOf node) first := by
      cases node with
      | text line s =>
        obtain ⟨first, hfirst, hfound⟩ := hC line s o o₁ hnode
        exact ⟨first, hfirst, by simpa using Replaces.text hfound .nil⟩
      | _ =>
        obtain ⟨o₂, hstep, hnode⟩ := bind_eq_ok.mp hnode
        obtain rfl := Except.ok.inj hstep
        obtain rfl := Except.ok.inj hnode
        exact ⟨_, Outline.items_add _ o, .refl _⟩
    obtain ⟨first, hfirst, hreplaces'⟩ := hfirst
    exact ⟨first ++ new, by rw [hnew, hfirst, List.append_assoc], hreplaces'.append hreplaces⟩

/-- Grouping that succeeds leaves what the outline holds at the end. -/
theorem exists_outline {nodes out : List Node} (h : structure? template nodes = .ok out) :
    ∃ o, (nodes.flatMap (eventsOf template)).foldlM (Outline.step template) {} = .ok o ∧ items out = o.items := by
  obtain ⟨o, ho, hfinish⟩ := bind_eq_ok.mp h
  refine ⟨o, ho, ?_⟩
  cases hcurrent : o.current with
  | some s => simp [Outline.finish, hcurrent] at hfinish
  | none =>
    simp only [Outline.finish, hcurrent, Except.ok.injEq] at hfinish
    simp [Outline.items, hcurrent, hfinish]

/-- What grouping puts in the place of a text stands in the place of each text in nodes, and all else stays. -/
theorem structure_replaces (hC : ∀ line s o o', (eventsOf template (.text line s)).foldlM (Outline.step template) o =
      .ok o' → ∃ new, o'.items = o.items ++ new ∧ C line s new) {nodes out : List Node}
    (h : structure? template nodes = .ok out) : Replaces C (items nodes) (items out) := by
  obtain ⟨o, ho, hitems⟩ := exists_outline h
  obtain ⟨new, hnew, hreplaces⟩ := outline_replaces hC ho
  have hout : items out = new := hitems.trans hnew
  rwa [hout]

end Replacing

/-- Grouping cuts a text. -/
theorem events_cover (registry : Registry) {o o' : Outline}
    (h : (eventsOf template (.text line s)).foldlM (Outline.step template) o = .ok o') :
    ∃ new, o'.items = o.items ++ new ∧ Covers (IsMarkup registry) line s new :=
  (mark_reads.tiles line s).absorbAfterDeclined.outline h

theorem outline_refines (registry : Registry) {nodes : List Node} {o o' : Outline}
    (ho : (nodes.flatMap (eventsOf template)).foldlM (Outline.step template) o = .ok o') :
    ∃ new, o'.items = o.items ++ new ∧ Refines (IsMarkup registry) (items nodes) new := by
  simp only [refines_iff_replaces]
  exact outline_replaces (fun _ _ _ _ => events_cover registry) ho

/-- **Structure.**  Grouping nodes into sections cuts the text in them and leaves all else as it is. -/
theorem structure_refines {nodes out : List Node} (h : structure? template nodes = .ok out) :
    Refines (IsMarkup registry) (items nodes) (items out) :=
  refines_iff_replaces.mpr (structure_replaces (fun _ _ _ _ => events_cover registry) h)

/-! ## The passes in order -/

/-- A pass over nodes. -/
abbrev Pass := List Node → Except Error (List Node)

/-- The passes behind the regions, in order. -/
def passes (registry : Registry) (template : Text) : List Pass :=
  [rewrite comment, structure? template] ++ (rulesBeforeIncludes registry template).map rewrite ++
    [rewrite ((inclusion template).map Prod.snd)] ++ (rulesAfterIncludes registry template).map rewrite

/-- Runs passes one after the other. -/
def runPasses (ps : List Pass) (nodes : List Node) : Except Error (List Node) :=
  ps.foldlM (fun nodes pass => pass nodes) nodes

theorem runPasses_one (pass : Pass) : runPasses [pass] = pass := by
  funext nodes
  exact bind_pure (pass nodes)

theorem runPasses_append (ps qs : List Pass) (nodes : List Node) :
    runPasses (ps ++ qs) nodes = runPasses ps nodes >>= runPasses qs := List.foldlM_append ..

theorem runPasses_rewrite (rules : List (Rule (List Node))) (nodes : List Node) :
    runPasses (rules.map rewrite) nodes = rewriteAll rules nodes := by
  induction rules generalizing nodes with
  | nil => rfl
  | cons rule rules ih => exact bind_congr fun nodes => ih nodes

/-- Reading a template takes its regions out and runs the passes. -/
theorem read_nodes_eq (registry : Registry) (template source : Text) :
    (read registry template source).nodes = extractRegions source >>= runPasses (passes registry template) := by
  have hrules : ∀ rules, runPasses (rules.map rewrite) = rewriteAll rules := fun rules => funext (runPasses_rewrite rules)
  have hread : (read registry template source).nodes = readInner registry template source >>= fun nodes =>
      rewrite ((inclusion template).map Prod.snd) nodes >>= rewriteAll (rulesAfterIncludes registry template) := by
    unfold read
    cases readInner registry template source <;> rfl
  simp only [hread, passes, readInner, readStructure, readPlain, bind_assoc]
  refine bind_congr fun regions => ?_
  have htwo : runPasses [rewrite comment, structure? template] regions =
      rewrite comment regions >>= structure? template := by
    rw [← List.singleton_append, runPasses_append, runPasses_one, runPasses_one]
  simp only [runPasses_append, runPasses_one, htwo, hrules, bind_assoc]

/-- A pass cuts what is still text and leaves everything else as it is. -/
def Pass.Refining (registry : Registry) (pass : Pass) : Prop :=
  ∀ nodes out, pass nodes = .ok out → Refines (IsMarkup registry) (items nodes) (items out)

section Rules

variable {Property : Rule (List Node) → Prop}

/-- What holds of the registered directives, of every family of built-in ones and of interpolations holds of every rule
before includes. -/
theorem forall_rulesBeforeIncludes (hcustom : Property (family template (custom registry)))
    (hinner : ∀ ds, ds ⊆ innerDirectives → Property (family template ds)) (hecho : Property (echo registry template))
    (hraw : Property (rawEcho template)) : ∀ rule ∈ rulesBeforeIncludes registry template, Property rule := by
  simp only [rulesBeforeIncludes, List.forall_mem_cons]
  refine ⟨hcustom, ?_, hecho, hraw, ?_, ?_, ?_, ?_, ?_, ?_, ?_, List.forall_mem_nil _⟩ <;>
  exact hinner _ fun d hd => by simp [innerDirectives, hd]

theorem forall_rulesAfterIncludes (hinner : ∀ ds, ds ⊆ innerDirectives → Property (family template ds))
    (hescaped : Property (escaped (knownNames registry))) :
    ∀ rule ∈ rulesAfterIncludes registry template, Property rule := by
  simp only [rulesAfterIncludes, List.forall_mem_cons]
  exact ⟨hinner _ fun d hd => by simp [innerDirectives, hd], hescaped, List.forall_mem_nil _⟩

end Rules

theorem rulesBeforeIncludes_read {rule : Rule (List Node)} (h : rule ∈ rulesBeforeIncludes registry template) :
    rule.Reads (Lowers registry) :=
  forall_rulesBeforeIncludes customFamily_reads (fun _ => innerFamily_reads) echo_reads rawEcho_reads rule h

theorem rulesAfterIncludes_read {rule : Rule (List Node)} (h : rule ∈ rulesAfterIncludes registry template) :
    rule.Reads (Lowers registry) := forall_rulesAfterIncludes (fun _ => innerFamily_reads) escaped_reads rule h

theorem pass_refines {pass : Pass} (h : pass ∈ passes registry template) : pass.Refining registry := by
  simp only [passes, List.mem_append, List.mem_cons, List.not_mem_nil, or_false, List.mem_map] at h
  rcases h with (((rfl | rfl) | ⟨rule, hrule, rfl⟩) | rfl) | ⟨rule, hrule, rfl⟩
  · exact fun nodes out => rewrite_refines comment_reads nodes
  · exact fun nodes out => structure_refines
  · exact fun nodes out => rewrite_refines (rulesBeforeIncludes_read hrule) nodes
  · exact fun nodes out => rewrite_refines (inclusion_reads.map fun _ _ _ h => h) nodes
  · exact fun nodes out => rewrite_refines (rulesAfterIncludes_read hrule) nodes

/-- Passes that leave everything but text as it is do so one after the other. -/
theorem runPasses_lowered {ps : List Pass} (hps : ∀ pass ∈ ps, pass.Refining registry) {nodes out : List Node}
    (h : runPasses ps nodes = .ok out) : (lowered (items nodes)).Sublist (lowered (items out)) := by
  induction ps generalizing nodes with
  | nil =>
    obtain rfl := Except.ok.inj h
    exact .refl _
  | cons pass ps ih =>
    obtain ⟨between, hpass, h⟩ := bind_eq_ok.mp h
    obtain ⟨hrefining, hps⟩ := List.forall_mem_cons.mp hps
    exact (hrefining nodes between hpass).lowered.trans (ih hps h)

theorem runPasses_covers {ps : List Pass} (hps : ∀ pass ∈ ps, pass.Refining registry) {nodes out : List Node}
    (hnodes : Covers (IsMarkup registry) line s (items nodes)) (h : runPasses ps nodes = .ok out) :
    Covers (IsMarkup registry) line s (items out) := by
  induction ps generalizing nodes with
  | nil =>
    obtain rfl := Except.ok.inj h
    exact hnodes
  | cons pass ps ih =>
    obtain ⟨between, hpass, h⟩ := bind_eq_ok.mp h
    obtain ⟨hrefining, hps⟩ := List.forall_mem_cons.mp hps
    exact ih hps (hnodes.refine (hrefining nodes between hpass)) h

/-- Behind the regions a source is covered by what its stretches became. -/
theorem extractRegions_covers {source : Text} {regions : List Node} (h : extractRegions source = .ok regions) :
    Covers (IsMarkup registry) 1 source (items regions) := by
  obtain ⟨nodes, hverbatim, hprogram⟩ := bind_eq_ok.mp h
  rw [rewrite] at hverbatim
  obtain ⟨first, hfirst, hverbatim⟩ := bind_eq_ok.mp hverbatim
  obtain ⟨rest, hrest, hverbatim⟩ := bind_eq_ok.mp hverbatim
  obtain rfl := Except.ok.inj hrest
  obtain rfl := Except.ok.inj hverbatim
  have hcovers : Covers (IsMarkup registry) 1 source (items first) := rewriteNode_text_covers verbatim_reads hfirst
  rw [List.append_nil] at hprogram
  exact hcovers.refine (rewrite_refines program_reads _ hprogram)

/-- **Opaque passes.**  Whatever nodes a pass goes over, what is not text stays as it is and in the same order, and
everything else in what comes out is from text that was cut.  A template is read by running the passes behind its regions;
so from each stage of this to the end, what is not text stays as it is and in the same order. -/
theorem passes_keep_lowered (registry : Registry) (template : Text) :
    (∀ pass ∈ passes registry template, ∀ nodes out, pass nodes = .ok out →
      (lowered (items nodes)).Sublist (lowered (items out)) ∧
        Refines (IsMarkup registry) (items nodes) (items out)) ∧
    ∀ source regions stage nodes before behind, extractRegions source = .ok regions →
      passes registry template = before ++ behind → runPasses before regions = .ok stage →
      (read registry template source).nodes = .ok nodes →
      runPasses behind stage = .ok nodes ∧ (lowered (items stage)).Sublist (lowered (items nodes)) := by
  refine ⟨fun pass hpass nodes out h => ?_, ?_⟩
  · have hrefines := pass_refines hpass nodes out h
    exact ⟨hrefines.lowered, hrefines⟩
  · intro source regions stage nodes before behind hregions hsplit hstage hread
    have hbehind : runPasses behind stage = .ok nodes := by
      rw [read_nodes_eq, hregions, hsplit] at hread
      have hread : runPasses (before ++ behind) regions = .ok nodes := hread
      rw [runPasses_append, hstage] at hread
      exact hread
    have hrefining : ∀ pass ∈ behind, pass.Refining registry := fun pass hpass => by
      have hmem : pass ∈ passes registry template := by
        rw [hsplit]
        exact List.mem_append_right _ hpass
      exact pass_refines hmem
    exact ⟨hbehind, runPasses_lowered hrefining hbehind⟩

/-- A template that prints a directive as it stands and then has one read. -/
def sheltered : Text := "@verbatim@csrf@endverbatim\n@csrf b"

/-- The nodes of this template behind its regions. -/
def shelteredRegions : List Node := [.verbatim 1 "@csrf", .text 1 "\n@csrf b"]

/-- The nodes that this template is read as. -/
def shelteredNodes : List Node :=
  [.verbatim 1 "@csrf", .text 1 "\n", .echo 2 "_view.csrf_field()" false, .text 2 " b"]

theorem extractRegions_sheltered : extractRegions sheltered = .ok shelteredRegions := by cbv

theorem read_sheltered : (read .standard "page" sheltered).nodes = .ok shelteredNodes := by cbv

/-- The directive that is printed stays as it is when comments are taken out, and up to the end. -/
theorem passes_keep_lowered_sheltered :
    Refines (IsMarkup .standard) (items shelteredRegions) (items shelteredRegions) ∧
      (lowered (items shelteredRegions)).Sublist (lowered (items shelteredNodes)) := by
  obtain ⟨hpass, hrun⟩ := passes_keep_lowered .standard "page"
  have hcomment : rewrite comment shelteredRegions = .ok shelteredRegions := by cbv
  have hmem : rewrite comment ∈ passes .standard "page" := by simp [passes]
  exact ⟨(hpass _ hmem _ _ hcomment).2,
    (hrun sheltered _ _ _ [] _ extractRegions_sheltered rfl rfl read_sheltered).2⟩

/-- **Text is kept.**  The source of a template that is read is cut into stretches that lie side by side: each is text that
stayed, or markup that became nodes on its line; and what they became, in order, is what the template is read as. -/
theorem read_cut {source : Text} {nodes : List Node} (h : (read registry template source).nodes = .ok nodes) :
    ∃ segments, IsCut (IsMarkup registry) 1 source segments ∧ items nodes = segments.flatMap Segment.found := by
  rw [read_nodes_eq] at h
  obtain ⟨regions, hregions, h⟩ := bind_eq_ok.mp h
  obtain ⟨segments, hcut, hfound⟩ :=
    runPasses_covers (fun _ => pass_refines) (extractRegions_covers hregions) h
  exact ⟨segments, hcut, hfound.symm⟩

theorem read_cut_sheltered :
    ∃ segments, IsCut (IsMarkup .standard) 1 sheltered segments ∧
      items shelteredNodes = segments.flatMap Segment.found := read_cut read_sheltered

end Stencil.Markup
