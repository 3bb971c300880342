import Stencil.Proofs.Markup.Pass

/-!
# Places of a source

What a template is read as stands in its source, so whatever a rule finds while a template is read, it finds at a place
of the source.

* `Stands` — a text stands in a source from a line on; `IsLineOf` — a source has a line.
* `Item.StandsIn` — an item of nodes stands in a source; `Refines.standsIn` — what items become stands there too.
* `Rule.Finds` — a rule finds something at a place of a source.
* `rewrite_fails`, `mem_findings` — what a rule finds in nodes that stand in a source, it finds at a place of it.
* `structure_fails` — where and how grouping nodes into sections fails; `read_fails` — how reading a template does.
-/

namespace Stencil

/-! ## Places of a source -/

/-- A source has a line. -/
def IsLineOf (source : Text) (line : Int) : Prop := 1 ≤ line ∧ line ≤ 1 + source.newlines

/-- A text stands in a source from a line on. -/
def Stands (source : Text) (line : Int) (t : Text) : Prop :=
  ∃ before after, source = before ++ t ++ after ∧ line = 1 + before.newlines

variable {source s t : Text} {line : Int}

theorem stands_self (source : Text) : Stands source 1 source := ⟨[], [], by simp, rfl⟩

theorem Stands.isLineOf (h : Stands source line t) : IsLineOf source line := by
  obtain ⟨before, after, rfl, rfl⟩ := h
  have hle : before.newlines ≤ Text.newlines (before ++ t ++ after) := by
    unfold Text.newlines
    rw [List.append_assoc, List.count_append]
    exact Nat.le_add_right _ _
  unfold IsLineOf
  omega

/-- What is part of a text that stands in a source is part of the source. -/
theorem Stands.isInfix (h : Stands source line t) (hs : s <:+: t) : s <:+: source := by
  obtain ⟨before, after, rfl, -⟩ := h
  exact hs.trans ⟨before, after, rfl⟩

/-- A part of a text stands on the line that the text before it leads to. -/
theorem Stands.part {before after : Text} (h : Stands source line s) (hs : s = before ++ t ++ after) :
    Stands source (line + before.newlines) t := by
  obtain ⟨before', after', rfl, rfl⟩ := h
  refine ⟨before' ++ before, after ++ after', by simp [hs], ?_⟩
  rw [Markup.line_append]

theorem Stands.tail {c : Char} (h : Stands source line (c :: t)) : Stands source (Markup.lineAfter c line) t := by
  rw [Markup.lineAfter_eq]
  have hs : c :: t = [c] ++ t ++ [] := by simp
  exact h.part hs

namespace Markup

variable {α : Type} {registry : Registry} {template : Text} {rule : Rule α} {nodes : List Node} {found : Except Error α}
  {ps : List (Piece α)}

/-- An item stands in a source: text where it is, and all else on a line of the source. -/
@[simp] def Item.StandsIn (source : Text) : Item → Prop
  | .node (.text line t) => Stands source line t
  | .node n => IsLineOf source n.line
  | .start line _ _ => IsLineOf source line
  | .stop => True

/-- What is on a line of a source stands in it, unless it is text. -/
theorem Item.FinalAt.standsIn {i : Item} (h : i.FinalAt line) (hline : IsLineOf source line) : i.StandsIn source := by
  cases i with
  | node n =>
    cases n with
    | text => exact h.elim
    | _ =>
      obtain rfl : _ = line := h
      exact hline
  | start =>
    obtain rfl : _ = line := h
    exact hline
  | stop => trivial

/-- What covers a text of a source stands in the source. -/
theorem Covers.standsIn {P : Text → Prop} {xs : List Item} (h : Covers P line s xs) (hs : Stands source line s) :
    ∀ i ∈ xs, i.StandsIn source := by
  obtain ⟨segments, hcut, rfl⟩ := h
  intro i hi
  obtain ⟨seg, hseg, hi⟩ := List.mem_flatMap.mp hi
  obtain ⟨before, behind, hsplit⟩ := List.append_of_mem hseg
  have hstands : Stands source seg.line seg.text := by
    rw [hcut.lines _ _ _ hsplit]
    have hs' : s = before.flatMap Segment.text ++ seg.text ++ behind.flatMap Segment.text := by
      rw [← hcut.whole, hsplit]
      simp
    exact hs.part hs'
  rcases (hcut.lawful seg hseg).2 with htext | ⟨-, hfound⟩
  · rw [htext] at hi
    obtain rfl := List.mem_singleton.mp hi
    exact hstands
  · exact (hfound i hi).standsIn hstands.isLineOf

/-- What items of a source become stands in it. -/
theorem Refines.standsIn {P : Text → Prop} {xs ys : List Item} (h : Refines P xs ys)
    (hxs : ∀ i ∈ xs, i.StandsIn source) : ∀ i ∈ ys, i.StandsIn source := by
  induction h with
  | nil => exact hxs
  | same x _ ih =>
    obtain ⟨hx, hxs⟩ := List.forall_mem_cons.mp hxs
    exact List.forall_mem_cons.mpr ⟨hx, ih hxs⟩
  | cut hcovers _ ih =>
    obtain ⟨hx, hxs⟩ := List.forall_mem_cons.mp hxs
    exact List.forall_mem_append.mpr ⟨hcovers.standsIn hx, ih hxs⟩

/-! ## What a rule finds -/

/-- A rule finds something at a place of a source. -/
def Rule.Finds (rule : Rule α) (source : Text) (p : Place) (found : Except Error α) : Prop :=
  Stands source p.line p.rest ∧ ∃ n, rule p = some (.accepted n found)

theorem mem_glue {c : Char} {line' : Int} (h : .markup line t found ∈ glue line' c ps) : .markup line t found ∈ ps := by
  unfold glue at h
  split at h
  · exact List.mem_cons_of_mem _ (List.mem_of_ne_of_mem (by simp) h)
  · exact List.mem_of_ne_of_mem (by simp) h

theorem mem_joinPlain {line' : Int} (h : .markup line t found ∈ joinPlain line' s ps) : .markup line t found ∈ ps := by
  unfold joinPlain at h
  split at h
  · exact List.mem_cons_of_mem _ (List.mem_of_ne_of_mem (by simp) h)
  · exact List.mem_of_ne_of_mem (by simp) h

theorem mem_absorbDeclined (h : .markup line t found ∈ absorbDeclined ps) : .markup line t found ∈ ps := by
  fun_induction absorbDeclined ps with
  | case1 => exact h
  | case2 _ _ ps ih => exact List.mem_cons_of_mem _ (ih (mem_joinPlain h))
  | case3 _ _ ps ih => exact List.mem_cons_of_mem _ (ih (mem_joinPlain h))
  | case4 p ps _ _ ih =>
    rcases List.mem_cons.mp h with rfl | h
    · exact List.mem_cons_self
    · exact List.mem_cons_of_mem _ (ih h)

theorem mem_absorbAfterDeclined (h : .markup line t found ∈ absorbAfterDeclined ps) : .markup line t found ∈ ps := by
  fun_induction absorbAfterDeclined ps with
  | case1 _ _ _ _ ps ih =>
    exact List.mem_cons_of_mem _ (List.mem_cons_of_mem _ (ih (List.mem_of_ne_of_mem (by simp) h)))
  | case2 _ _ ps _ ih => exact List.mem_cons_of_mem _ (ih (List.mem_of_ne_of_mem (by simp) h))
  | case3 p ps _ _ ih =>
    rcases List.mem_cons.mp h with rfl | h
    · exact List.mem_cons_self
    · exact List.mem_cons_of_mem _ (ih h)
  | case4 => exact h

/-- Markup among the pieces of a text is what the rule finds at a place of it. -/
theorem finds_of_mem_piecesFrom {skip : Nat} {previous : Option Char} {line' : Int} (hs : Stands source line' s)
    (h : .markup line t found ∈ piecesFrom rule skip previous line' s) :
    ∃ p : Place, p.line = line ∧ rule.Finds source p found := by
  induction s generalizing skip previous line' with
  | nil => simp [piecesFrom] at h
  | cons c s ih =>
    cases skip with
    | succ skip => exact ih hs.tail h
    | zero =>
      have hplace : ∀ {n found'}, rule ⟨previous, line', c :: s⟩ = some (.accepted n found') →
          rule.Finds source ⟨previous, line', c :: s⟩ found' := fun hrule => ⟨hs, _, hrule⟩
      rw [piecesFrom] at h
      split at h
      · exact ih hs.tail (mem_glue h)
      · exact ih hs.tail (List.mem_of_ne_of_mem (by simp) h)
      case h_3 n a hrule =>
        rcases List.mem_cons.mp h with heq | h
        · obtain ⟨rfl, -, rfl⟩ := Piece.markup.inj heq
          exact ⟨_, rfl, hplace hrule⟩
        · exact ih hs.tail h
      case h_4 n e hrule =>
        obtain ⟨rfl, -, rfl⟩ := Piece.markup.inj (List.mem_singleton.mp h)
        exact ⟨_, rfl, hplace hrule⟩

theorem mem_of_nodesOf {ps : List (Piece (List Node))} {e : Error} (h : nodesOf ps = .error e) :
    ∃ line t, .markup line t (.error e) ∈ ps := by
  induction ps with
  | nil => cases h
  | cons piece ps ih =>
    have hmore : nodesOf ps = .error e → ∃ line t, .markup line t (.error e) ∈ piece :: ps := fun h => by
      obtain ⟨line, t, hmem⟩ := ih h
      exact ⟨line, t, List.mem_cons_of_mem _ hmem⟩
    cases piece with
    | plain => exact hmore ((bind_eq_error.mp h).resolve_right fun ⟨_, _, h⟩ => nomatch h)
    | declined => exact hmore ((bind_eq_error.mp h).resolve_right fun ⟨_, _, h⟩ => nomatch h)
    | markup line t found =>
      rcases bind_eq_error.mp h with rfl | ⟨_, -, h⟩
      · exact ⟨line, t, List.mem_cons_self⟩
      · exact hmore ((bind_eq_error.mp h).resolve_right fun ⟨_, _, h⟩ => nomatch h)

mutual

theorem rewriteNode_fails {rule : Rule (List Node)} (node : Node) (hnode : ∀ i ∈ itemsOf node, i.StandsIn source)
    {e : Error} (h : rewriteNode rule node = .error e) : ∃ p, rule.Finds source p (.error e) := by
  cases node with
  | text line s =>
    obtain ⟨line', t, hmem⟩ := mem_of_nodesOf h
    have hs : Stands source line s := hnode (.node (.text line s)) (by simp)
    obtain ⟨p, -, hp⟩ := finds_of_mem_piecesFrom hs (mem_absorbDeclined hmem)
    exact ⟨p, hp⟩
  | captured line name label body =>
    have hbody := (bind_eq_error.mp h).resolve_right fun ⟨_, _, h⟩ => nomatch h
    exact rewrite_fails body (fun i hi => hnode i (by simp [hi])) hbody
  | _ => cases h

/-- **Rewriting fails at a place.**  Where nodes stand in a source, rewriting them fails by an error that the rule finds
at a place of the source. -/
theorem rewrite_fails {rule : Rule (List Node)} (nodes : List Node) (hnodes : ∀ i ∈ items nodes, i.StandsIn source)
    {e : Error} (h : rewrite rule nodes = .error e) : ∃ p, rule.Finds source p (.error e) := by
  cases nodes with
  | nil => cases h
  | cons node nodes =>
    rcases bind_eq_error.mp h with h | ⟨_, -, h⟩
    · exact rewriteNode_fails node (fun i hi => hnodes i (by simp [hi])) h
    · have hrest := (bind_eq_error.mp h).resolve_right fun ⟨_, _, h⟩ => nomatch h
      exact rewrite_fails nodes (fun i hi => hnodes i (by simp [hi])) hrest

end

theorem mem_of_foundIn (h : found ∈ foundIn ps) : ∃ line t, .markup line t found ∈ ps := by
  fun_induction foundIn ps with
  | case1 => cases h
  | case2 line t found' ps ih =>
    rcases List.mem_cons.mp h with rfl | h
    · exact ⟨line, t, List.mem_cons_self⟩
    · obtain ⟨line, t, hmem⟩ := ih h
      exact ⟨line, t, List.mem_cons_of_mem _ hmem⟩
  | case3 p ps _ ih =>
    obtain ⟨line, t, hmem⟩ := ih h
    exact ⟨line, t, List.mem_cons_of_mem _ hmem⟩

mutual

theorem mem_findingsNode (node : Node) (hnode : ∀ i ∈ itemsOf node, i.StandsIn source)
    (h : found ∈ findingsNode rule node) : ∃ p, rule.Finds source p found := by
  cases node with
  | text line s =>
    obtain ⟨line', t, hmem⟩ := mem_of_foundIn h
    have hs : Stands source line s := hnode (.node (.text line s)) (by simp)
    obtain ⟨p, -, hp⟩ := finds_of_mem_piecesFrom hs hmem
    exact ⟨p, hp⟩
  | captured line name label body => exact mem_findings body (fun i hi => hnode i (by simp [hi])) h
  | _ => cases h

/-- Where nodes stand in a source, what a rule finds in them is what it finds at a place of the source. -/
theorem mem_findings (nodes : List Node) (hnodes : ∀ i ∈ items nodes, i.StandsIn source)
    (h : found ∈ findings rule nodes) : ∃ p, rule.Finds source p found := by
  cases nodes with
  | nil => cases h
  | cons node nodes =>
    rcases List.mem_append.mp h with h | h
    · exact mem_findingsNode node (fun i hi => hnodes i (by simp [hi])) h
    · exact mem_findings nodes (fun i hi => hnodes i (by simp [hi])) h

end

theorem mem_of_untilFailure {a : α} {l : List (Except Error α)} (h : a ∈ untilFailure l) : .ok a ∈ l := by
  fun_induction untilFailure l with
  | case1 b rest ih =>
    rcases List.mem_cons.mp h with rfl | h
    · exact List.mem_cons_self
    · exact List.mem_cons_of_mem _ (ih h)
  | case2 => cases h

/-! ## Structure -/

/-- Going through a list fails at one of its members. -/
theorem foldlM_eq_error {ε σ β : Type} {f : σ → β → Except ε σ} {l : List β} {a : σ} {e : ε}
    (h : l.foldlM f a = .error e) : ∃ b ∈ l, ∃ a', f a' b = .error e := by
  induction l generalizing a with
  | nil => cases h
  | cons b l ih =>
    rcases bind_eq_error.mp h with h | ⟨a', -, h⟩
    · exact ⟨b, List.mem_cons_self, a, h⟩
    · obtain ⟨b', hb', hfails⟩ := ih h
      exact ⟨b', List.mem_cons_of_mem _ hb', hfails⟩

/-- How grouping into sections fails: at a structural directive, or because a section that starts on a line of the
source is still open. -/
inductive StructureFault (template source : Text) : Error → Prop
  | found {p : Place} {e : Error} : (mark template).Finds source p (.error e) → StructureFault template source e
  | nested {p : Place} {m : Mark} {excerpt label : Text} {outer : OpenSection} :
    (mark template).Finds source p (.ok (m, excerpt)) →
    StructureFault template source (Outline.nested template p.line excerpt outer label)
  | unfinished {s : OpenSection} : IsLineOf source s.line →
    StructureFault template source (.compile ⟨.openSection s.label, some template, some s.line, none⟩)

theorem take_fails {m : Mark} {excerpt : Text} {o : Outline} {e : Error}
    (h : o.take template line excerpt m = .error e) :
    ∃ outer label, e = Outline.nested template line excerpt outer label := by
  unfold Outline.take at h
  split at h
  · cases h
  · cases h
  · split at h
    · exact ⟨_, _, (Except.error.inj h).symm⟩
    · cases h
  · split at h
    · exact ⟨_, _, (Except.error.inj h).symm⟩
    · cases h
  · split at h <;> cases h

/-- An event of a node that stands in a source is refused at a place of the source. -/
theorem step_fails {node : Node} (hnode : ∀ i ∈ itemsOf node, i.StandsIn source) {event : Event}
    (hevent : event ∈ eventsOf template node) {o : Outline} {e : Error} (h : o.step template event = .error e) :
    StructureFault template source e := by
  cases node with
  | text line s =>
    have hs : Stands source line s := hnode (.node (.text line s)) (by simp)
    obtain ⟨piece, hpiece, rfl⟩ := List.mem_map.mp hevent
    cases piece with
    | plain => cases h
    | declined => cases h
    | markup line' t found =>
      obtain ⟨p, rfl, hp⟩ := finds_of_mem_piecesFrom hs (mem_absorbAfterDeclined hpiece)
      cases found with
      | error e' =>
        obtain rfl : e' = e := Except.error.inj h
        exact .found hp
      | ok found =>
        obtain ⟨outer, label, rfl⟩ := take_fails h
        exact .nested hp
  | _ =>
    obtain rfl := List.mem_singleton.mp hevent
    cases h

/-- **Structure fails at a place.** -/
theorem structure_fails (hnodes : ∀ i ∈ items nodes, i.StandsIn source) {e : Error}
    (h : structure? template nodes = .error e) : StructureFault template source e := by
  rcases bind_eq_error.mp h with h | ⟨o, ho, h⟩
  · obtain ⟨event, hevent, o, hstep⟩ := foldlM_eq_error h
    obtain ⟨node, hnode, hevent⟩ := List.mem_flatMap.mp hevent
    exact step_fails (fun i hi => hnodes i (mem_items.mpr ⟨node, hnode, hi⟩)) hevent hstep
  · obtain ⟨new, hnew, hrefines⟩ := outline_refines .standard ho
    unfold Outline.finish at h
    split at h
    · cases h
    case h_2 s hs =>
      obtain rfl := Except.error.inj h
      have hmem : Item.start s.line s.name s.label ∈ o.items := by
        unfold Outline.items
        simp [hs]
      rw [hnew] at hmem
      have hstart : (Item.start s.line s.name s.label).StandsIn source :=
        hrefines.standsIn hnodes _ (by simpa [Outline.items] using hmem)
      exact .unfinished hstart

/-! ## Reading -/

/-- The rules that a template is read by, apart from its structure. -/
def rules (registry : Registry) (template : Text) : List (Rule (List Node)) :=
  [verbatim, program, comment] ++ rulesBeforeIncludes registry template ++ [(inclusion template).map Prod.snd] ++
    rulesAfterIncludes registry template

/-- How reading a template fails: a rule fails at a place of the source, or sections cannot be grouped. -/
inductive ReadFault (registry : Registry) (template source : Text) : Error → Prop
  | rule {rule : Rule (List Node)} {p : Place} {e : Error} :
    rule ∈ rules registry template → rule.Finds source p (.error e) → ReadFault registry template source e
  | outline {e : Error} : StructureFault template source e → ReadFault registry template source e

theorem stands_source (source : Text) : ∀ i ∈ items [.text 1 source], i.StandsIn source := by
  simp [stands_self]

theorem verbatim_stands (h : rewrite verbatim [.text 1 source] = .ok nodes) : ∀ i ∈ items nodes, i.StandsIn source := by
  have hreads : verbatim.Reads (Lowers .standard) := verbatim_reads
  exact (rewrite_refines hreads _ h).standsIn (stands_source source)

theorem extractRegions_stands {regions : List Node} (h : extractRegions source = .ok regions) :
    ∀ i ∈ items regions, i.StandsIn source := by
  obtain ⟨nodes, hverbatim, hprogram⟩ := bind_eq_ok.mp h
  have hreads : program.Reads (Lowers .standard) := program_reads
  exact (rewrite_refines hreads _ hprogram).standsIn (verbatim_stands hverbatim)

variable {e : Error}

theorem rewrite_readFault {rule : Rule (List Node)} (hrule : rule ∈ rules registry template)
    (hnodes : ∀ i ∈ items nodes, i.StandsIn source) (h : rewrite rule nodes = .error e) :
    ReadFault registry template source e := by
  obtain ⟨p, hp⟩ := rewrite_fails nodes hnodes h
  exact .rule hrule hp

theorem extractRegions_fails (h : extractRegions source = .error e) : ReadFault registry template source e := by
  rcases bind_eq_error.mp h with h | ⟨nodes, hverbatim, h⟩
  · exact rewrite_readFault (by simp [rules]) (stands_source source) h
  · exact rewrite_readFault (by simp [rules]) (verbatim_stands hverbatim) h

theorem pass_fails {pass : Pass} (hpass : pass ∈ passes registry template)
    (hnodes : ∀ i ∈ items nodes, i.StandsIn source) (h : pass nodes = .error e) :
    ReadFault registry template source e := by
  simp only [passes, List.mem_append, List.mem_cons, List.not_mem_nil, or_false, List.mem_map] at hpass
  rcases hpass with (((rfl | rfl) | ⟨rule, hrule, rfl⟩) | rfl) | ⟨rule, hrule, rfl⟩
  · exact rewrite_readFault (by simp [rules]) hnodes h
  · exact .outline (structure_fails hnodes h)
  · exact rewrite_readFault (by simp [rules, hrule]) hnodes h
  · exact rewrite_readFault (by simp [rules]) hnodes h
  · exact rewrite_readFault (by simp [rules, hrule]) hnodes h

/-- Passes one after the other fail as one of them does, and what they leave stands in the source. -/
theorem runPasses_fails {ps : List Pass} (hps : ps ⊆ passes registry template)
    (hnodes : ∀ i ∈ items nodes, i.StandsIn source) :
    (∀ e, runPasses ps nodes = .error e → ReadFault registry template source e) ∧
      ∀ out, runPasses ps nodes = .ok out → ∀ i ∈ items out, i.StandsIn source := by
  induction ps generalizing nodes with
  | nil =>
    refine ⟨nofun, fun out hout => ?_⟩
    obtain rfl := Except.ok.inj hout
    exact hnodes
  | cons pass ps ih =>
    obtain ⟨hpass, hps⟩ := List.cons_subset.mp hps
    have hbehind : ∀ between, pass nodes = .ok between → _ := fun between hbetween =>
      ih hps ((pass_refines hpass nodes between hbetween).standsIn hnodes)
    refine ⟨fun e h => ?_, fun out h => ?_⟩
    · rcases bind_eq_error.mp h with h | ⟨between, hbetween, h⟩
      · exact pass_fails hpass hnodes h
      · exact (hbehind between hbetween).1 e h
    · obtain ⟨between, hbetween, h⟩ := bind_eq_ok.mp h
      exact (hbehind between hbetween).2 out h

/-- **Reading fails at a place.**  Reading a template fails as a rule does at a place of the source, or because sections
cannot be grouped; what it is read as stands in the source. -/
theorem read_fails (registry : Registry) (template source : Text) :
    (∀ e, (read registry template source).nodes = .error e → ReadFault registry template source e) ∧
      ∀ nodes, (read registry template source).nodes = .ok nodes → ∀ i ∈ items nodes, i.StandsIn source := by
  rw [read_nodes_eq]
  have hpasses : ∀ regions, extractRegions source = .ok regions → _ := fun regions hregions =>
    runPasses_fails (List.Subset.refl (passes registry template)) (extractRegions_stands hregions)
  refine ⟨fun e h => ?_, fun nodes h => ?_⟩
  · rcases bind_eq_error.mp h with h | ⟨regions, hregions, h⟩
    · exact extractRegions_fails h
    · exact (hpasses regions hregions).1 e h
  · obtain ⟨regions, hregions, h⟩ := bind_eq_ok.mp h
    exact (hpasses regions hregions).2 nodes h

end Markup
end Stencil
