import Stencil.Proofs.Markup.Sign

/-!
# Recognition is complete

What a pass looks for is in none of the texts that it leaves, and no later pass brings it back: these texts are
fragments of the texts before, and what can be seen in a fragment could be seen in the text.

* `Free` — something is in no text of nodes; `Pass.Cuts` — a pass leaves fragments; `runPasses_free` — then what is in
  no text stays away.
* `Rule.Thorough.rewrite`, `structure_leaves` — what the two ways of going over nodes leave.
* `read_free_of_rule` — what a rule looks for is in no text of a template that is read.
* `read_recognised` — no such text holds an interpolation, a doubled `@` before a known name or a directive that could
  be read.
-/

namespace Stencil

open Argument (Use isGap)

namespace Markup

variable {registry : Registry} {template : Text} {s t : Text} {previous : Option Char}

/-! ## What passes leave -/

/-- Something is in no text of nodes, sections included. -/
def Free (sign : Sign) (nodes : List Node) : Prop := ∀ line t, Item.node (.text line t) ∈ items nodes → ¬ sign.Seen t

/-- Every text that a pass leaves is a fragment of a text. -/
def Pass.Cuts (pass : Pass) : Prop :=
  ∀ nodes out, pass nodes = .ok out → ∀ line t, Item.node (.text line t) ∈ items out →
    ∃ line' s, Item.node (.text line' s) ∈ items nodes ∧ Fragment t s

variable {sign : Sign} {nodes out : List Node} {line : Int}

/-- What is in no text is in none that a pass leaves. -/
theorem Pass.Cuts.free {pass : Pass} (hcuts : pass.Cuts) (hsign : sign.Lawful) (hnodes : Free sign nodes)
    (h : pass nodes = .ok out) : Free sign out := by
  intro line t ht hseen
  obtain ⟨line', s, hs, hfragment⟩ := hcuts nodes out h line t ht
  exact hnodes line' s hs (hfragment.seen hsign hseen)

theorem runPasses_free {ps : List Pass} (hps : ∀ pass ∈ ps, pass.Cuts) (hsign : sign.Lawful) (hnodes : Free sign nodes)
    (h : runPasses ps nodes = .ok out) : Free sign out := by
  induction ps generalizing nodes with
  | nil =>
    obtain rfl := Except.ok.inj h
    exact hnodes
  | cons pass ps ih =>
    obtain ⟨between, hpass, h⟩ := bind_eq_ok.mp h
    obtain ⟨hcuts, hps⟩ := List.forall_mem_cons.mp hps
    exact ih hps (hcuts.free hsign hnodes hpass) h

/-- What one of several passes leaves nothing of is in no text behind all of them. -/
theorem runPasses_free_of_mem {ps : List Pass} (hps : ∀ pass ∈ ps, pass.Cuts) (hsign : sign.Lawful) {pass : Pass}
    (hmem : pass ∈ ps) (hclears : ∀ nodes out, pass nodes = .ok out → Free sign out)
    (h : runPasses ps nodes = .ok out) : Free sign out := by
  obtain ⟨before, behind, rfl⟩ := List.append_of_mem hmem
  rw [runPasses_append] at h
  obtain ⟨between, -, h⟩ := bind_eq_ok.mp h
  obtain ⟨after, hpass, h⟩ := bind_eq_ok.mp h
  exact runPasses_free (fun pass hpass => hps pass (by simp [hpass])) hsign (hclears between after hpass) h

/-! ## Rewriting -/

theorem Tiles.found {α : Type} {Q : Int → Text → α → Prop} {ps : List (Piece α)} {line' : Int} {a : α}
    (h : Tiles Q line s ps) (hmem : .markup line' t (.ok a) ∈ ps) : Q line' t a := by
  induction h with
  | nil => cases hmem
  | plain _ _ ih | declined _ _ ih =>
    rcases List.mem_cons.mp hmem with heq | hmem
    · cases heq
    · exact ih hmem
  | markup _ hQ _ ih =>
    rcases List.mem_cons.mp hmem with heq | hmem
    · cases heq
      exact hQ
    · exact ih hmem
  | failed => simp at hmem

theorem Left.not_declined {α : Type} {rule : Rule α} {ps : List (Piece α)} (h : Left rule sign previous s ps) :
    .declined line t ∉ ps := by
  induction h with
  | nil => exact List.not_mem_nil
  | text _ _ _ _ _ ih | markup _ _ _ _ _ ih =>
    rw [List.mem_cons]
    rintro (heq | hmem)
    · cases heq
    · exact ih hmem
  | failed => simp

/-- A node of pieces is a text that stayed or what was found in markup. -/
theorem mem_nodesOf {ps : List (Piece (List Node))} (h : nodesOf ps = .ok out) {node : Node} (hnode : node ∈ out) :
    (∃ line t, (.plain line t ∈ ps ∨ .declined line t ∈ ps) ∧ node = .text line t) ∨
      ∃ line t found, .markup line t (.ok found) ∈ ps ∧ node ∈ found := by
  induction ps generalizing out with
  | nil =>
    obtain rfl := Except.ok.inj h
    cases hnode
  | cons p ps ih =>
    have hlater : ∀ {rest}, nodesOf ps = .ok rest → node ∈ rest →
        (∃ line t, (.plain line t ∈ p :: ps ∨ .declined line t ∈ p :: ps) ∧ node = .text line t) ∨
          ∃ line t found, .markup line t (.ok found) ∈ p :: ps ∧ node ∈ found := by
      intro rest hrest hnode
      rcases ih hrest hnode with ⟨line, t, hmem, heq⟩ | ⟨line, t, found, hmem, hfound⟩
      · exact .inl ⟨line, t, hmem.imp (List.mem_cons_of_mem _) (List.mem_cons_of_mem _), heq⟩
      · exact .inr ⟨line, t, found, List.mem_cons_of_mem _ hmem, hfound⟩
    cases p with
    | plain line t | declined line t =>
      obtain ⟨rest, hrest, h⟩ := bind_eq_ok.mp h
      obtain rfl := Except.ok.inj h
      rcases List.mem_cons.mp hnode with rfl | hnode
      · exact .inl ⟨line, t, by simp, rfl⟩
      · exact hlater hrest hnode
    | markup line t found =>
      obtain ⟨found', hfound, h⟩ := bind_eq_ok.mp h
      obtain ⟨rest, hrest, h⟩ := bind_eq_ok.mp h
      obtain rfl := Except.ok.inj h
      subst hfound
      rcases List.mem_append.mp hnode with hnode | hnode
      · exact .inr ⟨line, t, found', by simp, hnode⟩
      · exact hlater hrest hnode

/-- A rule that takes whole markup, all that it looks for, and puts no text in its place. -/
structure Rule.Thorough (registry : Registry) (sign : Sign) (rule : Rule (List Node)) : Prop where
  neat : rule.Neat
  takes : rule.Takes sign
  reads : rule.Reads (Lowers registry)

section Rewriting

variable {rule : Rule (List Node)}

theorem Rule.Thorough.rewriteText (hrule : rule.Thorough registry sign) (hsign : sign.Lawful)
    (h : rewriteNode rule (.text line s) = .ok out) {line' : Int} (ht : Item.node (.text line' t) ∈ items out) :
    Fragment t s ∧ ¬ sign.Seen t := by
  rw [rewriteNode] at h
  have hleft : Left rule sign none s (absorbDeclined (pieces rule line s)) :=
    (hrule.neat.cut hrule.takes hsign line s).absorbDeclined fun _ => .none s
  have htiles := (hrule.reads.tiles line s).absorbDeclined
  obtain ⟨node, hnode, hitem⟩ := mem_items.mp ht
  rcases mem_nodesOf h hnode with ⟨line₁, u, hmem, rfl⟩ | ⟨line₁, u, found, hmem, hfound⟩
  · obtain ⟨rfl, rfl⟩ : line' = line₁ ∧ t = u := by simpa using hitem
    exact hleft.fragment hsign (hmem.resolve_right hleft.not_declined)
  · exact ((htiles.found hmem).2 _ (mem_items.mpr ⟨node, hfound, hitem⟩)).elim

mutual

theorem Rule.Thorough.rewriteNode (hrule : rule.Thorough registry sign) (hsign : sign.Lawful) (node : Node)
    {out : List Node} (h : rewriteNode rule node = .ok out) {line : Int} {t : Text}
    (ht : Item.node (.text line t) ∈ items out) :
    (∃ line' s, Item.node (.text line' s) ∈ itemsOf node ∧ Fragment t s) ∧ ¬ sign.Seen t := by
  cases node with
  | text line' s =>
    obtain ⟨hfragment, hseen⟩ := hrule.rewriteText hsign h ht
    exact ⟨⟨line', s, by simp, hfragment⟩, hseen⟩
  | captured line' name label body =>
    rw [Markup.rewriteNode] at h
    obtain ⟨body', hbody, h⟩ := bind_eq_ok.mp h
    obtain rfl := Except.ok.inj h
    have ht : Item.node (.text line t) ∈ items body' := by simpa using ht
    obtain ⟨⟨line₁, s, hs, hfragment⟩, hseen⟩ := hrule.rewrite hsign body hbody ht
    exact ⟨⟨line₁, s, by simp [hs], hfragment⟩, hseen⟩
  | _ =>
    obtain rfl := Except.ok.inj h
    simp at ht

/-- **Rewriting.**  The texts that a rule leaves are fragments, and nothing that it looks for is in them. -/
theorem Rule.Thorough.rewrite (hrule : rule.Thorough registry sign) (hsign : sign.Lawful) (nodes : List Node)
    {out : List Node} (h : rewrite rule nodes = .ok out) {line : Int} {t : Text}
    (ht : Item.node (.text line t) ∈ items out) :
    (∃ line' s, Item.node (.text line' s) ∈ items nodes ∧ Fragment t s) ∧ ¬ sign.Seen t := by
  cases nodes with
  | nil =>
    rw [Markup.rewrite] at h
    obtain rfl := Except.ok.inj h
    cases ht
  | cons node nodes =>
    rw [Markup.rewrite] at h
    obtain ⟨first, hfirst, h⟩ := bind_eq_ok.mp h
    obtain ⟨rest, hrest, h⟩ := bind_eq_ok.mp h
    obtain rfl := Except.ok.inj h
    rw [items_append, List.mem_append] at ht
    rcases ht with ht | ht
    · obtain ⟨⟨line', s, hs, hfragment⟩, hseen⟩ := hrule.rewriteNode hsign node hfirst ht
      exact ⟨⟨line', s, by simp [hs], hfragment⟩, hseen⟩
    · obtain ⟨⟨line', s, hs, hfragment⟩, hseen⟩ := hrule.rewrite hsign nodes hrest ht
      exact ⟨⟨line', s, by simp [hs], hfragment⟩, hseen⟩

end

end Rewriting

/-! ## Structure -/

/-- No node is a section. -/
def Flat (nodes : List Node) : Prop := ∀ line name label body, .captured line name label body ∉ nodes

theorem rewrite_flat {rule : Rule (List Node)} (hrule : rule.Reads fun _ _ found => Flat found) (hnodes : Flat nodes)
    (h : rewrite rule nodes = .ok out) : Flat out := by
  induction nodes generalizing out with
  | nil =>
    rw [Markup.rewrite] at h
    obtain rfl := Except.ok.inj h
    exact hnodes
  | cons node nodes ih =>
    rw [Markup.rewrite] at h
    obtain ⟨first, hfirst, h⟩ := bind_eq_ok.mp h
    obtain ⟨rest, hrest, h⟩ := bind_eq_ok.mp h
    obtain rfl := Except.ok.inj h
    have hrest' : Flat rest := ih (fun line name label body hmem => hnodes _ _ _ _ (List.mem_cons_of_mem _ hmem)) hrest
    intro line name label body hmem
    rcases List.mem_append.mp hmem with hmem | hmem
    · cases node with
      | text line' s =>
        rw [Markup.rewriteNode] at hfirst
        rcases mem_nodesOf hfirst hmem with ⟨_, _, -, heq⟩ | ⟨line₁, u, found, hpiece, hfound⟩
        · cases heq
        · exact ((hrule.tiles line' s).absorbDeclined.found hpiece) _ _ _ _ hfound
      | captured => exact hnodes _ _ _ _ List.mem_cons_self
      | _ =>
        obtain rfl := Except.ok.inj hfirst
        simp at hmem
    · exact hrest' _ _ _ _ hmem

/-- Regions and comments hold no sections. -/
theorem readPlain_flat {source : Text} (h : readPlain source = .ok out) : Flat out := by
  obtain ⟨regions, hregions, hcomment⟩ := bind_eq_ok.mp h
  obtain ⟨verbatims, hverbatim, hprogram⟩ := bind_eq_ok.mp hregions
  have hsource : Flat [.text 1 source] := by simp [Flat]
  have hverbatims : Flat verbatims := by
    refine rewrite_flat ?_ hsource hverbatim
    intro p v hv
    obtain ⟨⟨body, rest⟩, hfound, rfl⟩ := Option.map_eq_some_iff.mp hv
    refine fits_accepted (region?_eq_some hfound).1 (by simp) fun a ha => ?_
    obtain rfl := Except.ok.inj ha
    simp [Flat]
  have hregions' : Flat regions := by
    refine rewrite_flat ?_ hverbatims hprogram
    intro p v hv
    obtain ⟨⟨body, rest⟩, hfound, rfl⟩ := Option.map_eq_some_iff.mp hv
    refine fits_accepted (region?_eq_some hfound).1 (by simp) fun a ha => ?_
    obtain rfl := Except.ok.inj ha
    intro line name label body' hmem
    split at hmem <;> simp at hmem
  refine rewrite_flat ?_ hregions' hcomment
  intro p v hv
  unfold comment at hv
  split at hv
  · cases hv
  case h_2 inside hafter =>
    obtain ⟨⟨body, rest⟩, hfound, rfl⟩ := Option.map_eq_some_iff.mp hv
    have hwhole : p.rest = "\x7b\x7b--" ++ (body ++ "--\x7d\x7d") ++ rest := by
      rw [Text.after?_eq_some.mp hafter, (cut?_eq_some hfound).1]
      simp
    refine fits_accepted hwhole (by simp) fun a ha => ?_
    obtain rfl := Except.ok.inj ha
    simp [Flat]

/-- What an outline holds that is text was a node before. -/
theorem outline_texts {events : List Event} {o o' : Outline}
    (h : events.foldlM (Outline.step template) o = .ok o') {i : Item} (hi : i ∈ o'.items) (htext : i.isText = true) :
    i ∈ o.items ∨ ∃ node, .node node ∈ events ∧ i ∈ itemsOf node := by
  induction events generalizing o with
  | nil =>
    obtain rfl := Except.ok.inj h
    exact .inl hi
  | cons event events ih =>
    obtain ⟨o₁, hstep, h⟩ := bind_eq_ok.mp h
    rcases ih h with hmem | ⟨node, hnode, hmem⟩
    · cases event with
      | node n =>
        obtain rfl := Except.ok.inj hstep
        rw [Outline.items_add, List.mem_append] at hmem
        exact hmem.imp id fun hmem => ⟨n, List.mem_cons_self, hmem⟩
      | mark line m excerpt =>
        obtain ⟨new, hnew, hfinal⟩ := Outline.items_take hstep
        rw [hnew, List.mem_append] at hmem
        refine hmem.imp id fun hmem => ?_
        rw [(hfinal i hmem).not_isText] at htext
        cases htext
      | failure e => cases hstep
    · exact .inr ⟨node, List.mem_cons_of_mem _ hnode, hmem⟩

/-- What grouping leaves of a text as text. -/
theorem mark_left (template : Text) (line : Int) (s : Text) : Left (mark template) (directiveSign structuralUses) none s
    (absorbAfterDeclined (pieces (mark template) line s)) :=
  (mark_neat.cut mark_takes (directiveSign_lawful _) line s).absorbAfterDeclined fun _ => .none s

/-- **Structure.**  The texts that grouping into sections leaves are fragments, with no structural directive in them. -/
theorem structure_leaves (hflat : Flat nodes) (h : structure? template nodes = .ok out)
    (ht : Item.node (.text line t) ∈ items out) :
    (∃ line' s, Item.node (.text line' s) ∈ items nodes ∧ Fragment t s) ∧ ¬ (directiveSign structuralUses).Seen t := by
  obtain ⟨o, ho, hout⟩ := exists_outline h
  rw [hout] at ht
  rcases outline_texts ho ht rfl with hmem | ⟨node, hevent, hitem⟩
  · simp [Outline.items] at hmem
  · obtain ⟨source, hsource, hevent⟩ := List.mem_flatMap.mp hevent
    cases source with
    | text line' s =>
      have hleft := mark_left template line' s
      obtain ⟨piece, hpiece, heq⟩ := List.mem_map.mp hevent
      cases piece with
      | plain line₁ u =>
        obtain rfl := Event.node.inj heq
        obtain ⟨rfl, rfl⟩ : line = line₁ ∧ t = u := by simpa using hitem
        obtain ⟨hfragment, hseen⟩ := hleft.fragment (directiveSign_lawful _) hpiece
        exact ⟨⟨line', s, mem_items.mpr ⟨_, hsource, by simp⟩, hfragment⟩, hseen⟩
      | declined => exact absurd hpiece hleft.not_declined
      | markup line₁ u found => cases found <;> cases heq
    | captured => exact absurd hsource (hflat _ _ _ _)
    | _ =>
      obtain rfl := Event.node.inj (List.mem_singleton.mp hevent)
      simp at hitem

/-! ## Reading a template -/

/-- The families of built-in directives. -/
def families : List (List Directive) :=
  [csrf, json, control, auth, parent, permission, component, componentSlot, push]

theorem families_flatten : families.flatten = innerDirectives := by simp [families, innerDirectives]

/-- The rules behind structure, in order. -/
def rulesBehindStructure (registry : Registry) (template : Text) : List (Rule (List Node)) :=
  rulesBeforeIncludes registry template ++ [(inclusion template).map Prod.snd] ++ rulesAfterIncludes registry template

/-- What holds of the registered directives, of every family of built-in ones, of interpolations, of includes and of
doubled signs holds of every rule behind structure. -/
theorem forall_rulesBehindStructure {Property : Rule (List Node) → Prop}
    (hcustom : Property (family template (custom registry)))
    (hinner : ∀ ds, ds ⊆ innerDirectives → Property (family template ds)) (hecho : Property (echo registry template))
    (hraw : Property (rawEcho template)) (hinclude : Property ((inclusion template).map Prod.snd))
    (hescaped : Property (escaped (knownNames registry))) :
    ∀ rule ∈ rulesBehindStructure registry template, Property rule := by
  simp only [rulesBehindStructure, List.forall_mem_append, List.forall_mem_singleton]
  exact ⟨⟨forall_rulesBeforeIncludes hcustom hinner hecho hraw, hinclude⟩, forall_rulesAfterIncludes hinner hescaped⟩

theorem custom_word (hnames : ∀ name ∈ registry.directives.names, IsWordName name) :
    ∀ d ∈ custom registry, IsWordName d.name := by
  intro d hd
  obtain ⟨entry, hentry, rfl⟩ := List.mem_map.mp hd
  exact hnames _ (List.mem_map_of_mem hentry)

theorem custom_thorough (hnames : ∀ name ∈ registry.directives.names, IsWordName name) :
    (family template (custom registry)).Thorough registry (directiveSign (usesOf (custom registry))) :=
  ⟨family_neat (custom_word hnames), custom_takes, customFamily_reads⟩

theorem innerFamily_thorough {ds : List Directive} (hds : ds ⊆ innerDirectives) :
    (family template ds).Thorough registry (directiveSign (usesOf ds)) :=
  ⟨family_neat fun d hd => innerNames_word d (hds hd), innerFamily_takes hds, innerFamily_reads hds⟩

theorem subset_of_mem_families {ds : List Directive} (h : ds ∈ families) : ds ⊆ innerDirectives := by
  intro d hd
  rw [← families_flatten]
  exact List.mem_flatten_of_mem h hd

theorem echo_thorough : (echo registry template).Thorough registry (delimitedSign "\x7b\x7b" "\x7d\x7d") :=
  ⟨echo_neat, echo_takes, echo_reads⟩

theorem rawEcho_thorough : (rawEcho template).Thorough registry (delimitedSign "\x7b!!" "!!\x7d") :=
  ⟨rawEcho_neat, rawEcho_takes, rawEcho_reads⟩

theorem inclusion_thorough :
    ((inclusion template).map Prod.snd).Thorough registry (directiveSign [("include", .required)]) :=
  ⟨inclusion_neat.map _, inclusion_takes.map _, inclusion_reads.map fun _ _ _ h => h⟩

theorem knownNames_word (hnames : ∀ name ∈ registry.directives.names, IsWordName name) :
    ∀ name ∈ knownNames registry, IsWordName name := fun name hname =>
  (List.mem_append.mp hname).elim isWordName_of_builtin (hnames name)

theorem escaped_thorough (hnames : ∀ name ∈ registry.directives.names, IsWordName name) :
    (escaped (knownNames registry)).Thorough registry (doubledSign (knownNames registry)) :=
  ⟨escaped_neat (knownNames_word hnames), escaped_takes, escaped_reads⟩

/-- Every rule behind structure takes all of something. -/
theorem exists_thorough (hnames : ∀ name ∈ registry.directives.names, IsWordName name) {rule : Rule (List Node)}
    (h : rule ∈ rulesBehindStructure registry template) : ∃ sign : Sign, sign.Lawful ∧ rule.Thorough registry sign := by
  have hall : ∀ rule ∈ rulesBehindStructure registry template,
      ∃ sign : Sign, sign.Lawful ∧ rule.Thorough registry sign :=
    forall_rulesBehindStructure ⟨_, directiveSign_lawful _, custom_thorough hnames⟩
      (fun _ hds => ⟨_, directiveSign_lawful _, innerFamily_thorough hds⟩) ⟨_, delimitedSign_lawful rfl _, echo_thorough⟩
      ⟨_, delimitedSign_lawful rfl _, rawEcho_thorough⟩ ⟨_, directiveSign_lawful _, inclusion_thorough⟩
      ⟨_, doubledSign_lawful _, escaped_thorough hnames⟩
  exact hall rule h

/-- Reading a template runs the rules behind structure. -/
theorem read_nodes_eq_structure (registry : Registry) (template source : Text) :
    (read registry template source).nodes =
      readStructure template source >>= runPasses ((rulesBehindStructure registry template).map rewrite) := by
  have hpasses : passes registry template =
      [rewrite comment, structure? template] ++ (rulesBehindStructure registry template).map rewrite := by
    simp [passes, rulesBehindStructure]
  have htwo : ∀ regions, runPasses [rewrite comment, structure? template] regions =
      rewrite comment regions >>= structure? template := by
    intro regions
    rw [← List.singleton_append, runPasses_append, runPasses_one, runPasses_one]
  rw [read_nodes_eq, hpasses]
  simp only [readStructure, readPlain, bind_assoc]
  exact bind_congr fun regions => by rw [runPasses_append, htwo, bind_assoc]

section Reading

variable {source : Text}

theorem rules_cut (hnames : ∀ name ∈ registry.directives.names, IsWordName name) :
    ∀ pass ∈ (rulesBehindStructure registry template).map rewrite, Pass.Cuts pass := by
  intro pass hpass nodes out h line t ht
  obtain ⟨rule, hrule, rfl⟩ := List.mem_map.mp hpass
  obtain ⟨sign, hsign, hthorough⟩ := exists_thorough hnames hrule
  exact (hthorough.rewrite hsign nodes h ht).1

/-- What a rule behind structure looks for is in no text of a template that is read. -/
theorem read_free_of_rule (hnames : ∀ name ∈ registry.directives.names, IsWordName name)
    (h : (read registry template source).nodes = .ok nodes) (hsign : sign.Lawful) {rule : Rule (List Node)}
    (hmem : rule ∈ rulesBehindStructure registry template) (hrule : rule.Thorough registry sign) : Free sign nodes := by
  rw [read_nodes_eq_structure] at h
  obtain ⟨structured, -, h⟩ := bind_eq_ok.mp h
  refine runPasses_free_of_mem (rules_cut hnames) hsign (List.mem_map_of_mem hmem) ?_ h
  exact fun nodes out hout line t ht => (hrule.rewrite hsign nodes hout ht).2

/-- Structural directives are in no text of a template that is read. -/
theorem read_free_of_structure (hnames : ∀ name ∈ registry.directives.names, IsWordName name)
    (h : (read registry template source).nodes = .ok nodes) : Free (directiveSign structuralUses) nodes := by
  rw [read_nodes_eq_structure] at h
  obtain ⟨structured, hstructured, h⟩ := bind_eq_ok.mp h
  obtain ⟨plain, hplain, hstructured⟩ := bind_eq_ok.mp hstructured
  refine runPasses_free (rules_cut hnames) (directiveSign_lawful _) (fun line t ht => ?_) h
  exact (structure_leaves (readPlain_flat hplain) hstructured ht).2

/-- A directive of several is one of them. -/
theorem directiveSign_mono {uses uses' : List (Text × Use)} (h : uses ⊆ uses')
    (hfree : Free (directiveSign uses') nodes) :
    Free (directiveSign uses) nodes := by
  rintro line t ht ⟨before, rest, hsplit, hprevious, name, use, after, hmem, hrest⟩
  exact hfree line t ht ⟨before, rest, hsplit, hprevious, name, use, after, h hmem, hrest⟩

/-- No directive that can be read is in a text of a template that is read. -/
theorem read_free_of_use (hnames : ∀ name ∈ registry.directives.names, IsWordName name)
    (h : (read registry template source).nodes = .ok nodes) {name : Text} {use : Use}
    (huse : (name, use) ∈ plainUses registry ++ breakingUses) : Free (directiveSign [(name, use)]) nodes := by
  have hstructure : ∀ {u}, u ∈ structuralUses → Free (directiveSign [u]) nodes := fun hu =>
    directiveSign_mono (by simpa using hu) (read_free_of_structure hnames h)
  have hfamily : ∀ {ds d}, d ∈ ds → ds ∈ families → Free (directiveSign [(d.name, d.lowering.use)]) nodes := by
    intro ds d hd hds
    have hmem : family template ds ∈ rulesBehindStructure registry template := by
      simp only [families, List.mem_cons, List.not_mem_nil, or_false] at hds
      rcases hds with rfl | rfl | rfl | rfl | rfl | rfl | rfl | rfl | rfl <;>
        simp [rulesBehindStructure, rulesBeforeIncludes, rulesAfterIncludes]
    have hfree := read_free_of_rule hnames h (directiveSign_lawful _) hmem
      (innerFamily_thorough (subset_of_mem_families hds))
    exact directiveSign_mono (by simpa [usesOf] using ⟨d, hd, rfl, rfl⟩) hfree
  simp only [plainUses, List.mem_append, List.mem_cons, List.map_append] at huse
  rcases huse with (heq | heq | huse | huse) | huse
  · have hmem : (inclusion template).map Prod.snd ∈ rulesBehindStructure registry template := by
      simp [rulesBehindStructure]
    rw [heq]
    exact read_free_of_rule hnames h (directiveSign_lawful _) hmem inclusion_thorough
  · exact hstructure (by simp [structuralUses, heq])
  · have hmem : family template (custom registry) ∈ rulesBehindStructure registry template := by
      simp [rulesBehindStructure, rulesBeforeIncludes]
    have hfree := read_free_of_rule hnames h (directiveSign_lawful _) hmem (custom_thorough hnames)
    exact directiveSign_mono (by simpa [usesOf] using huse) hfree
  · obtain ⟨d, hd, heq⟩ := List.mem_map.mp huse
    obtain ⟨rfl, rfl⟩ := Prod.mk.inj heq
    rw [← families_flatten] at hd
    obtain ⟨ds, hds, hd⟩ := List.mem_flatten.mp hd
    exact hfamily hd hds
  · exact hstructure (List.mem_cons_of_mem _ huse)

theorem use_of_registered {name : Text} (h : name ∈ registry.directives.names) :
    (name, Use.optional) ∈ plainUses registry ++ breakingUses := by
  obtain ⟨⟨name, handler⟩, hentry, rfl⟩ := List.mem_map.mp h
  have hcustom : (name, Use.optional) ∈ usesOf (custom registry ++ innerDirectives) :=
    List.mem_map_of_mem (f := fun d : Directive => (d.name, d.lowering.use))
      (List.mem_append_left _ (List.mem_map_of_mem hentry))
  exact List.mem_append_left _ (List.mem_cons_of_mem _ (List.mem_cons_of_mem _ hcustom))

/-- Every known name is that of a directive with a use, or opens or closes a region. -/
theorem use_of_known {name : Text} (h : name ∈ knownNames registry) :
    name ∈ [("verbatim" : Text), "endverbatim", "python", "endpython"] ∨
      ∃ use, (name, use) ∈ plainUses registry ++ breakingUses := by
  simp only [knownNames, builtinNames, List.mem_append] at h
  rcases h with ((hinner | hinclude) | houter) | hregistered
  · obtain ⟨d, hd, rfl⟩ := List.mem_map.mp hinner
    refine .inr ⟨d.lowering.use, List.mem_append_left _ (List.mem_cons_of_mem _ (List.mem_cons_of_mem _ ?_))⟩
    exact List.mem_map_of_mem (f := fun d : Directive => (d.name, d.lowering.use)) (List.mem_append_right _ hd)
  · rw [List.mem_singleton.mp hinclude]
    exact .inr ⟨.required, by simp [plainUses]⟩
  · simp only [outerNames, List.mem_cons, List.not_mem_nil, or_false] at houter
    rcases houter with rfl | rfl | rfl | rfl | rfl | rfl | rfl | rfl | rfl
    · exact .inr ⟨.required, by simp [breakingUses]⟩
    · exact .inr ⟨.required, by simp [breakingUses]⟩
    · exact .inr ⟨.bare, by simp [breakingUses]⟩
    · exact .inr ⟨.bare, by simp [breakingUses]⟩
    · exact .inr ⟨.required, by simp [plainUses]⟩
    all_goals exact .inl (by simp)
  · exact .inr ⟨_, use_of_registered hregistered⟩

/-- **Recognition is complete.**  In every text of a template that is read, sections included, there is no interpolation,
no doubled `@` before a known name behind which a word ends, and no known name behind a single `@` with such an end,
unless it is not registered and either opens or closes a region or needs a group that does not follow. -/
theorem read_recognised (registry : Registry) (template source : Text) {nodes : List Node}
    (hnames : ∀ name ∈ registry.directives.names, IsWordName name)
    (h : (read registry template source).nodes = .ok nodes) {line : Int} {t : Text}
    (ht : Item.node (.text line t) ∈ items nodes) :
    (∀ before inside after, t ≠ before ++ "\x7b\x7b" ++ inside ++ "\x7d\x7d" ++ after) ∧
    (∀ before inside after, t ≠ before ++ "\x7b!!" ++ inside ++ "!!\x7d" ++ after) ∧
    (∀ before name after, name ∈ knownNames registry → t = before ++ '@' :: '@' :: name ++ after →
      ¬ EndsWord name after) ∧
    ∀ before name after, name ∈ knownNames registry → t = before ++ '@' :: name ++ after →
      before.getLast? ≠ some '@' → EndsWord name after →
      name ∉ registry.directives.names ∧
        (name ∈ [("verbatim" : Text), "endverbatim", "python", "endpython"] ∨
          (name, Use.required) ∈ plainUses registry ++ breakingUses ∧ (after.dropWhile isGap).head? ≠ some '(') := by
  have hmem : ∀ {rule}, rule ∈ rulesBehindStructure registry template → ∀ {sign : Sign}, sign.Lawful →
      rule.Thorough registry sign → ¬ sign.Seen t := fun hrule _ hsign hthorough =>
    read_free_of_rule hnames h hsign hrule hthorough line t ht
  have hread : ∀ {before name use after}, (name, use) ∈ plainUses registry ++ breakingUses →
      t = before ++ '@' :: name ++ after → before.getLast? ≠ some '@' → EndsWord name after →
      use = .required ∧ ¬ Opens after := by
    intro before name use after huse hsplit hprevious hends
    by_contra hnot
    have hopens : use = .required → Opens after := fun hrequired => by
      by_contra hopens
      exact hnot ⟨hrequired, hopens⟩
    have hwhole : t = before ++ ('@' :: name ++ after) := by rw [hsplit, List.append_assoc]
    exact read_free_of_use hnames h huse line t ht
      ⟨before, _, hwhole, hprevious, name, use, after, List.mem_singleton_self _, rfl, hends, hopens⟩
  refine ⟨fun before inside after hsplit => ?_, fun before inside after hsplit => ?_,
    fun before name after hname hsplit hends => ?_, fun before name after hname hsplit hprevious hends => ⟨?_, ?_⟩⟩
  · have hthorough : (echo registry template).Thorough registry (delimitedSign "\x7b\x7b" "\x7d\x7d") := echo_thorough
    have hecho : ¬ (delimitedSign "\x7b\x7b" "\x7d\x7d").Seen t :=
      hmem (by simp [rulesBehindStructure, rulesBeforeIncludes]) (delimitedSign_lawful rfl _) hthorough
    exact hecho ⟨before, _, by rw [hsplit]; simp only [List.append_assoc], inside, after, rfl⟩
  · have hthorough : (rawEcho template).Thorough registry (delimitedSign "\x7b!!" "!!\x7d") := rawEcho_thorough
    have hraw : ¬ (delimitedSign "\x7b!!" "!!\x7d").Seen t :=
      hmem (by simp [rulesBehindStructure, rulesBeforeIncludes]) (delimitedSign_lawful rfl _) hthorough
    exact hraw ⟨before, _, by rw [hsplit]; simp only [List.append_assoc], inside, after, rfl⟩
  · refine hmem (by simp [rulesBehindStructure, rulesAfterIncludes]) (doubledSign_lawful _) (escaped_thorough hnames)
      ⟨before, _, ?_, name, hname, after, rfl, hends⟩
    rw [hsplit, List.append_assoc]
  · intro hregistered
    cases (hread (use_of_registered hregistered) hsplit hprevious hends).1
  · rcases use_of_known hname with hregion | ⟨use, huse⟩
    · exact .inl hregion
    · obtain ⟨rfl, hopens⟩ := hread huse hsplit hprevious hends
      exact .inr ⟨huse, hopens⟩

end Reading

/-- A registry with a directive of its own. -/
def badgeRegistry : Registry := { directives := [("badge", fun _ => .ok (some "_echo('new')".toList))] }

/-- What a template is read as in which a condition has no group. -/
def badgeNodes : List Node :=
  [.text 1 "a", .statement 1 "_echo('new')", .text 1 " @if ", .echo 1 "x" true, .verbatim 1 "@csrf"]

theorem read_badge : (read badgeRegistry "page" "a@badge @if {{ x }}@@csrf").nodes = .ok badgeNodes := by cbv

/-- The condition stays because it needs a group that does not follow. -/
theorem read_recognised_badge :
    Item.node (.text 1 " @if ") ∈ items badgeNodes ∧ ("if" : Text) ∉ badgeRegistry.directives.names ∧
      ((("if" : Text) ∈ [("verbatim" : Text), "endverbatim", "python", "endpython"]) ∨
        (("if" : Text), Argument.Use.required) ∈ plainUses badgeRegistry ++ breakingUses ∧
          ((" " : Text).dropWhile Argument.isGap).head? ≠ some '(') := by
  have hnames : ∀ name ∈ badgeRegistry.directives.names, IsWordName name := by
    have hall : (badgeRegistry.directives.names.all fun name => name.all Text.isWord) = true := by decide +kernel
    exact fun name hname => List.all_eq_true.mp (List.all_eq_true.mp hall name hname)
  have ht : Item.node (.text 1 " @if ") ∈ items badgeNodes := by simp [badgeNodes, items]
  have hknown : ("if" : Text) ∈ knownNames badgeRegistry := by decide
  have hends : EndsWord "if" " " := by
    unfold EndsWord
    decide +kernel
  exact ⟨ht, (read_recognised badgeRegistry "page" "a@badge @if {{ x }}@@csrf" hnames read_badge ht).2.2.2
    " " "if" " " hknown rfl (by decide) hends⟩

end Markup
end Stencil
