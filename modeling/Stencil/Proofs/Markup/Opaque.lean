import Stencil.Proofs.Markup.Grouping

/-!
# Arguments as written

A directive with a group of arguments at the head of a template becomes what its pass builds from the arguments as they
are written, whatever stands in them, as long as it is still text when the pass comes.  The passes go over the text one
after the other, and to those before it what stands in the group is text like any other.

* `includeDirective`, `argumentFamilies` — the families of built-in directives, that of includes among them.
* `Directive.builds` — what a directive builds from its arguments; `family_at` — how it is read where it stands.
* `Settled` — a node that no pass changes; `rewriteAll_settled` — such nodes stay at the head.
* `Fronted` — nodes begin with what a source begins with; `rewrite_fronted`, `structure_fronted` — passes that say
  nothing at the head leave it so.
* `Rule.Decides` — a rule passes over each head of a directive, or takes it; `rules_decide` — every rule does.
* `StillText` — what a source begins with is still text when a pass comes.
* `arguments_as_written` — the nodes of a directive at the head of a source; `address_read_early` — an earlier pass may
  have read what stands in its group.
-/

namespace Stencil

open Argument (Use isGap)

namespace Markup

variable {α : Type} {registry : Registry} {template : Text} {line : Int} {previous : Option Char} {s t : Text}
  {d : Directive} {ds : List Directive}

/-! ## Built-in directives -/

/-- The directive that prints another template. -/
def includeDirective : Directive :=
  ⟨"include", .required fun line args => (inclusionOf ⟨none, line, []⟩ args).map Prod.snd⟩

/-- The families of built-in directives, one for each pass. -/
def argumentFamilies : List (List Directive) := families ++ [[includeDirective]]

theorem inclusionOf_snd (p : Place) (args : Text) :
    (inclusionOf p args).map Prod.snd = (inclusionOf ⟨none, p.line, []⟩ args).map Prod.snd := by
  unfold inclusionOf
  simp only
  generalize (Argument.literal ((Argument.arguments (some args)).headD [])).mapError Raised.fault = literal
  rcases literal with e | _ | name <;> rfl

theorem accept_map {β : Type} (template directive after : Text) (p : Place) (found : Except Raised α) (f : α → β) :
    some (Verdict.accepted (p.rest.length - after.length)
      ((found.mapError (Raised.locate template p.line p.excerpt directive)).map f)) =
    some (p.accept template directive after (found.map f)) := by cases found <;> rfl

/-- What the directive of includes becomes at a place. -/
theorem includeDirective_read (template : Text) (p : Place) (rest : Text) :
    includeDirective.read template p rest =
      match Argument.after .required rest with
      | .error fault => p.accept template "include" rest (.error (.scan fault.message))
      | .ok (none, _) => .declined (p.rest.length - rest.length)
      | .ok (some args, after) =>
        p.accept template "include" after (if Text.blank args then expansion "include" "missing arguments" else
          (inclusionOf ⟨none, p.line, []⟩ args).map Prod.snd) := rfl

/-- Includes are read as a family of their own. -/
theorem inclusion_eq_family (template : Text) :
    (inclusion template).map Prod.snd = family template [includeDirective] := by
  funext p
  have hnames : byLength ([includeDirective].map Directive.name) = [("include" : Text)] := List.mergeSort_singleton _
  unfold Rule.map inclusion family
  rw [hnames]
  cases hat : directiveAt? ["include"] p.previous p.rest with
  | none =>
    simp only
    split <;> rfl
  | some found =>
    obtain ⟨name, rest⟩ := found
    obtain ⟨hmem, hp⟩ := directiveAt?_eq_some hat
    obtain rfl := List.mem_singleton.mp hmem
    have hfind : [includeDirective].find? (·.name = "include".toList) = some includeDirective := rfl
    simp only [hp, List.cons_append, hfind, Option.map_some, includeDirective_read]
    cases hafter : Argument.after .required rest with
    | error fault => rfl
    | ok found =>
      obtain ⟨_ | args, after⟩ := found
      · simp only
      · have hbuilt : (if Text.blank args then expansion "include" "missing arguments" else inclusionOf p args).map
            Prod.snd = if Text.blank args then expansion "include" "missing arguments" else
              (inclusionOf ⟨none, p.line, []⟩ args).map Prod.snd := by
          split
          · rfl
          · exact inclusionOf_snd p args
        simp only [← hbuilt]
        exact accept_map ..

/-- What a directive builds on a line from the arguments of a group. -/
def Directive.builds (d : Directive) (line : Int) (args : Text) : Except Raised (List Node) :=
  match d.lowering with
  | .bare nodes => .ok (nodes line)
  | .optional nodes => nodes line (some args)
  | .required nodes => if Text.blank args then expansion d.name "missing arguments" else nodes line args

/-- A directive with a group of arguments, as it is written. -/
def Directive.written (d : Directive) (args : Text) : Text := '@' :: d.name ++ '(' :: args ++ [')']

/-- A directive takes the group behind its name, and builds nodes from what stands in it. -/
theorem Directive.read_group (huse : d.lowering.use ≠ .bare) {args : Text} (hargs : Argument.Items args)
    (template : Text) (p : Place) (rest : Text) :
    d.read template p ('(' :: args ++ ')' :: rest) = p.accept template d.name rest (d.builds p.line args) := by
  have hafter : Argument.after d.lowering.use ('(' :: args ++ ')' :: rest) = .ok (some args, rest) :=
    @after_group _ huse [] args nofun hargs rest
  unfold Directive.read Directive.builds
  cases hlowering : d.lowering with
  | bare nodes => exact absurd (by rw [hlowering]; rfl) huse
  | optional nodes =>
    rw [hlowering] at hafter
    have hafter : Argument.after .optional ('(' :: args ++ ')' :: rest) = .ok (some args, rest) := hafter
    simp only [hafter]
  | required nodes =>
    rw [hlowering] at hafter
    have hafter : Argument.after .required ('(' :: args ++ ')' :: rest) = .ok (some args, rest) := hafter
    simp only [hafter]

/-- The names of a family are words, and different from each other. -/
structure Distinct (ds : List Directive) : Prop where
  word : ∀ d ∈ ds, IsWordName d.name
  ne_nil : ∀ d ∈ ds, d.name ≠ []
  nodup : (ds.map Directive.name).Nodup

theorem argumentFamilies_distinct (hds : ds ∈ argumentFamilies) : Distinct ds := by
  rcases List.mem_append.mp hds with hds | hds
  · have hsublist : ds.Sublist innerDirectives := by
      rw [← families_flatten]
      exact List.sublist_flatten_of_mem hds
    exact ⟨fun d hd => innerNames_word d (hsublist.subset hd), fun d hd => innerNames_ne_nil d (hsublist.subset hd),
      innerNames_nodup.sublist (hsublist.map _)⟩
  · obtain rfl := List.mem_singleton.mp hds
    have hword : IsWordName includeDirective.name := isWordName_of_builtin (by decide)
    have hne : includeDirective.name ≠ [] := List.cons_ne_nil _ _
    exact ⟨List.forall_mem_singleton.mpr hword, List.forall_mem_singleton.mpr hne, List.nodup_singleton _⟩

/-- Where a word is the name of a directive, the directive is found. -/
theorem directiveAt?_of_distinct (hds : Distinct ds) (hd : d ∈ ds) (hprevious : previous ≠ some '@') {rest : Text}
    (hends : EndsWord d.name rest) :
    directiveAt? (byLength (ds.map Directive.name)) previous ('@' :: d.name ++ rest) = some (d.name, rest) := by
  have hname : d.name ∈ byLength (ds.map Directive.name) := mem_byLength.mpr (List.mem_map_of_mem hd)
  obtain ⟨⟨name', rest'⟩, hfound⟩ := exists_directiveAt? hname hprevious hends
  obtain ⟨hname', hsplit, -, hends'⟩ := directiveAt?_eq_some' hfound
  obtain ⟨d', hd', rfl⟩ := List.mem_map.mp (mem_byLength.mp hname')
  obtain ⟨heq, rfl⟩ := name_unique (hds.word d hd) (hds.word d' hd') (hds.ne_nil d hd) (hds.ne_nil d' hd') hends hends'
    (List.cons.inj hsplit).2
  rw [hfound, heq]

theorem find?_of_distinct (hds : Distinct ds) (hd : d ∈ ds) : ds.find? (·.name = d.name) = some d := by
  obtain ⟨d', hfind⟩ := Option.isSome_iff_exists.mp
    (List.find?_isSome.mpr ⟨d, hd, decide_eq_true rfl⟩ : (ds.find? (·.name = d.name)).isSome)
  have hsame : d'.name = d.name := by simpa using List.find?_some hfind
  rw [hfind, List.inj_on_of_nodup_map hds.nodup (List.mem_of_find?_eq_some hfind) hd hsame]

/-- A family reads a directive of its own where it stands. -/
theorem family_at (hds : Distinct ds) (hd : d ∈ ds) (hprevious : previous ≠ some '@') {rest : Text}
    (hends : EndsWord d.name rest) (template : Text) (line : Int) :
    family template ds ⟨previous, line, '@' :: d.name ++ rest⟩ =
      some (d.read template ⟨previous, line, '@' :: d.name ++ rest⟩ rest) := by
  have hat := directiveAt?_of_distinct hds hd hprevious hends
  have hfind := find?_of_distinct hds hd
  unfold family
  simp only [List.cons_append] at hat ⊢
  rw [hat]
  simp only [hfind, Option.map_some]

/-! ## Nodes that no pass changes -/

/-- A node that no pass changes: neither text nor a section. -/
@[simp] def Settled : Node → Prop
  | .text .. | .captured .. => False
  | _ => True

theorem Settled.rewriteNode_eq {n : Node} (h : Settled n) (rule : Rule (List Node)) : rewriteNode rule n = .ok [n] := by
  cases n with
  | text | captured => exact h.elim
  | _ => rfl

/-- A directive builds nodes that no pass changes. -/
def Lowering.Settles : Lowering → Prop
  | .bare nodes => ∀ line, ∀ n ∈ nodes line, Settled n
  | .optional nodes => ∀ line args found, nodes line args = .ok found → ∀ n ∈ found, Settled n
  | .required nodes => ∀ line args found, nodes line args = .ok found → ∀ n ∈ found, Settled n

theorem settles_bare {node : Int → Node} (h : ∀ line, Settled (node line)) :
    (Lowering.bare fun line => [node line]).Settles := by
  intro line n hn
  obtain rfl := List.mem_singleton.mp hn
  exact h line

/-- A directive that always becomes one such node. -/
theorem settles_required {node : Int → Text → Node} (h : ∀ line args, Settled (node line args)) :
    (Lowering.required fun line args => .ok [node line args]).Settles := by
  intro line args found hfound n hn
  obtain rfl := Except.ok.inj hfound
  obtain rfl := List.mem_singleton.mp hn
  exact h line args

theorem closer_settles (name kind : Text) : (closer name kind).lowering.Settles := settles_bare fun _ => trivial

theorem opener_settles (name before after : Text) : (opener name before after).lowering.Settles :=
  settles_required fun _ _ => trivial

theorem bareOpener_settles (name header : Text) : (bareOpener name header).lowering.Settles :=
  settles_bare fun _ => trivial

theorem printer_settles (name expr : Text) : (printer name expr).lowering.Settles := settles_bare fun _ => trivial

theorem callPrinter_settles (name function : Text) : (callPrinter name function).lowering.Settles :=
  settles_required fun _ _ => trivial

theorem caller_settles (name function : Text) : (caller name function).lowering.Settles :=
  settles_required fun _ _ => trivial

theorem bareStatement_settles (name code : Text) : (bareStatement name code).lowering.Settles :=
  settles_bare fun _ => trivial

theorem loop_settles (name before after : Text) (prologue : List Text) :
    (loop name before after prologue).lowering.Settles := by
  intro line args found hfound
  simp only at hfound
  split at hfound
  · cases hfound
  · obtain rfl := Except.ok.inj hfound
    simp

theorem jump_settles (name : Text) : (jump name).lowering.Settles := by
  intro line args found hfound
  simp only at hfound
  split at hfound <;>
  · obtain rfl := Except.ok.inj hfound
    simp

theorem json_settles : ∀ d ∈ json, d.lowering.Settles := by
  simp only [json, List.forall_mem_singleton]
  exact settles_required fun _ _ => trivial

theorem control_settles : ∀ d ∈ control, d.lowering.Settles := by
  simp only [control, List.forall_mem_cons, closer_settles, opener_settles, loop_settles, jump_settles, true_and]
  exact ⟨settles_required fun _ _ => trivial, settles_bare fun _ => trivial, settles_bare fun _ => trivial, by simp⟩

theorem innerDirectives_settle : ∀ d ∈ innerDirectives, d.lowering.Settles := by
  simp only [innerDirectives, csrf, auth, parent, permission, component, componentSlot, push, List.forall_mem_append,
    List.forall_mem_cons, closer_settles, opener_settles, bareOpener_settles, printer_settles, callPrinter_settles,
    caller_settles, bareStatement_settles, List.not_mem_nil, IsEmpty.forall_iff, implies_true, true_and, and_true]
  exact ⟨json_settles, control_settles⟩

theorem includeDirective_settles : includeDirective.lowering.Settles := by
  intro line args found hfound
  obtain ⟨both, hboth, rfl⟩ := map_eq_ok.mp hfound
  obtain ⟨-, -, data, hnodes⟩ := inclusionOf_eq_ok hboth
  simp [hnodes]

theorem builds_settled (hds : ds ∈ argumentFamilies) (hd : d ∈ ds) {args : Text} {built : List Node}
    (h : d.builds line args = .ok built) : ∀ n ∈ built, Settled n := by
  have hsettles : d.lowering.Settles := by
    rcases List.mem_append.mp hds with hds | hds
    · exact innerDirectives_settle d (subset_of_mem_families hds hd)
    · obtain rfl := List.mem_singleton.mp hds
      exact List.mem_singleton.mp hd ▸ includeDirective_settles
  unfold Directive.builds at h
  cases hlowering : d.lowering with
  | bare nodes =>
    rw [hlowering] at hsettles h
    obtain rfl := Except.ok.inj h
    exact hsettles line
  | optional nodes =>
    rw [hlowering] at hsettles h
    exact hsettles _ _ _ h
  | required nodes =>
    rw [hlowering] at hsettles h
    simp only at h
    split at h
    · cases h
    · exact hsettles _ _ _ h

variable {rule : Rule (List Node)} {rules : List (Rule (List Node))} {built nodes out : List Node}

/-- Such nodes at the head stay there. -/
theorem rewrite_settled (hbuilt : ∀ n ∈ built, Settled n) :
    rewrite rule (built ++ nodes) = (rewrite rule nodes).map (built ++ ·) := by
  induction built with
  | nil => cases hrest : rewrite rule nodes <;> simp [hrest, Except.map]
  | cons n built ih =>
    obtain ⟨hn, hbuilt⟩ := List.forall_mem_cons.mp hbuilt
    rw [List.cons_append, rewrite, hn.rewriteNode_eq, ih hbuilt]
    cases rewrite rule nodes <;> rfl

theorem rewriteAll_settled (hbuilt : ∀ n ∈ built, Settled n) :
    rewriteAll rules (built ++ nodes) = (rewriteAll rules nodes).map (built ++ ·) := by
  induction rules generalizing nodes with
  | nil => rfl
  | cons rule rules ih =>
    unfold rewriteAll at ih ⊢
    rw [List.foldlM_cons, List.foldlM_cons, rewrite_settled hbuilt]
    cases rewrite rule nodes with
    | error e => rfl
    | ok nodes' => exact ih

/-! ## Texts that begin with a directive -/

/-- Nothing is looked for. -/
def noSign : Sign := fun _ _ => False

theorem noSign_lawful : noSign.Lawful := ⟨fun h => h.elim, fun h => h.elim⟩

/-- Where a rule that takes whole markup leaves text, it ends where the text does or before markup. -/
theorem Rule.Neat.left {rule : Rule α} (h : rule.Neat) (line : Int) (s : Text) :
    Left rule noSign none s (absorbDeclined (pieces rule line s)) :=
  (h.cut (fun _ hsign => hsign.elim) noSign_lawful line s).absorbDeclined fun _ => .none s

/-- A text begins with a directive of a name and what opens a group. -/
def Headed (name t : Text) : Prop := ∃ more, t = '@' :: name ++ '(' :: more

variable {name u behind : Text}

/-- A text in which markup begins only at its ends begins as the whole text does, if no markup begins in that. -/
theorem prefix_of_ends {front more : Text} (hfront : ∀ c ∈ front.tail, isSigil c = false) (hu : u ≠ []) (hends : Ends s)
    (h : u ++ s = front ++ more) : ∃ more', u = front ++ more' ∧ more = more' ++ s := by
  rcases List.append_eq_append_iff.mp h with ⟨left, rfl, rfl⟩ | ⟨more', rfl, rfl⟩
  · cases left with
    | nil => exact ⟨[], by simp⟩
    | cons c left =>
      obtain ⟨d, u, rfl⟩ := List.exists_cons_of_ne_nil hu
      have hsigil : isSigil c = true := hends c rfl
      rw [hfront c (by simp)] at hsigil
      cases hsigil
  · exact ⟨more', rfl, rfl⟩

/-- A text before markup begins with a directive if it does with the markup behind it. -/
theorem headed_of_append (hname : IsWordName name) (hu : u ≠ []) (hends : Ends s) (h : Headed name (u ++ s)) :
    Headed name u := by
  obtain ⟨more, hsplit⟩ := h
  have hfront : ∀ c ∈ ('@' :: name ++ ['(']).tail, isSigil c = false := by
    intro c hc
    rcases List.mem_append.mp hc with hc | hc
    · exact isSigil_eq_false_of_isWord (hname c hc)
    · obtain rfl := List.mem_singleton.mp hc
      rfl
  have hhead : u ++ s = ('@' :: name ++ ['(']) ++ more := by simpa using hsplit
  obtain ⟨more', rfl, -⟩ := prefix_of_ends hfront hu hends hhead
  exact ⟨more', by simp⟩

/-- The directive that is found where a text begins with one is that one, or has no name. -/
theorem name_of_headed {names : List Text} {name' rest : Text} (hname : IsWordName name) (hne : name ≠ [])
    (hnames : ∀ n ∈ names, IsWordName n) (ht : Headed name t)
    (h : directiveAt? names previous t = some (name', rest)) : name' = [] ∨ name' = name := by
  obtain ⟨more, rfl⟩ := ht
  obtain ⟨hmem, hsplit, -, hends⟩ := directiveAt?_eq_some' h
  by_cases hempty : name' = []
  · exact .inl hempty
  · obtain ⟨hsame, -⟩ := name_unique hname (hnames _ hmem) hne hempty (endsWord_cons hname hne rfl _) hends
      (List.cons.inj hsplit).2
    exact .inr hsame.symm

/-- Where a text begins with a directive, no other is found there. -/
theorem directiveAt?_headed {names : List Text} (hname : IsWordName name) (hne : name ≠ [])
    (hnames : ∀ n ∈ names, IsWordName n) (hothers : ∀ n ∈ names, ¬ (n = [] ∨ n = name)) (ht : Headed name t) :
    directiveAt? names previous t = none := by
  cases hat : directiveAt? names previous t with
  | none => rfl
  | some found => exact absurd (name_of_headed hname hne hnames ht hat) (hothers _ (directiveAt?_eq_some' hat).1)

/-- A rule that passes over the head of a text that begins with a directive. -/
structure Rule.Skips (registry : Registry) (name : Text) (rule : Rule (List Node)) : Prop where
  neat : rule.Neat
  reads : rule.Reads (Lowers registry)
  silent : ∀ line {t}, Headed name t → rule ⟨none, line, t⟩ = none

/-- Nodes begin with what a source begins with, and those behind it are what the rest of the source became. -/
def Fronted (registry : Registry) (name source : Text) (nodes : List Node) : Prop :=
  ∃ t behind more, nodes = .text 1 t :: more ∧ Headed name t ∧ source = t ++ behind ∧
    Covers (IsMarkup registry) (1 + t.newlines) behind (items more)

variable {source : Text}

theorem Tiles.behind_plain {Q : Int → Text → α → Prop} {ps : List (Piece α)} {line' : Int}
    (h : Tiles Q line (t ++ s) (.plain line' t :: ps)) : line' = line ∧ Tiles Q (line + t.newlines) s ps := by
  generalize hwhole : t ++ s = whole at h
  cases h with
  | plain _ h => exact ⟨rfl, List.append_cancel_left hwhole ▸ h⟩

/-- The pieces of a text with markup at its head, and those of the text behind it. -/
theorem pieces_found {rule : Rule α} {a : α} (ht : t ≠ [])
    (hrule : rule ⟨none, line, t ++ s⟩ = some (.accepted t.length (.ok a))) :
    pieces rule line (t ++ s) = .markup line t (.ok a) :: piecesFrom rule 0 t.getLast? (line + t.newlines) s := by
  obtain ⟨c, whole, hwhole⟩ := List.exists_cons_of_ne_nil (List.append_ne_nil_of_left_ne_nil ht s)
  obtain ⟨htake, hskip⟩ := piecesFrom_behind rule line ht hwhole.symm
  rw [hwhole] at hrule ⊢
  rw [pieces, piecesFrom, hrule]
  simp only
  rw [htake, hskip]

theorem Tiles.behind_markup {Q : Int → Text → α → Prop} {ps : List (Piece α)} {line' : Int} {a : α}
    (h : Tiles Q line (t ++ s) (.markup line' t (.ok a) :: ps)) :
    line' = line ∧ Q line t a ∧ Tiles Q (line + t.newlines) s ps := by
  generalize hwhole : t ++ s = whole at h
  cases h with
  | markup _ hQ h => exact ⟨rfl, hQ, List.append_cancel_left hwhole ▸ h⟩

/-- The pieces of a text at whose head a rule says nothing begin with text. -/
theorem pieces_silent {rule : Rule α} {c : Char} (h : rule ⟨none, line, c :: s⟩ = none) :
    ∃ u ps, pieces rule line (c :: s) = .plain line u :: ps := by
  rw [pieces, piecesFrom, h]
  simp only
  unfold glue
  split <;> exact ⟨_, _, rfl⟩

theorem Headed.cons (h : Headed name t) : ∃ c s, t = c :: s := by
  obtain ⟨more, rfl⟩ := h
  exact ⟨_, _, rfl⟩

/-- A text at whose head a rule says nothing is rewritten to a text that it begins with, and what stands behind that. -/
theorem rewriteNode_headed (hname : IsWordName name) (hrule : rule.Skips registry name) (ht : Headed name t)
    (h : rewriteNode rule (.text line t) = .ok out) :
    ∃ u s more, t = u ++ s ∧ out = .text line u :: more ∧ Headed name u ∧
      Covers (IsMarkup registry) (line + u.newlines) s (items more) := by
  have hleft := hrule.neat.left line t
  have htiles := (hrule.reads.tiles line t).absorbDeclined
  obtain ⟨u, ps, hps⟩ : ∃ u ps, absorbDeclined (pieces rule line t) = .plain line u :: ps := by
    obtain ⟨c, s, rfl⟩ := ht.cons
    obtain ⟨u, ps, hps⟩ := pieces_silent (hrule.silent line ht)
    rw [hps, absorbDeclined]
    unfold joinPlain
    split <;> exact ⟨_, _, rfl⟩
  rw [rewriteNode, hps] at h
  rw [hps] at hleft htiles
  obtain ⟨more, hmore, h⟩ := bind_eq_ok.mp h
  obtain rfl := Except.ok.inj h
  cases hleft with
  | text hu _ _ hends _ =>
    exact ⟨u, _, more, rfl, rfl, headed_of_append hname hu hends ht, htiles.behind_plain.2.covers hmore⟩

theorem rewrite_fronted (hname : IsWordName name) (hrule : rule.Skips registry name)
    (h : Fronted registry name source nodes) (hout : rewrite rule nodes = .ok out) :
    Fronted registry name source out := by
  obtain ⟨t, behind, more, rfl, ht, rfl, hcovers⟩ := h
  obtain ⟨first, rest, hfirst, hrest, rfl⟩ := rewrite_cons.mp hout
  obtain ⟨u, s, found, rfl, rfl, hu, hfound⟩ := rewriteNode_headed hname hrule ht hfirst
  refine ⟨u, s ++ behind, found ++ rest, rfl, hu, List.append_assoc .., ?_⟩
  rw [items_append]
  rw [line_append] at hcovers
  exact hfound.append (hcovers.refine (rewrite_refines hrule.reads more hrest))

theorem rewriteAll_fronted (hname : IsWordName name) (hrules : ∀ rule ∈ rules, rule.Skips registry name)
    (h : Fronted registry name source nodes) (hout : rewriteAll rules nodes = .ok out) :
    Fronted registry name source out := by
  induction rules generalizing nodes with
  | nil =>
    obtain rfl := Except.ok.inj hout
    exact h
  | cons rule rules ih =>
    obtain ⟨hrule, hrules⟩ := List.forall_mem_cons.mp hrules
    obtain ⟨between, hbetween, hout⟩ := bind_eq_ok.mp hout
    exact ih hrules (rewrite_fronted hname hrule h hbetween) hout

/-- What is a node in document order at the head of nodes is the first of them. -/
theorem cons_of_items {n : Node} {rest : List Item} (h : items nodes = .node n :: rest) :
    ∃ more, nodes = n :: more ∧ items more = rest := by
  cases nodes with
  | nil => cases h
  | cons first more =>
    rw [items_cons] at h
    cases first with
    | captured => cases h
    | _ =>
      obtain ⟨hfirst, hmore⟩ := List.cons.inj h
      exact ⟨more, by rw [Item.node.inj hfirst], hmore⟩

/-- Grouping passes over the head of a text that begins with a directive that is not structural. -/
theorem structure_fronted (hname : IsWordName name) (hne : name ≠ []) (houter : name ∉ structuralNames)
    (h : Fronted registry name source nodes) (hout : structure? template nodes = .ok out) :
    Fronted registry name source out := by
  obtain ⟨t, behind, more, rfl, ht, rfl, hcovers⟩ := h
  have hleft := mark_left template 1 t
  have hreads : (mark template).Reads fun _ s _ => IsMarkup registry s := mark_reads
  have htiles := (hreads.tiles 1 t).absorbAfterDeclined
  obtain ⟨u, ps, hps⟩ : ∃ u ps, absorbAfterDeclined (pieces (mark template) 1 t) = .plain 1 u :: ps := by
    have hsilent : mark template ⟨none, 1, t⟩ = none := by
      have hothers : ∀ n ∈ structuralNames, ¬ (n = [] ∨ n = name) := by
        rintro n hn (hnil | rfl)
        · exact (structuralUses_name (structuralUses_of_name hn)).2.1 hnil
        · exact houter hn
      unfold mark
      rw [directiveAt?_headed hname hne (fun n hn => isWordName_of_builtin (structuralNames_subset hn)) hothers ht]
    obtain ⟨c, s, rfl⟩ := ht.cons
    obtain ⟨u, ps, hps⟩ := pieces_silent hsilent
    exact ⟨u, absorbAfterDeclined ps, by rw [hps]; simp [absorbAfterDeclined]⟩
  rw [hps] at hleft htiles
  obtain ⟨o, ho, hitems⟩ := exists_outline hout
  rw [List.flatMap_cons, eventsOf, hps, List.foldlM_append] at ho
  obtain ⟨o₂, htext, hmore⟩ := bind_eq_ok.mp ho
  obtain ⟨o₁, hstep, htext⟩ := bind_eq_ok.mp htext
  obtain rfl := Except.ok.inj hstep
  cases hleft with
  | @text _ _ _ s _ hu _ _ hends _ =>
    obtain ⟨new, hnew, hcovered⟩ := htiles.behind_plain.2.outline htext
    obtain ⟨new', hnew', hrefines⟩ := outline_refines registry hmore
    rw [hnew', hnew] at hitems
    obtain ⟨found, rfl, hfound⟩ := cons_of_items hitems
    refine ⟨u, s ++ behind, found, rfl, headed_of_append hname hu hends ht, List.append_assoc .., ?_⟩
    rw [line_append] at hcovers
    rw [hfound]
    exact hcovered.append (hcovers.refine hrefines)

/-! ## Passes before a directive -/

/-- What is before structure passes over a directive that neither opens nor closes a region. -/
theorem region?_headed {opener closer : Text} (hname : IsWordName name) (hne : name ≠ []) (hopener : IsWordName opener)
    (hdiffers : opener ≠ [] ∧ name ≠ opener) (ht : Headed name t) : region? opener closer ⟨none, line, t⟩ = none := by
  have hothers : ∀ n ∈ [opener], ¬ (n = [] ∨ n = name) := by
    simpa [eq_comm] using hdiffers
  unfold region?
  rw [directiveAt?_headed hname hne (List.forall_mem_singleton.mpr hopener) hothers ht]

/-- Behind the word that closes a region a word ends. -/
theorem boundary_of_untilWord {closer inside rest : Text} (h : untilWord closer s = some (inside, rest)) :
    Text.boundary closer.getLast? rest.head? = true := by
  induction s generalizing inside with
  | nil => cases h
  | cons c s ih =>
    have hlater : (untilWord closer s).map (fun found => (c :: found.1, found.2)) = some (inside, rest) →
        Text.boundary closer.getLast? rest.head? = true := by
      intro h
      obtain ⟨⟨inside', rest'⟩, huntil, hpair⟩ := Option.map_eq_some_iff.mp h
      obtain ⟨-, rfl⟩ := Prod.mk.inj hpair
      exact ih huntil
    rw [untilWord] at h
    split at h
    · split at h
      case isTrue hends =>
        obtain ⟨-, rfl⟩ := Prod.mk.inj (Option.some.inj h)
        exact hends
      case isFalse => exact hlater h
    · exact hlater h

theorem region_span {opener closer body rest : Text} {p : Place} (h : region? opener closer p = some (body, rest))
    (hname : IsWordName closer) (hne : closer ≠ []) : Span p ('@' :: opener ++ body ++ '@' :: closer) rest := by
  have hends : EndsWord closer rest := by
    unfold region? at h
    split at h
    · cases h
    · have hboundary := boundary_of_untilWord h
      unfold EndsWord
      rwa [List.getLast?_eq_some_getLast hne] at hboundary ⊢
  exact ⟨(region?_eq_some h).1, ⟨_, _, rfl, rfl⟩, apart_of_endsWord hname hends fun hnil => absurd hnil hne⟩

theorem verbatim_neat : verbatim.Neat := by
  intro p v hv
  obtain ⟨⟨body, rest⟩, hfound, rfl⟩ := Option.map_eq_some_iff.mp hv
  have hspan := region_span hfound (isWordName_of_builtin (by decide)) (by decide)
  simp only [length_sub_of_append hspan.whole]
  exact .accepted hspan

theorem program_neat : program.Neat := by
  intro p v hv
  obtain ⟨⟨body, rest⟩, hfound, rfl⟩ := Option.map_eq_some_iff.mp hv
  have hspan := region_span hfound (isWordName_of_builtin (by decide)) (by decide)
  simp only [length_sub_of_append hspan.whole]
  exact .accepted hspan

theorem comment_neat : comment.Neat := by
  intro p v hv
  unfold comment at hv
  split at hv
  · cases hv
  case h_2 inside hafter =>
    obtain ⟨⟨body, rest⟩, hfound, rfl⟩ := Option.map_eq_some_iff.mp hv
    have hspan : Span p ("\x7b\x7b--" ++ body ++ "--\x7d\x7d") rest := by
      refine span_delimited ?_ ⟨_, _, rfl, rfl⟩ rfl (by decide) (by decide)
      rw [Text.after?_eq_some.mp hafter, (cut?_eq_some hfound).1]
      simp
    simp only [length_sub_of_append hspan.whole]
    exact .accepted hspan

/-- No built-in directive with a group of arguments has a name that marks structure or a region. -/
theorem name_not_outer (hds : ds ∈ argumentFamilies) (hd : d ∈ ds) : d.name ∉ outerNames := by
  rcases List.mem_append.mp hds with hds | hds
  · have hall : (innerDirectives.all fun d => decide (d.name ∉ outerNames)) = true := by decide +kernel
    exact of_decide_eq_true (List.all_eq_true.mp hall d (subset_of_mem_families hds hd))
  · obtain rfl := List.mem_singleton.mp hds
    obtain rfl := List.mem_singleton.mp hd
    decide

theorem structuralNames_outer : structuralNames ⊆ outerNames := by
  intro name hname
  have hname := mem_byLength.mp hname
  simp only [List.mem_cons, List.not_mem_nil, or_false] at hname
  rcases hname with rfl | rfl | rfl | rfl | rfl <;> simp [outerNames]

/-- Behind structure, a source that begins with a built-in directive still begins with it. -/
theorem readStructure_fronted (hds : ds ∈ argumentFamilies) (hd : d ∈ ds) (hsource : Headed d.name source)
    (h : readStructure template source = .ok nodes) : Fronted registry d.name source nodes := by
  have hname := (argumentFamilies_distinct hds).word d hd
  have hne := (argumentFamilies_distinct hds).ne_nil d hd
  have houter := name_not_outer hds hd
  have hverbatim : verbatim.Skips registry d.name := by
    refine ⟨verbatim_neat, verbatim_reads, fun line t ht => ?_⟩
    have hword : IsWordName "verbatim" := isWordName_of_builtin (by decide)
    unfold verbatim
    rw [region?_headed hname hne hword ⟨by decide, fun h => houter (by rw [h]; decide)⟩ ht]
    rfl
  have hprogram : program.Skips registry d.name := by
    refine ⟨program_neat, program_reads, fun line t ht => ?_⟩
    have hword : IsWordName "python" := isWordName_of_builtin (by decide)
    unfold program
    rw [region?_headed hname hne hword ⟨by decide, fun h => houter (by rw [h]; decide)⟩ ht]
    rfl
  have hcomment : comment.Skips registry d.name := by
    refine ⟨comment_neat, comment_reads, ?_⟩
    rintro line _ ⟨more, rfl⟩
    rfl
  obtain ⟨plain, hplain, h⟩ := bind_eq_ok.mp h
  obtain ⟨regions, hregions, hplain⟩ := bind_eq_ok.mp hplain
  obtain ⟨verbatims, hverbatims, hregions⟩ := bind_eq_ok.mp hregions
  have hfront : Fronted registry d.name source [.text 1 source] :=
    ⟨source, [], [], rfl, hsource, (List.append_nil _).symm, .nil⟩
  have hfront := rewrite_fronted hname hverbatim hfront hverbatims
  have hfront := rewrite_fronted hname hprogram hfront hregions
  have hfront := rewrite_fronted hname hcomment hfront hplain
  exact structure_fronted hname hne (fun hmem => houter (structuralNames_outer hmem)) hfront h

/-- A rule passes over every head of a directive, or it looks for something and what begins there is such a thing. -/
def Rule.Decides (registry : Registry) (name : Text) (rule : Rule (List Node)) : Prop :=
  rule.Skips registry name ∨
    ∃ sign : Sign, sign.Lawful ∧ rule.Thorough registry sign ∧ ∀ t, Headed name t → sign none t

theorem family_decides {ds' : List Directive} (hname : IsWordName name) (hne : name ≠ [])
    (hwords : ∀ d ∈ ds', IsWordName d.name) (hempty : ∀ d ∈ ds', d.name = [] → d.lowering.use ≠ .required)
    (hthorough : (family template ds').Thorough registry (directiveSign (usesOf ds'))) :
    (family template ds').Decides registry name := by
  by_cases h : ∃ d ∈ ds', d.name = [] ∨ d.name = name
  · obtain ⟨d, hd, hdname⟩ := h
    have huse : (d.name, d.lowering.use) ∈ usesOf ds' := List.mem_map_of_mem hd
    refine .inr ⟨_, directiveSign_lawful _, hthorough, ?_⟩
    rintro _ ⟨more, rfl⟩
    rcases hdname with hnil | rfl
    · obtain ⟨c, tail, rfl⟩ := List.exists_cons_of_ne_nil hne
      have hc : Text.isWord c = true := hname c List.mem_cons_self
      have hends : EndsWord d.name ((c :: tail) ++ '(' :: more) := by
        rw [hnil]
        unfold EndsWord Text.boundary
        simp [Text.isWord?, hc]
        decide
      exact ⟨by simp, d.name, _, _, huse, by rw [hnil]; rfl, hends, fun hrequired => absurd hrequired (hempty d hd hnil)⟩
    · exact ⟨by simp, d.name, _, _, huse, rfl, endsWord_cons hname hne rfl _, fun _ => rfl⟩
  · refine .inl ⟨hthorough.neat, hthorough.reads, fun line t ht => ?_⟩
    have hothers : ∀ n ∈ byLength (ds'.map Directive.name), ¬ (n = [] ∨ n = name) := by
      intro n hn hsame
      obtain ⟨d, hd, rfl⟩ := List.mem_map.mp (mem_byLength.mp hn)
      exact h ⟨d, hd, hsame⟩
    unfold family
    rw [directiveAt?_headed hname hne (familyNames_word hwords) hothers ht]
    split <;> rfl

theorem rules_decide (hnames : ∀ name ∈ registry.directives.names, IsWordName name) (hname : IsWordName name)
    (hne : name ≠ []) (hrule : rule ∈ rulesBehindStructure registry template) : rule.Decides registry name := by
  obtain ⟨c, tail, rfl⟩ := List.exists_cons_of_ne_nil hne
  have hc := not_sigil_of_isWord (hname c List.mem_cons_self)
  refine forall_rulesBehindStructure ?_ (fun ds' hds' => ?_) ?_ ?_ ?_ ?_ rule hrule
  · refine family_decides hname hne (custom_word hnames) ?_ (custom_thorough hnames)
    rintro d hd - hrequired
    obtain ⟨entry, hentry, rfl⟩ := List.mem_map.mp hd
    cases hrequired
  · exact family_decides hname hne (fun d hd => innerNames_word d (hds' hd))
      (fun d hd hnil => absurd hnil (innerNames_ne_nil d (hds' hd))) (innerFamily_thorough hds')
  · refine .inl ⟨echo_neat, echo_reads, ?_⟩
    rintro line _ ⟨more, rfl⟩
    have hafter : Text.after? "\x7b\x7b" (c :: tail ++ '(' :: more) = none := if_neg (Ne.symm hc.2)
    have hnone : delimited? "\x7b\x7b" "\x7d\x7d" (c :: tail ++ '(' :: more) = none := by rw [delimited?, hafter]
    unfold echo
    simp only [List.cons_append] at hnone ⊢
    rw [hnone]
    rfl
  · refine .inl ⟨rawEcho_neat, rawEcho_reads, ?_⟩
    rintro line _ ⟨more, rfl⟩
    rfl
  · have hdistinct : Distinct [includeDirective] := argumentFamilies_distinct (by simp [argumentFamilies])
    have hthorough : ((inclusion template).map Prod.snd).Thorough registry
        (directiveSign (usesOf [includeDirective])) := inclusion_thorough
    rw [inclusion_eq_family] at hthorough ⊢
    exact family_decides hname hne hdistinct.word (fun d hd hnil => absurd hnil (hdistinct.ne_nil d hd)) hthorough
  · refine .inl ⟨(escaped_thorough hnames).neat, escaped_reads, ?_⟩
    rintro line _ ⟨more, rfl⟩
    simp [escaped, hc.1]

/-! ## A directive at the head -/

/-- A text that a source begins with is still text behind structure and some rules. -/
def StillText (template : Text) (before : List (Rule (List Node))) (front source : Text) : Prop :=
  ∃ rest nodes, readStructure template source >>= rewriteAll before = .ok (.text 1 (front ++ rest) :: nodes)

section Head

variable {args after rest : Text} {before rulesAfter : List (Rule (List Node))}

theorem written_eq (d : Directive) (args rest : Text) :
    d.written args ++ rest = '@' :: d.name ++ ('(' :: args ++ ')' :: rest) := by simp [Directive.written]

theorem written_headed (d : Directive) (args rest : Text) : Headed d.name (d.written args ++ rest) :=
  ⟨args ++ ')' :: rest, by rw [written_eq]; rfl⟩

/-- Where a directive is still text, what stands behind it there and in the other nodes is the rest of the source. -/
theorem StillText.fronted (hnames : ∀ name ∈ registry.directives.names, IsWordName name) (hds : ds ∈ argumentFamilies)
    (hd : d ∈ ds) (hrules : before ⊆ rulesBehindStructure registry template)
    (h : StillText template before (d.written args) (d.written args ++ after)) :
    ∃ rest behind nodes, readStructure template (d.written args ++ after) >>= rewriteAll before =
      .ok (.text 1 (d.written args ++ rest) :: nodes) ∧ after = rest ++ behind ∧
      Covers (IsMarkup registry) (1 + Text.newlines (d.written args ++ rest)) behind (items nodes) := by
  obtain ⟨rest, nodes, hread⟩ := h
  obtain ⟨structured, hstructured, hbefore⟩ := bind_eq_ok.mp hread
  have hname := (argumentFamilies_distinct hds).word d hd
  have hne := (argumentFamilies_distinct hds).ne_nil d hd
  have hskips : ∀ rule ∈ before, rule.Skips registry d.name := by
    intro rule hrule
    rcases rules_decide hnames hname hne (hrules hrule) with hskips | ⟨sign, hsign, hthorough, hhead⟩
    · exact hskips
    · -- a rule that looks for what begins here would have left nothing of it
      have hcuts : ∀ pass ∈ before.map rewrite, Pass.Cuts pass := by
        intro pass hpass
        obtain ⟨rule', hrule', rfl⟩ := List.mem_map.mp hpass
        exact rules_cut hnames _ (List.mem_map_of_mem (hrules hrule'))
      have hfree : Free sign (.text 1 (d.written args ++ rest) :: nodes) := by
        refine runPasses_free_of_mem hcuts hsign (List.mem_map_of_mem hrule) ?_
          ((runPasses_rewrite before structured).trans hbefore)
        exact fun nodes out hout line t ht => (hthorough.rewrite hsign nodes hout ht).2
      exact absurd ⟨[], _, rfl, hhead _ (written_headed d args rest)⟩ (hfree 1 (d.written args ++ rest) (by simp))
  have hfronted : Fronted registry d.name (d.written args ++ after) structured :=
    readStructure_fronted hds hd (written_headed d args after) hstructured
  obtain ⟨t, behind, more, hnodes, -, hsource, hcovers⟩ := rewriteAll_fronted hname hskips hfronted hbefore
  obtain ⟨htext, rfl⟩ := List.cons.inj hnodes
  obtain rfl := (Node.text.inj htext).2
  rw [List.append_assoc] at hsource
  exact ⟨rest, behind, nodes, hread, List.append_cancel_left hsource, hcovers⟩

/-- A family takes a directive of its own at the head of a text, with what it builds. -/
theorem family_own (hds : ds ∈ argumentFamilies) (hd : d ∈ ds) (huse : d.lowering.use ≠ .bare)
    (hargs : Argument.Items args) (template rest : Text) :
    family template ds ⟨none, 1, d.written args ++ rest⟩ = some (.accepted (d.written args).length
      ((d.builds 1 args).mapError
        (Raised.locate template 1 ((d.written args ++ rest).take excerptLength) d.name))) := by
  have hdistinct := argumentFamilies_distinct hds
  have hends : EndsWord d.name ('(' :: args ++ ')' :: rest) :=
    endsWord_cons (hdistinct.word d hd) (hdistinct.ne_nil d hd) rfl _
  have hread := Directive.read_group huse hargs template ⟨none, 1, d.written args ++ rest⟩ rest
  have hprevious : (none : Option Char) ≠ some '@' := nofun
  have hat := family_at hdistinct hd hprevious hends template 1
  rw [← written_eq] at hat
  rw [hat, hread, Place.accept, List.length_append, Nat.add_sub_cancel]
  rfl

theorem written_ne_nil (d : Directive) (args : Text) : d.written args ≠ [] := by simp [Directive.written]

/-- A family makes of a directive at the head of a text what the directive builds, and leaves what stands behind it. -/
theorem rewriteNode_own (hds : ds ∈ argumentFamilies) (hd : d ∈ ds) (huse : d.lowering.use ≠ .bare)
    (hargs : Argument.Items args) {built : List Node} (hbuilt : d.builds 1 args = .ok built) (template rest : Text) :
    rewriteNode (family template ds) (.text 1 (d.written args ++ rest)) = (nodesOf (absorbDeclined
      (piecesFrom (family template ds) 0 (some ')') (1 + Text.newlines (d.written args)) rest))).map (built ++ ·) := by
  have hrule := family_own hds hd huse hargs template rest
  rw [hbuilt] at hrule
  have hlast : (d.written args).getLast? = some ')' := List.getLast?_concat
  rw [rewriteNode, pieces_found (written_ne_nil d args) hrule, hlast, absorbDeclined]
  · cases hmore : nodesOf (absorbDeclined (piecesFrom (family template ds) 0 (some ')')
      (1 + Text.newlines (d.written args)) rest)) <;>
      simp [nodesOf, hmore, Except.map, bind, Except.bind, pure, Except.pure]
  all_goals simp

theorem rewriteNode_own_failed (hds : ds ∈ argumentFamilies) (hd : d ∈ ds) (huse : d.lowering.use ≠ .bare)
    (hargs : Argument.Items args) {r : Raised} (hbuilt : d.builds 1 args = .error r) (template rest : Text) :
    rewriteNode (family template ds) (.text 1 (d.written args ++ rest)) =
      .error (r.locate template 1 ((d.written args ++ rest).take excerptLength) d.name) := by
  have hrule := family_own hds hd huse hargs template rest
  rw [hbuilt] at hrule
  obtain ⟨c, t, hcons⟩ := List.exists_cons_of_ne_nil
    (List.append_ne_nil_of_left_ne_nil (written_ne_nil d args) rest)
  rw [rewriteNode, pieces]
  rw [hcons] at hrule ⊢
  rw [piecesFrom, hrule]
  rfl

/-- The rules behind a family make of what stands behind a directive what the text behind it became. -/
theorem rewriteAll_own (hnames : ∀ name ∈ registry.directives.names, IsWordName name) (hds : ds ∈ argumentFamilies)
    (hd : d ∈ ds) (huse : d.lowering.use ≠ .bare) (hargs : Argument.Items args)
    (hrules : family template ds :: rules ⊆ rulesBehindStructure registry template) {built : List Node}
    (hbuilt : d.builds 1 args = .ok built)
    (hnodes : Covers (IsMarkup registry) (1 + Text.newlines (d.written args ++ rest)) behind (items nodes))
    (hout : rewriteAll (family template ds :: rules) (.text 1 (d.written args ++ rest) :: nodes) = .ok out) :
    ∃ found, out = built ++ found ∧
      Covers (IsMarkup registry) (1 + (d.written args).newlines) (rest ++ behind) (items found) := by
  have hreads : ∀ rule ∈ family template ds :: rules, rule.Reads (Lowers registry) := by
    intro rule hrule
    obtain ⟨sign, -, hthorough⟩ := exists_thorough hnames (hrules hrule)
    exact hthorough.reads
  obtain ⟨hfamily, hreads⟩ := List.forall_mem_cons.mp hreads
  obtain ⟨between, hbetween, hout⟩ := bind_eq_ok.mp hout
  obtain ⟨first, more, hfirst, hmore, rfl⟩ := rewrite_cons.mp hbetween
  rw [rewriteNode_own hds hd huse hargs hbuilt template rest] at hfirst
  obtain ⟨inner, hinner, rfl⟩ := map_eq_ok.mp hfirst
  have hout : rewriteAll rules (built ++ inner ++ more) = .ok out := hout
  rw [List.append_assoc, rewriteAll_settled (builds_settled hds hd hbuilt)] at hout
  obtain ⟨found, hfound, rfl⟩ := map_eq_ok.mp hout
  refine ⟨found, rfl, ?_⟩
  have hcovers : Covers (IsMarkup registry) (1 + (d.written args).newlines) rest (items inner) := by
    have hrule := family_own hds hd huse hargs template rest
    rw [hbuilt] at hrule
    have htiles := (hfamily.tiles 1 (d.written args ++ rest)).absorbDeclined
    rw [pieces_found (written_ne_nil d args) hrule, absorbDeclined] at htiles
    · have hlast : (d.written args).getLast? = some ')' := List.getLast?_concat
      rw [hlast] at htiles
      exact htiles.behind_markup.2.2.covers hinner
    all_goals simp
  rw [line_append] at hnodes
  have hstage := hcovers.append (hnodes.refine (rewrite_refines hfamily nodes hmore))
  rw [← items_append] at hstage
  refine runPasses_covers ?_ hstage ((runPasses_rewrite rules (inner ++ more)).trans hfound)
  intro pass hpass nodes out hout
  obtain ⟨rule, hrule, rfl⟩ := List.mem_map.mp hpass
  exact rewrite_refines (hreads rule hrule) nodes hout

/-- What covers nothing is nothing. -/
theorem Covers.eq_nil {P : Text → Prop} {xs : List Item} (h : Covers P line [] xs) : xs = [] := by
  obtain ⟨segments, hcut, rfl⟩ := h
  cases segments with
  | nil => rfl
  | cons seg segments =>
    obtain ⟨-, hseg, u, hwhole, -⟩ := isCut_cons.mp hcut
    exact absurd (List.append_eq_nil_iff.mp hwhole.symm).1 hseg.1

theorem nodes_eq_nil (h : items nodes = []) : nodes = [] := by
  cases nodes with
  | nil => rfl
  | cons n nodes => cases n <;> simp at h

theorem rewriteAll_nil : rewriteAll rules [] = .ok [] := by
  induction rules with
  | nil => rfl
  | cons rule rules ih => exact ih

/-- **Arguments are read as written.**  A source begins with a built-in directive and a whole group of arguments, and
that is still text when the pass of the directive comes.  Then the nodes begin with what the directive builds from the
arguments as they are written, and all that follows is what the text behind the group became; by itself the directive is
read as exactly these nodes.  If it cannot be built, the template fails with that. -/
theorem arguments_as_written (registry : Registry) (template : Text)
    (hnames : ∀ name ∈ registry.directives.names, IsWordName name) (hds : ds ∈ argumentFamilies) (hd : d ∈ ds)
    (huse : d.lowering.use ≠ .bare) (hgroup : Argument.group? ('(' :: args ++ [')']) = .ok (args, []))
    (hrules : rulesBehindStructure registry template = before ++ family template ds :: rulesAfter)
    (after : Text) (hstill : StillText template before (d.written args) (d.written args ++ after)) :
    (∀ built, d.builds 1 args = .ok built →
      (∀ nodes, (read registry template (d.written args ++ after)).nodes = .ok nodes → ∃ rest, nodes = built ++ rest ∧
        Covers (IsMarkup registry) (1 + (d.written args).newlines) after (items rest)) ∧
      (after = [] → (read registry template (d.written args)).nodes = .ok built)) ∧
    ∀ r, d.builds 1 args = .error r → ∃ excerpt rest, d.written args ++ after = excerpt ++ rest ∧
      (read registry template (d.written args ++ after)).nodes = .error (r.locate template 1 excerpt d.name) := by
  have hargs : Argument.Items args := (Argument.group?_isGroup hgroup).1
  have hbefore : before ⊆ rulesBehindStructure registry template := by simp [hrules]
  have hbehind : family template ds :: rulesAfter ⊆ rulesBehindStructure registry template := by simp [hrules]
  obtain ⟨rest, behind, nodes, hstage, rfl, hnodes⟩ := hstill.fronted hnames hds hd hbefore
  have hread : (read registry template (d.written args ++ (rest ++ behind))).nodes =
      rewriteAll (family template ds :: rulesAfter) (.text 1 (d.written args ++ rest) :: nodes) := by
    obtain ⟨structured, hstructured, hrun⟩ := bind_eq_ok.mp hstage
    rw [← runPasses_rewrite] at hrun
    rw [read_nodes_eq_structure, hrules, List.map_append, hstructured]
    change runPasses _ structured = _
    rw [runPasses_append, hrun]
    exact runPasses_rewrite _ _
  refine ⟨fun built hbuilt => ⟨fun out hout => ?_, fun hafter => ?_⟩, fun r hbuilt => ?_⟩
  · rw [hread] at hout
    exact rewriteAll_own hnames hds hd huse hargs hbehind hbuilt hnodes hout
  · obtain ⟨rfl, rfl⟩ := List.append_eq_nil_iff.mp hafter
    obtain rfl := nodes_eq_nil hnodes.eq_nil
    have hfirst := rewriteNode_own hds hd huse hargs hbuilt template []
    have hpass : rewrite (family template ds) [.text 1 (d.written args ++ [])] = .ok (built ++ []) :=
      rewrite_cons.mpr ⟨built, [], by rw [hfirst]; simp [piecesFrom, absorbDeclined, nodesOf, Except.map], rfl, rfl⟩
    have hall : rewriteAll (family template ds :: rulesAfter) [.text 1 (d.written args ++ [])] = .ok (built ++ []) := by
      refine bind_eq_ok.mpr ⟨_, hpass, ?_⟩
      exact (rewriteAll_settled (builds_settled hds hd hbuilt)).trans (by rw [rewriteAll_nil]; rfl)
    simpa using hread.trans hall
  · refine ⟨(d.written args ++ rest).take excerptLength, (d.written args ++ rest).drop excerptLength ++ behind, ?_, ?_⟩
    · rw [← List.append_assoc, ← List.append_assoc, List.take_append_drop]
    · rw [hread]
      have hfail := rewriteNode_own_failed hds hd huse hargs hbuilt template rest
      have hpass : rewrite (family template ds) (.text 1 (d.written args ++ rest) :: nodes) =
          .error (r.locate template 1 ((d.written args ++ rest).take excerptLength) d.name) := by
        rw [rewrite]
        exact bind_eq_error.mpr (.inl hfail)
      exact bind_eq_error.mpr (.inl hpass)

/-! ### A value that looks like another directive -/

/-- The rules before the family of the directive that prints values as JSON. -/
def rulesBeforeJson (registry : Registry) (template : Text) : List (Rule (List Node)) :=
  [family template (custom registry), family template csrf, echo registry template, rawEcho template]

/-- What a template is read as in which the value of such a directive looks like one of a later pass. -/
def quotedNodes : List Node := [.echo 1 "_rt.to_json('@push(1)')" false, .text 1 " b"]

theorem read_quoted : (read .standard "page" "@json('@push(1)') b").nodes = .ok quotedNodes := by cbv

theorem stillText_quoted : StillText "page" (rulesBeforeJson .standard "page") "@json('@push(1)')"
    "@json('@push(1)') b" := ⟨" b", [], by cbv⟩

/-- The value is printed as it is written. -/
theorem arguments_as_written_json : ∃ rest, quotedNodes = [.echo 1 "_rt.to_json('@push(1)')" false] ++ rest ∧
    Covers (IsMarkup .standard) 1 " b" (items rest) := by
  have hnames : ∀ name ∈ Registry.standard.directives.names, IsWordName name := List.forall_mem_nil _
  have hds : json ∈ argumentFamilies := by simp [argumentFamilies, families]
  have hd : json.head (List.cons_ne_nil _ _) ∈ json := List.head_mem _
  have hgroup : Argument.group? ('(' :: "'@push(1)'" ++ [')']) = .ok ("'@push(1)'", []) := by cbv
  have hrules : rulesBehindStructure .standard "page" =
      rulesBeforeJson .standard "page" ++ family "page" json :: (rulesBehindStructure .standard "page").drop 5 := rfl
  have hbuilt : (json.head (List.cons_ne_nil _ _)).builds 1 "'@push(1)'" =
      .ok [.echo 1 "_rt.to_json('@push(1)')" false] := by cbv
  exact ((arguments_as_written .standard "page" hnames hds hd (by decide) hgroup hrules " b" stillText_quoted).1
    _ hbuilt).1 _ read_quoted

/-! ### A value that an earlier pass reads -/

/-- What a mail address in a group of arguments leaves of it before includes are read. -/
def addressNodes : List Node :=
  [.text 1 "@push('me", .openBlock 1 "guest" "if not _view.check_auth():" "guest" [], .text 1 ".com')"]

theorem readInner_address : readInner .standard "page" "@push('me@guest.com')" = .ok addressNodes := by cbv

/-- A mail address in a group of arguments is read as a directive by a pass before that of the directive, and the block
that it opens stays. -/
theorem address_read_early : ¬ ∀ ds ∈ argumentFamilies, ∀ d ∈ ds, d.lowering.use ≠ .bare → ∀ args built,
    Argument.group? ('(' :: args ++ [')']) = .ok (args, []) → d.builds 1 args = .ok built →
    (read .standard "page" (d.written args)).nodes = .ok built := by
  intro h
  have hds : push ∈ argumentFamilies := by simp [argumentFamilies, families]
  have hd : push.head (List.cons_ne_nil _ _) ∈ push := List.head_mem _
  have hgroup : Argument.group? ('(' :: "'me@guest.com'" ++ [')']) = .ok ("'me@guest.com'", []) := by cbv
  have hbuilt : (push.head (List.cons_ne_nil _ _)).builds 1 "'me@guest.com'" =
      .ok [.statement 1 "_view.start_push('me@guest.com')"] := by cbv
  have hread : (read .standard "page" "@push('me@guest.com')").nodes =
      .ok [.statement 1 "_view.start_push('me@guest.com')"] := h push hds _ hd (by decide) "'me@guest.com'" _ hgroup hbuilt
  have hpasses : (read .standard "page" "@push('me@guest.com')").nodes = runPasses
      ((((inclusion "page").map Prod.snd) :: rulesAfterIncludes .standard "page").map rewrite) addressNodes := by
    rw [runPasses_rewrite]
    unfold read
    rw [readInner_address]
    rfl
  rw [hread] at hpasses
  have hrefining : ∀ pass ∈ (((inclusion "page").map Prod.snd) :: rulesAfterIncludes .standard "page").map rewrite,
      Pass.Refining .standard pass := by
    intro pass hpass nodes out hout
    obtain ⟨rule, hrule, rfl⟩ := List.mem_map.mp hpass
    rcases List.mem_cons.mp hrule with rfl | hrule
    · exact rewrite_refines (inclusion_reads.map fun _ _ _ h => h) nodes hout
    · exact rewrite_refines (rulesAfterIncludes_read hrule) nodes hout
  have hkept := runPasses_lowered hrefining hpasses.symm
  simp [addressNodes, lowered, Item.isText] at hkept

end Head

end Markup
end Stencil
