import Stencil.Proofs.Markup.Border

/-!
# Structural names that stay text

The name of a structural directive without what the directive needs stays text, but grouping cuts the text in front of
it. The passes behind structure see the two texts apart; the program is the same as without grouping, unless they take
markup that holds such a name.

* `Parted` — the same nodes, but for texts that are cut at borders.
* `Joined` — the pieces before a border and those of the text with the text behind the border; `Scan.joined` — so a rule
  cuts them, if it takes nothing across the border.
* `Parted.rewrite` — a pass over parted nodes; `Parted.rewriteAll` — all passes, as long as each spares the borders.
* `structure_parted` — what grouping makes of nodes without a structural directive.
* `declined_unseen` — the program of such a template.
* `section_quoted` — a name that stays text may keep an interpolation from being one.
-/

namespace Stencil.Markup

variable {registry : Registry} {template : Text} {previous : Option Char} {line line' : Int} {s t u w : Text}

/-! ## Texts cut at borders -/

/-- Nodes are the same as others, but for texts that are cut at borders. -/
inductive Parted : List Node → List Node → Prop
  | nil : Parted [] []
  | same {ns ms : List Node} (n : Node) : Parted ns ms → Parted (n :: ns) (n :: ms)
  | cut {line : Int} {t u : Text} {ns ms : List Node} : Border t u → Parted ns (.text (line + t.newlines) u :: ms) →
    Parted (.text line t :: ns) (.text line (t ++ u) :: ms)

/-- A stretch in which a text could be cut at a border. -/
def HoldsBorder (span : Text) : Prop := ∃ before behind, span = before ++ behind ∧ Border before behind

/-- A rule takes nothing in the texts of nodes that holds a border. -/
def Spares (rule : Rule (List Node)) (nodes : List Node) : Prop :=
  ∀ line s, .text line s ∈ nodes →
    ∀ line' span found, .markup line' span found ∈ pieces rule line s → ¬ HoldsBorder span

/-- Each of several rules, applied one after the other, takes nothing that holds a border. -/
def Spared : List (Rule (List Node)) → List Node → Prop
  | [], _ => True
  | rule :: rules, nodes => Spares rule nodes ∧ ∀ out, rewrite rule nodes = .ok out → Spared rules out

variable {ns ms rest : List Node}

theorem Parted.append (h : Parted ns ms) (nodes : List Node) : Parted (nodes ++ ns) (nodes ++ ms) := by
  induction nodes with
  | nil => exact h
  | cons n nodes ih => exact .same n ih

/-! ## Pieces before a border -/

section Pieces

variable {rule : Rule (List Node)} {ps qs bs : List (Piece (List Node))}

/-- The pieces of a text before a border, and those of the text with the text behind the border: the pieces `bs` of that
follow, joined with the text before the border where there is text on both sides, or both stop at a failure. -/
inductive Joined (line' : Int) (bs : List (Piece (List Node))) :
    Int → Text → List (Piece (List Node)) → List (Piece (List Node)) → Prop
  | nil : Joined line' bs line' [] [] bs
  | plain {line : Int} {t s : Text} {qs ps : List (Piece (List Node))} : Joined line' bs (line + t.newlines) s qs ps →
    Joined line' bs line (t ++ s) (.plain line t :: qs) (.plain line t :: ps)
  | markup {line : Int} {t s : Text} {found : List Node} {qs ps : List (Piece (List Node))} :
    Joined line' bs (line + t.newlines) s qs ps →
    Joined line' bs line (t ++ s) (.markup line t (.ok found) :: qs) (.markup line t (.ok found) :: ps)
  | border {line : Int} {t : Text} : t ≠ [] → line' = line + t.newlines →
    Joined line' bs line t [.plain line t] (joinPlain line t bs)
  | failed {line : Int} {t w w' : Text} {l l' : Int} {e e' : Error} :
    Joined line' bs line t [.markup l w (.error e)] [.markup l' w' (.error e')]

/-- A text in front of the pieces. -/
theorem Joined.join (h : Joined line' bs (line + t.newlines) s qs ps) (ht : t ≠ []) :
    Joined line' bs line (t ++ s) (joinPlain line t qs) (joinPlain line t ps) := by
  generalize hbehind : line + t.newlines = behind at h
  cases h with
  | nil =>
    rw [List.append_nil]
    exact .border ht hbehind.symm
  | @plain _ u s qs ps h =>
    rw [← List.append_assoc]
    refine .plain ?_
    rwa [line_append, hbehind]
  | markup h =>
    subst hbehind
    exact .plain (.markup h)
  | border hu hline =>
    rw [joinPlain_joinPlain]
    refine .border (List.append_ne_nil_of_left_ne_nil ht _) ?_
    rw [line_append, hbehind, hline]
  | failed => exact .plain .failed

theorem says_none {v : Option (Verdict (List Node))} (h : Says t u v none) : v = none := by
  cases h
  rfl

theorem says_declined {v : Option (Verdict (List Node))} {n : Nat} (h : Says t u v (some (.declined n))) :
    v = some (.declined n) := by
  cases h
  rfl

/-- What is found with the text behind a border is found without it, or goes on across the border. -/
theorem says_found {v : Option (Verdict (List Node))} {n : Nat} {found : List Node}
    (h : Says t u v (some (.accepted n (.ok found)))) :
    v = some (.accepted n (.ok found)) ∨ ∃ w rest, u = w ++ rest ∧ Border t w ∧ n = (t ++ w).length := by
  generalize hwhole : some (Verdict.accepted n (.ok found)) = whole at h ⊢
  cases h with
  | same => exact .inl rfl
  | failed => cases hwhole
  | across hbehind hborder =>
    obtain ⟨rfl, -⟩ := Verdict.accepted.inj (Option.some.inj hwhole)
    exact .inr ⟨_, _, hbehind, hborder, rfl⟩

theorem says_failed {v : Option (Verdict (List Node))} {n : Nat} {e : Error}
    (h : Says t u v (some (.accepted n (.error e)))) :
    (∃ n' e', v = some (.accepted n' (.error e'))) ∨ ∃ w rest, u = w ++ rest ∧ Border t w ∧ n = (t ++ w).length := by
  generalize hwhole : some (Verdict.accepted n (.error e)) = whole at h
  cases h with
  | same => exact .inl ⟨n, e, hwhole.symm⟩
  | failed => exact .inl ⟨_, _, rfl⟩
  | across hbehind hborder =>
    obtain ⟨rfl, -⟩ := Verdict.accepted.inj (Option.some.inj hwhole)
    exact .inr ⟨_, _, hbehind, hborder, rfl⟩

/-- A stretch that goes on across a border holds it. -/
theorem holdsBorder_of_across {more rest : Text} (h : t ++ u = w ++ s) (hu : u = more ++ rest) (hborder : Border t more)
    (hlength : w.length = (t ++ more).length) : HoldsBorder w := by
  rw [hu, ← List.append_assoc] at h
  obtain ⟨rfl, -⟩ := List.append_inj h.symm hlength
  exact ⟨t, more, rfl, hborder⟩

theorem Verdict.Fits.declined_split {Q : Int → Text → List Node → Prop} {p : Place} {n : Nat}
    (h : (Verdict.declined n).Fits Q p) : ∃ used rest, p.rest = used ++ rest ∧ used.length = n := by
  cases h with
  | declined hsplit => exact ⟨_, _, hsplit, rfl⟩

theorem Verdict.Fits.accepted_split {Q : Int → Text → List Node → Prop} {p : Place} {n : Nat}
    {found : Except Error (List Node)} (h : (Verdict.accepted n found).Fits Q p) :
    ∃ used rest, p.rest = used ++ rest ∧ used ≠ [] ∧ used.length = n := by
  cases h with
  | failed hsplit hused => exact ⟨_, _, hsplit, hused, rfl⟩
  | found hsplit hused => exact ⟨_, _, hsplit, hused, rfl⟩

/-- A stretch of a text that is as long as what is taken is what is taken. -/
theorem split_of_used {used rest : Text} (ht : t = used ++ rest) (hlength : used.length = w.length)
    (h : t ++ u = w ++ s) : t = w ++ rest ∧ s = rest ++ u := by
  subst ht
  rw [List.append_assoc] at h
  obtain ⟨rfl, rfl⟩ := List.append_inj h hlength
  exact ⟨rfl, rfl⟩

theorem mem_joinPlain_of_mem {α : Type} {ps : List (Piece α)} {span : Text} {l : Int} {found : Except Error α}
    (line : Int) (t : Text) (h : .markup l span found ∈ ps) : .markup l span found ∈ joinPlain line t ps := by
  unfold joinPlain
  split
  · simpa using h
  · exact List.mem_cons_of_mem _ h

theorem mem_absorbDeclined_of_mem {span : Text} {l : Int} {found : Except Error (List Node)}
    (h : .markup l span found ∈ ps) : .markup l span found ∈ absorbDeclined ps := by
  induction ps with
  | nil => exact h
  | cons p ps ih =>
    cases p with
    | plain line t | declined line t =>
      refine mem_joinPlain_of_mem line t (ih ?_)
      simpa using h
    | markup line t found' =>
      rcases List.mem_cons.mp h with heq | h
      · exact heq ▸ List.mem_cons_self
      · exact List.mem_cons_of_mem _ (ih h)

/-- Behind a character other than `@` a text is cut as at the head. -/
theorem Scan.unaware (hrule : rule.Bordered) (hprevious : previous ≠ some '@') (h : Scan rule previous line u ps) :
    ps = pieces rule line u := by
  rw [h.eq_pieces, pieces]
  cases u with
  | nil => rfl
  | cons c u => rw [piecesFrom, piecesFrom, hrule.behind hprevious]

/-- **Pieces at a border.**  A rule that takes nothing that holds a border cuts the text before it as with the text
behind it, and the text behind it as by itself. -/
theorem Scan.joined {Q : Int → Text → List Node → Prop} (hrule : rule.Bordered) (hreads : rule.Reads Q) (hu : Named u)
    (h : Scan rule previous line (t ++ u) ps) (hlast : t.getLast?.or previous ≠ some '@')
    (hline : line' = line + t.newlines) (hspares : ∀ l span found, .markup l span found ∈ ps → ¬ HoldsBorder span) :
    ∃ qs, Scan rule previous line t qs ∧
      Joined line' (absorbDeclined (pieces rule line' u)) line t (absorbDeclined qs) (absorbDeclined ps) := by
  induction hn : t.length using Nat.strong_induction_on generalizing previous line t ps with
  | _ n ih =>
    by_cases ht : t = []
    · subst ht
      obtain rfl : line' = line := by simpa [Text.newlines] using hline
      rw [h.unaware hrule (by simpa using hlast)]
      exact ⟨[], .nil, .nil⟩
    have hborder : Border t u := ⟨ht, by rwa [getLast?_or ht] at hlast, hu⟩
    -- what is taken at the head of the text is a stretch of it, and the rest of the text is shorter
    have hrest : ∀ {w rest : Text}, t = w ++ rest → w ≠ [] → rest.length < n ∧
        rest.getLast?.or w.getLast? ≠ some '@' ∧ line' = line + w.newlines + rest.newlines := by
      intro w rest hsplit hw
      subst hsplit
      refine ⟨?_, ?_, by rw [hline, line_append]⟩
      · have hpos := List.length_pos_of_ne_nil hw
        rw [← hn, List.length_append]
        omega
      · rwa [List.getLast?_append, Option.or_assoc, getLast?_or hw] at hlast
    have hsays : Says t u (rule ⟨previous, line, t⟩) (rule ⟨previous, line, t ++ u⟩) := hrule.before hborder
    generalize hwhole : t ++ u = whole at h hsays
    cases h with
    | nil => exact absurd (List.append_eq_nil_iff.mp hwhole).1 ht
    | @silent _ _ c s ps hsilent h =>
      rw [hsilent] at hsays
      have hshort := says_none hsays
      obtain ⟨d, rest, rfl⟩ := List.exists_cons_of_ne_nil ht
      obtain ⟨rfl, rfl⟩ := List.cons.inj hwhole
      obtain ⟨hshorter, hlast', hline'⟩ := hrest (w := [d]) rfl (List.cons_ne_nil _ _)
      rw [← lineAfter_eq] at hline'
      obtain ⟨qs, hqs, hjoined⟩ := ih _ hshorter h hlast' hline' (fun l span found hmem => hspares l span found
        (glue_eq (α := List Node) .. ▸ mem_joinPlain_of_mem line [d] hmem)) rfl
      refine ⟨glue line d qs, .silent hshort hqs, ?_⟩
      rw [glue_eq, glue_eq, absorbDeclined_joinPlain, absorbDeclined_joinPlain]
      rw [lineAfter_eq] at hjoined
      exact hjoined.join (t := [d]) (List.cons_ne_nil _ _)
    | @declined _ _ w s ps hw hdeclined h =>
      rw [hdeclined] at hsays
      have hshort := says_declined hsays
      obtain ⟨used, rest, hsplit, hlength⟩ := (hreads _ _ hshort).declined_split
      obtain ⟨rfl, rfl⟩ := split_of_used hsplit hlength hwhole
      obtain ⟨hshorter, hlast', hline'⟩ := hrest rfl hw
      obtain ⟨qs, hqs, hjoined⟩ := ih _ hshorter h hlast' hline' (fun l span found hmem => hspares l span found
        (List.mem_cons_of_mem _ hmem)) rfl
      exact ⟨.declined line w :: qs, .declined hw hshort hqs, hjoined.join hw⟩
    | @found _ _ w s a ps hw hfound h =>
      rw [hfound] at hsays
      rcases says_found hsays with hshort | ⟨more, rest, hu, hborder', hlength⟩
      · obtain ⟨used, rest, hsplit, -, hlength⟩ := (hreads _ _ hshort).accepted_split
        obtain ⟨rfl, rfl⟩ := split_of_used hsplit hlength hwhole
        obtain ⟨hshorter, hlast', hline'⟩ := hrest rfl hw
        obtain ⟨qs, hqs, hjoined⟩ := ih _ hshorter h hlast' hline' (fun l span found hmem => hspares l span found
          (List.mem_cons_of_mem _ hmem)) rfl
        exact ⟨.markup line w (.ok a) :: qs, .found hw hshort hqs, .markup hjoined⟩
      · exact absurd (holdsBorder_of_across hwhole hu hborder' hlength) (hspares _ _ _ List.mem_cons_self)
    | @failed _ _ w s e hw hfailed =>
      rw [hfailed] at hsays
      rcases says_failed hsays with ⟨n', e', hshort⟩ | ⟨more, rest, hu, hborder', hlength⟩
      · obtain ⟨used, rest, hsplit, hused, rfl⟩ := (hreads _ _ hshort).accepted_split
        obtain rfl : t = used ++ rest := hsplit
        exact ⟨[.markup line used (.error e')], .failed hused hshort, .failed⟩
      · exact absurd (holdsBorder_of_across hwhole hu hborder' hlength) (hspares _ _ _ List.mem_cons_self)

end Pieces

/-! ## A pass over parted nodes -/

/-- Nodes that are parted from each other, or a failure both times. -/
def Alike (x y : Except Error (List Node)) : Prop :=
  (∃ ns ms, x = .ok ns ∧ y = .ok ms ∧ Parted ns ms) ∨ ∃ e e', x = .error e ∧ y = .error e'

/-- The nodes of pieces in front of others. -/
def nodesBefore (ps : List (Piece (List Node))) (others : Except Error (List Node)) : Except Error (List Node) := do
  return (← nodesOf ps) ++ (← others)

section Pass

variable {rule : Rule (List Node)} {rules : List (Rule (List Node))} {ps qs bs : List (Piece (List Node))}
  {x y others : Except Error (List Node)}

theorem Alike.map_append (h : Alike x y) (nodes : List Node) : Alike (x.map (nodes ++ ·)) (y.map (nodes ++ ·)) := by
  rcases h with ⟨ns, ms, rfl, rfl, h⟩ | ⟨e, e', rfl, rfl⟩
  · exact .inl ⟨_, _, rfl, rfl, h.append nodes⟩
  · exact .inr ⟨e, e', rfl, rfl⟩

theorem nodesBefore_nil : nodesBefore [] others = others := by cases others <;> rfl

theorem nodesBefore_plain (line : Int) (t : Text) :
    nodesBefore (.plain line t :: ps) others = (nodesBefore ps others).map ([.text line t] ++ ·) := by
  unfold nodesBefore
  rw [nodesOf]
  cases nodesOf ps <;> cases others <;> rfl

theorem nodesBefore_markup (line : Int) (t : Text) (found : List Node) :
    nodesBefore (.markup line t (.ok found) :: ps) others = (nodesBefore ps others).map (found ++ ·) := by
  unfold nodesBefore
  rw [nodesOf]
  cases nodesOf ps <;> cases others <;> simp [Except.map, bind, Except.bind, pure, Except.pure]

theorem rewrite_text_cons (rule : Rule (List Node)) (line : Int) (s : Text) (nodes : List Node) :
    rewrite rule (.text line s :: nodes) = nodesBefore (absorbDeclined (pieces rule line s)) (rewrite rule nodes) := by
  rw [rewrite, rewriteNode]
  rfl

theorem last_of_append (h : (t ++ s).getLast? ≠ some '@') : s.getLast? ≠ some '@' := by
  intro hlast
  rw [List.getLast?_append, hlast] at h
  exact h rfl

/-- What a pass makes of a text before a border and of the text behind it, and of both together. -/
theorem Joined.alike (h : Joined line' bs line t qs ps) (hlast : t.getLast? ≠ some '@')
    (hfirst : ∀ l u rest, bs = .plain l u :: rest → l = line' ∧ Named u)
    (hbehind : (∀ l span found, .markup l span found ∈ bs → .markup l span found ∈ ps) → Alike x (nodesBefore bs y)) :
    Alike (nodesBefore qs x) (nodesBefore ps y) := by
  induction h with
  | nil =>
    rw [nodesBefore_nil]
    exact hbehind fun _ _ _ h => h
  | @plain line t s qs ps _ ih =>
    rw [nodesBefore_plain, nodesBefore_plain]
    exact (ih (last_of_append hlast) fun h => hbehind fun l span found hmem =>
      List.mem_cons_of_mem _ (h l span found hmem)).map_append _
  | @markup line t s found qs ps _ ih =>
    rw [nodesBefore_markup, nodesBefore_markup]
    exact (ih (last_of_append hlast) fun h => hbehind fun l span found hmem =>
      List.mem_cons_of_mem _ (h l span found hmem)).map_append _
  | @border line t ht hline =>
    have hx := hbehind fun l span found => mem_joinPlain_of_mem line t
    rw [nodesBefore_plain, nodesBefore_nil]
    cases bs with
    | nil =>
      rw [joinPlain, nodesBefore_plain]
      · exact hx.map_append _
      · simp
    | cons p bs =>
      cases p with
      | plain l u =>
        obtain ⟨rfl, hu⟩ := hfirst l u bs rfl
        rw [nodesBefore_plain] at hx
        rw [joinPlain, nodesBefore_plain]
        rcases hx with ⟨ns, ms, rfl, hms, hparted⟩ | ⟨e, e', rfl, he'⟩
        · obtain ⟨rest, hrest, rfl⟩ := map_eq_ok.mp hms
          rw [hrest]
          exact .inl ⟨_, _, rfl, rfl, .cut ⟨ht, hlast, hu⟩ (hline ▸ hparted)⟩
        · rw [map_eq_error.mp he']
          exact .inr ⟨_, _, rfl, rfl⟩
      | declined | markup =>
        rw [joinPlain, nodesBefore_plain]
        · exact hx.map_append _
        · simp
  | failed => exact .inr ⟨_, _, rfl, rfl⟩

/-- The text that the pieces of a text with a structural name at its head begin with has the name at its head too. -/
theorem first_named {Q : Int → Text → List Node → Prop} (hneat : rule.Neat) (hreads : rule.Reads Q) (hu : Named u)
    (h : absorbDeclined (pieces rule line u) = .plain line' t :: ps) : line' = line ∧ Named t := by
  have hleft := hneat.left line u
  have htiles := (hreads.tiles line u).absorbDeclined
  rw [h] at hleft htiles
  cases hleft with
  | text ht _ _ hends _ =>
    refine ⟨?_, Named.of_append ht hends hu⟩
    generalize t ++ _ = whole at htiles
    cases htiles
    rfl

theorem Spares.tail {n : Node} (h : Spares rule (n :: ms)) : Spares rule ms := fun line s hmem =>
  h line s (List.mem_cons_of_mem _ hmem)

/-- **A pass over parted nodes.**  A rule that takes nothing that holds a border makes parted nodes of parted nodes, or
it fails both times. -/
theorem Parted.rewrite {Q : Int → Text → List Node → Prop} (hneat : rule.Neat) (hreads : rule.Reads Q)
    (hrule : rule.Bordered) (h : Parted ns ms) (hspares : Spares rule ms) :
    Alike (rewrite rule ns) (rewrite rule ms) := by
  induction h with
  | nil => exact .inl ⟨[], [], rfl, rfl, .nil⟩
  | @same ns ms n _ ih =>
    have hrest := ih hspares.tail
    rw [Markup.rewrite, Markup.rewrite]
    cases rewriteNode rule n with
    | error e => exact .inr ⟨e, e, rfl, rfl⟩
    | ok first => exact hrest.map_append first
  | @cut line t u ns ms hborder _ ih =>
    have hwhole := hspares line (t ++ u) List.mem_cons_self
    have hlast : t.getLast?.or none ≠ some '@' := by
      rw [Option.or_none]
      exact hborder.last
    obtain ⟨qs, hqs, hjoined⟩ := (hreads.scan none line (t ++ u)).joined hrule hreads hborder.named hlast rfl hwhole
    obtain rfl := hqs.eq_pieces
    rw [rewrite_text_cons, rewrite_text_cons]
    have hfirst : ∀ l y rest, absorbDeclined (pieces rule (line + t.newlines) u) = .plain l y :: rest →
        l = line + t.newlines ∧ Named y :=
      fun l y rest hfirst => first_named hneat hreads hborder.named hfirst
    refine hjoined.alike hborder.last hfirst fun hmem => ?_
    rw [← rewrite_text_cons]
    refine ih fun line' s hs => ?_
    rcases List.mem_cons.mp hs with heq | hs
    · obtain ⟨rfl, rfl⟩ := Node.text.inj heq
      exact fun l span found hspan => hwhole l span found
        (mem_absorbDeclined (hmem l span found (mem_absorbDeclined_of_mem hspan)))
    · exact hspares line' s (List.mem_cons_of_mem _ hs)

/-- The rules behind structure, one after the other, make parted nodes of parted nodes, as long as they spare the
borders. -/
theorem Parted.rewriteAll (hnames : ∀ name ∈ registry.directives.names, IsWordName name)
    (hrules : rules ⊆ rulesBehindStructure registry template) (h : Parted ns ms) (hspared : Spared rules ms) :
    Alike (rewriteAll rules ns) (rewriteAll rules ms) := by
  induction rules generalizing ns ms with
  | nil => exact .inl ⟨ns, ms, rfl, rfl, h⟩
  | cons rule rules ih =>
    obtain ⟨hrule, hrules⟩ := List.cons_subset.mp hrules
    obtain ⟨sign, -, hthorough⟩ := exists_thorough hnames hrule
    have hpass := h.rewrite hthorough.neat hthorough.reads (rules_bordered hnames hrule) hspared.1
    unfold Markup.rewriteAll at ih ⊢
    rw [List.foldlM_cons, List.foldlM_cons]
    rcases hpass with ⟨ns', ms', hns, hms, h'⟩ | ⟨e, e', hns, hms⟩
    · rw [hns, hms]
      exact ih hrules h' (hspared.2 ms' hms)
    · rw [hns, hms]
      exact .inr ⟨e, e', rfl, rfl⟩

end Pass

/-! ## Grouping a template without structural directives -/

/-- A text in front of nodes that begin with text. -/
theorem Parted.prepend (h : Parted (.text (line + w.newlines) t :: ns) (.text (line + w.newlines) s :: ms))
    (hw : w ≠ []) : Parted (.text line (w ++ t) :: ns) (.text line (w ++ s) :: ms) := by
  cases h with
  | same _ h => exact .same _ h
  | @cut _ _ u _ _ hborder h =>
    rw [← line_append] at h
    rw [← List.append_assoc]
    refine .cut ⟨List.append_ne_nil_of_left_ne_nil hw t, ?_, hborder.named⟩ h
    rw [List.getLast?_append, getLast?_or hborder.ne_nil]
    exact hborder.last

/-- A structural name that is declined stands behind no `@`. -/
theorem named_of_declined {p : Place} {n : Nat} (h : mark template p = some (.declined n)) :
    Named p.rest ∧ p.previous ≠ some '@' := by
  unfold mark at h
  split at h
  · cases h
  case h_2 name rest hat =>
    obtain ⟨hmem, hsplit, hprevious, hends⟩ := directiveAt?_eq_some' hat
    exact ⟨⟨name, rest, hsplit, hmem, hends⟩, hprevious⟩

section Structure

variable {ps : List (Piece (Mark × Text))} {plain nodes : List Node}

/-- The events of pieces are nodes that part the text of the pieces. -/
def PartsText (line : Int) (s : Text) (ps : List (Piece (Mark × Text))) : Prop :=
  ∃ ns, (absorbAfterDeclined ps).map eventOf = ns.map Event.node ∧
    ∀ ns' ms, Parted ns' ms → Parted (ns ++ ns') (.text line s :: ms)

/-- A text in front of pieces that part the text behind it. -/
theorem PartsText.join (hw : w ≠ []) (h : Scan (mark template) w.getLast? (line + w.newlines) s ps)
    (hnone : ∀ l span found, .markup l span found ∉ ps)
    (hparts : s ≠ [] → PartsText (line + w.newlines) s ps) : PartsText line (w ++ s) (joinPlain line w ps) := by
  obtain ⟨hnil, hplain, hdeclined⟩ := h.first
  cases ps with
  | nil =>
    obtain rfl := hnil rfl
    exact ⟨[.text line w], rfl, fun ns' ms h => by simpa using Parted.same (.text line w) h⟩
  | cons p ps =>
    have hs : s ≠ [] := by
      rintro rfl
      have hempty : p :: ps = [] := h.of_nil
      cases hempty
    obtain ⟨ns, hns, hparted⟩ := hparts hs
    cases p with
    | plain l t =>
      obtain rfl := hplain l t ps rfl
      have hplain : absorbAfterDeclined (.plain (line + w.newlines) t :: ps) =
          .plain (line + w.newlines) t :: absorbAfterDeclined ps := rfl
      rw [hplain] at hns
      cases ns with
      | nil => cases hns
      | cons n ns =>
        obtain ⟨hn, hevents⟩ := List.cons.inj hns
        obtain rfl := Event.node.inj hn
        refine ⟨.text line (w ++ t) :: ns, ?_, fun ns' ms h => (hparted ns' ms h).prepend hw⟩
        simp [joinPlain, absorbAfterDeclined, eventOf, hevents]
    | declined l t =>
      obtain ⟨n, hrule⟩ := hdeclined l t ps rfl
      obtain ⟨hnamed, hlast⟩ := named_of_declined hrule
      refine ⟨.text line w :: ns, ?_, fun ns' ms h => .cut ⟨hw, hlast, hnamed⟩ (hparted ns' ms h)⟩
      rw [List.map_cons, ← hns]
      simp [joinPlain, absorbAfterDeclined, eventOf]
    | markup l span found => exact absurd List.mem_cons_self (hnone l span found)

/-- Pieces without markup part their text. -/
theorem Scan.parts (h : Scan (mark template) previous line s ps) (hnone : ∀ l span found, .markup l span found ∉ ps)
    (hs : s ≠ []) : PartsText line s ps := by
  induction h with
  | nil => exact absurd rfl hs
  | @silent previous line c s ps _ h ih =>
    rw [lineAfter_eq] at h ih
    have hrest : ∀ l span found, .markup l span found ∉ ps := fun l span found hmem =>
      hnone l span found (glue_eq line c ps ▸ mem_joinPlain_of_mem line [c] hmem)
    rw [glue_eq]
    exact PartsText.join (w := [c]) (List.cons_ne_nil _ _) h hrest (ih hrest)
  | @declined previous line t s ps ht _ h ih =>
    have hrest : ∀ l span found, .markup l span found ∉ ps := fun l span found hmem =>
      hnone l span found (List.mem_cons_of_mem _ hmem)
    obtain ⟨ns, hns, hparted⟩ := PartsText.join ht h hrest (ih hrest)
    exact ⟨ns, by rw [absorbAfterDeclined_declined, hns], hparted⟩
  | found => exact absurd List.mem_cons_self (hnone _ _ _)
  | failed => exact absurd List.mem_cons_self (hnone _ _ _)

/-- Where a structural directive is among the pieces, it can be seen in the text. -/
theorem Scan.sign_of_markup {l : Int} {span : Text} {found : Except Error (Mark × Text)}
    (h : Scan (mark template) previous line s ps) (hmem : .markup l span found ∈ ps) :
    ∃ before rest, s = before ++ rest ∧ directiveSign structuralUses (before.getLast?.or previous) rest := by
  induction h with
  | nil => cases hmem
  | @silent previous line c s ps _ _ ih =>
    obtain ⟨before, rest, rfl, hsign⟩ := ih (mem_glue hmem)
    exact ⟨c :: before, rest, rfl, by rwa [getLast?_or_cons]⟩
  | @declined previous line t s ps ht _ _ ih =>
    obtain ⟨before, rest, rfl, hsign⟩ := ih (List.mem_of_ne_of_mem (by simp) hmem)
    refine ⟨t ++ before, rest, (List.append_assoc ..).symm, ?_⟩
    rwa [List.getLast?_append, Option.or_assoc, getLast?_or ht]
  | found _ hrule => exact ⟨[], _, rfl, directiveSign_of_accepted hrule⟩
  | failed _ hrule => exact ⟨[], _, rfl, directiveSign_of_accepted hrule⟩

/-- The events of nodes in whose texts no structural directive can be read are nodes that part these. -/
theorem events_parted (template : Text) (hfree : Free (directiveSign structuralUses) plain)
    (htexts : ∀ line s, .text line s ∈ plain → s ≠ []) :
    ∃ ns, plain.flatMap (eventsOf template) = ns.map Event.node ∧ Parted ns plain := by
  induction plain with
  | nil => exact ⟨[], rfl, .nil⟩
  | cons n plain ih =>
    have hrest : Free (directiveSign structuralUses) plain := fun line t ht =>
      hfree line t (by rw [items_cons]; exact List.mem_append_right _ ht)
    obtain ⟨ns, hns, hparted⟩ := ih hrest fun line s hmem => htexts line s (List.mem_cons_of_mem _ hmem)
    rw [List.flatMap_cons, hns]
    cases n with
    | text line s =>
      have hreads : (mark template).Reads fun _ s _ => IsMarkup .standard s := mark_reads
      have hscan := hreads.scan none line s
      have hnone : ∀ l span found, .markup l span found ∉ piecesFrom (mark template) 0 none line s := by
        intro l span found hmem
        obtain ⟨before, rest, hsplit, hsign⟩ := hscan.sign_of_markup hmem
        rw [Option.or_none] at hsign
        exact hfree line s (by simp) ⟨before, rest, hsplit, hsign⟩
      obtain ⟨first, hfirst, hparts⟩ := hscan.parts hnone (htexts line s List.mem_cons_self)
      have hevents : eventsOf template (.text line s) = first.map Event.node := hfirst
      exact ⟨first ++ ns, by rw [hevents, List.map_append], hparts ns plain hparted⟩
    | _ => exact ⟨_ :: ns, rfl, .same _ hparted⟩

theorem run_nodes (template : Text) (nodes done : List Node) :
    (nodes.map Event.node).foldlM (Outline.step template) ⟨done, none⟩ = .ok ⟨done ++ nodes, none⟩ := by
  induction nodes generalizing done with
  | nil => rw [List.append_nil]; rfl
  | cons n nodes ih =>
    have hstep : Outline.step template ⟨done, none⟩ (.node n) = .ok ⟨done ++ [n], none⟩ := rfl
    rw [List.map_cons, List.foldlM_cons, hstep]
    exact (ih (done ++ [n])).trans (by rw [List.append_assoc]; rfl)

/-- **Grouping without structural directives.**  It parts the nodes, and does nothing else. -/
theorem structure_parted (template : Text) (hfree : Free (directiveSign structuralUses) plain)
    (htexts : ∀ line s, .text line s ∈ plain → s ≠ []) :
    ∃ ns, structure? template plain = .ok ns ∧ Parted ns plain := by
  obtain ⟨ns, hns, hparted⟩ := events_parted template hfree htexts
  refine ⟨ns, ?_, hparted⟩
  unfold structure?
  rw [hns, run_nodes]
  rfl

end Structure

/-! ## The program of a template without structural directives -/

theorem push_push (p : Program.Pending) (line line' : Int) (t u : Text) :
    (p.push line t).push line' u = p.push line (t ++ u) := by
  unfold Program.Pending.push
  by_cases h : p.started
  · simp [h]
  · simp [h]

/-- Texts that stand side by side are printed as one. -/
theorem Parted.emitNodes (h : Parted ns ms) (p : Program.Pending) (b : Program.Builder) :
    Program.emitNodes p b ns = Program.emitNodes p b ms := by
  induction h generalizing p b with
  | nil => rfl
  | same n _ ih =>
    rw [Program.emitNodes, Program.emitNodes]
    exact bind_congr fun found => ih found.1 found.2
  | @cut line t u ns ms _ _ ih =>
    have htext : ∀ (p : Program.Pending) (line : Int) (s : Text) (nodes : List Node),
        Program.emitNodes p b (.text line s :: nodes) = Program.emitNodes (p.push line s) b nodes := by
      intro p line s nodes
      rw [Program.emitNodes, Program.emitNode]
      rfl
    rw [htext, ih, htext, htext, push_push]

theorem Parted.generate (h : Parted ns ms) (template : Option Text) :
    Program.generate template ns = Program.generate template ms := by
  unfold Program.generate Program.emit
  rw [h.emitNodes]

/-- The program of a template without grouping. -/
def lowerUngrouped (registry : Registry) (template source : Text) : Except Error Program.Builder := do
  let nodes ← readPlain source
  Program.generate (some template) (← rewriteAll (rulesBehindStructure registry template) nodes)

theorem Covers.text_ne_nil {P : Text → Prop} {xs : List Item} (h : Covers P line s xs) {l : Int}
    (ht : Item.node (.text l t) ∈ xs) : t ≠ [] := by
  obtain ⟨segments, hcut, rfl⟩ := h
  obtain ⟨seg, hseg, ht⟩ := List.mem_flatMap.mp ht
  rcases (hcut.lawful seg hseg).2 with htext | ⟨-, hfinal⟩
  · rw [htext] at ht
    obtain ⟨-, rfl⟩ := Node.text.inj (Item.node.inj (List.mem_singleton.mp ht))
    exact (hcut.lawful seg hseg).1
  · exact (hfinal _ ht).elim

/-- No text behind the regions and comments is empty. -/
theorem readPlain_texts {source : Text} {plain : List Node} (h : readPlain source = .ok plain) :
    ∀ line s, .text line s ∈ plain → s ≠ [] := by
  obtain ⟨regions, hregions, hcomment⟩ := bind_eq_ok.mp h
  have hcovers : Covers (IsMarkup .standard) 1 source (items plain) :=
    (extractRegions_covers hregions).refine (rewrite_refines comment_reads regions hcomment)
  intro line s hmem
  have hitem : Item.node (.text line s) ∈ items plain := mem_items.mpr ⟨.text line s, hmem, List.mem_singleton_self _⟩
  exact hcovers.text_ne_nil hitem

/-- The program of a template, from what structure makes of its nodes. -/
theorem lower_of_structure {source : Text} {plain ns : List Node} (hplain : readPlain source = .ok plain)
    (hns : structure? template plain = .ok ns) : (lower registry template source).2 =
      rewriteAll (rulesBehindStructure registry template) ns >>= Program.generate (some template) := by
  have hstructure : readStructure template source = .ok ns := bind_eq_ok.mpr ⟨plain, hplain, hns⟩
  have hread : (read registry template source).nodes = rewriteAll (rulesBehindStructure registry template) ns := by
    rw [read_nodes_eq_structure, hstructure]
    exact runPasses_rewrite _ _
  unfold lower
  rw [← hread]

theorem lowerUngrouped_of_plain {source : Text} {plain : List Node} (hplain : readPlain source = .ok plain) :
    lowerUngrouped registry template source =
      rewriteAll (rulesBehindStructure registry template) plain >>= Program.generate (some template) := by
  unfold lowerUngrouped
  rw [hplain]
  rfl

/-- **Structural names that stay text.**  Where no structural directive can be read behind the regions and comments of a
template, and no rule behind structure takes markup that holds a structural name, the template has the program that it
has without grouping, or none both times. -/
theorem declined_unseen (registry : Registry) (template : Text)
    (hnames : ∀ name ∈ registry.directives.names, IsWordName name) {source : Text} {plain : List Node}
    (hplain : readPlain source = .ok plain) (hfree : Free (directiveSign structuralUses) plain)
    (hspared : Spared (rulesBehindStructure registry template) plain) :
    (lower registry template source).2.toOption = (lowerUngrouped registry template source).toOption := by
  obtain ⟨ns, hns, hparted⟩ := structure_parted template hfree (readPlain_texts hplain)
  rw [lower_of_structure hplain hns, lowerUngrouped_of_plain hplain]
  rcases hparted.rewriteAll hnames (List.Subset.refl _) hspared with ⟨ns', ms', hns', hms', h⟩ | ⟨e, e', hns', hms'⟩
  · rw [hns', hms']
    exact congrArg Except.toOption (h.generate (some template))
  · rw [hns', hms']
    rfl

/-! ### A name before an interpolation -/

section Section

variable {before after : Text}

/-- The name of a section without a group is no structural directive. -/
theorem not_sign_section (hends : EndsWord "section" after) (hopens : ¬ Opens after) :
    ¬ directiveSign structuralUses previous ('@' :: "section" ++ after) := by
  rintro ⟨-, name, use, after', hmem, hsplit, hends', huse⟩
  have hsection : (("section" : Text), Argument.Use.required) ∈ structuralUses := by simp [structuralUses, breakingUses]
  obtain ⟨-, hne, hword, -⟩ := structuralUses_name hsection
  obtain ⟨-, hne', hword', hbare⟩ := structuralUses_name hmem
  obtain ⟨rfl, rfl⟩ := name_unique hword hword' hne hne' hends hends' (List.cons.inj hsplit).2
  have hrequired : use = .required := by
    simp only [structuralUses, breakingUses, List.mem_cons, List.not_mem_nil, or_false, Prod.mk.injEq] at hmem
    rcases hmem with ⟨hname, huse⟩ | ⟨hname, huse⟩ | ⟨hname, huse⟩ | ⟨hname, huse⟩ | ⟨hname, huse⟩
    iterate 3 exact huse
    all_goals exact absurd hname (by decide)
  exact hopens (huse hrequired)

theorem free_section (hbefore : '@' ∉ before) (hafter : '@' ∉ "section" ++ after) (hends : EndsWord "section" after)
    (hopens : ¬ Opens after) :
    Free (directiveSign structuralUses) [.text line (before ++ '@' :: "section" ++ after)] := by
  rintro l t ht ⟨x, rest, hsplit, hsign⟩
  obtain ⟨-, rfl⟩ : l = line ∧ t = before ++ '@' :: "section" ++ after := by simpa using ht
  obtain ⟨c, y, rfl, -⟩ := (directiveSign_lawful _).head hsign
  have hc : c = '@' := by
    obtain ⟨-, name, use, after', -, heq, -, -⟩ := hsign
    exact (List.cons.inj heq).1
  subst hc
  have hwhole : before ++ '@' :: ("section" ++ after) = x ++ '@' :: y := by rw [← hsplit]; simp
  -- the text holds one `@`
  rcases List.append_eq_append_iff.mp hwhole with ⟨a, rfl, h⟩ | ⟨a, rfl, h⟩
  · cases a with
    | nil =>
      rw [← (List.cons.inj h).2] at hsign
      exact not_sign_section hends hopens hsign
    | cons d a => exact hafter ((List.cons.inj h).2 ▸ by simp)
  · cases a with
    | nil =>
      rw [(List.cons.inj h).2] at hsign
      exact not_sign_section hends hopens hsign
    | cons d a =>
      obtain ⟨rfl, -⟩ := List.cons.inj h
      exact hbefore (by simp)

end Section

theorem not_holdsBorder {span : Text} (h : '@' ∉ span) : ¬ HoldsBorder span := by
  rintro ⟨before, behind, rfl, hborder⟩
  obtain ⟨t, rfl⟩ := hborder.named.cons
  exact h (by simp)

theorem Spared.cons {rule : Rule (List Node)} {rules : List (Rule (List Node))} {nodes out : List Node}
    (h : Spares rule nodes) (hout : rewrite rule nodes = .ok out) (hrest : Spared rules out) :
    Spared (rule :: rules) nodes := by
  refine ⟨h, fun out' hout' => ?_⟩
  rw [hout] at hout'
  exact Except.ok.inj hout' ▸ hrest

/-- Rules that take nothing in the only text of nodes spare all borders. -/
theorem spared_of_pieces {rules more : List (Rule (List Node))} {nodes : List Node}
    (hnodes : ∀ n ∈ nodes, Settled n) (h : ∀ rule ∈ rules, pieces rule line s = [.plain line s])
    (hmore : Spared more (.text line s :: nodes)) : Spared (rules ++ more) (.text line s :: nodes) := by
  induction rules with
  | nil => exact hmore
  | cons rule rules ih =>
    obtain ⟨hrule, hrules⟩ := List.forall_mem_cons.mp h
    have hrest : rewrite rule nodes = .ok nodes := by
      have hsettled : rewrite rule (nodes ++ []) = (rewrite rule []).map (nodes ++ ·) := rewrite_settled hnodes
      simpa [rewrite, Except.map] using hsettled
    refine Spared.cons (fun line' t ht => ?_) (rewrite_text hrule hrest) (ih hrules)
    rcases List.mem_cons.mp ht with heq | ht
    · obtain ⟨rfl, rfl⟩ := Node.text.inj heq
      simp [hrule]
    · exact (hnodes _ ht).elim

/-- A template with a name that stays text. -/
def mailed : Text := "me@section \x7b\x7b x \x7d\x7d"

theorem spared_mailed : Spared (rulesBehindStructure .standard "page") [.text 1 mailed] := by
  have hfirst : ∀ rule ∈ [family "page" (custom .standard), family "page" csrf],
      pieces rule 1 mailed = [.plain 1 mailed] := by
    simp only [List.forall_mem_cons]
    refine ⟨?_, ?_, List.forall_mem_nil _⟩ <;> cbv
  have hecho : pieces (echo .standard "page") 1 mailed =
      [.plain 1 "me@section ", .markup 1 "\x7b\x7b x \x7d\x7d" (.ok [.echo 1 "x" true])] := by cbv
  have hlater : ∀ rule ∈ (rulesBehindStructure .standard "page").drop 3,
      pieces rule 1 "me@section " = [.plain 1 "me@section "] := by
    simp only [rulesBehindStructure, rulesBeforeIncludes, rulesAfterIncludes, List.cons_append, List.nil_append,
      List.drop_succ_cons, List.drop_zero, List.forall_mem_cons]
    refine ⟨?_, ?_, ?_, ?_, ?_, ?_, ?_, ?_, ?_, ?_, ?_, List.forall_mem_nil _⟩ <;> cbv
  have hrest : Spared ((rulesBehindStructure .standard "page").drop 3 ++ [])
      [.text 1 "me@section ", .echo 1 "x" true] :=
    spared_of_pieces (by simp) hlater trivial
  rw [List.append_nil] at hrest
  have hspares : Spares (echo .standard "page") [.text 1 mailed] := by
    intro line s hs line' span found hmem
    obtain ⟨rfl, rfl⟩ := Node.text.inj (List.mem_singleton.mp hs)
    rw [hecho] at hmem
    obtain ⟨-, rfl, -⟩ : line' = 1 ∧ span = "\x7b\x7b x \x7d\x7d" ∧ found = .ok [.echo 1 "x" true] := by
      simpa using hmem
    exact not_holdsBorder (by decide)
  have hout : rewrite (echo .standard "page") [.text 1 mailed] = .ok [.text 1 "me@section ", .echo 1 "x" true] := by
    rw [rewrite_text_cons, hecho]
    rfl
  have hall : Spared ([family "page" (custom .standard), family "page" csrf] ++
      echo .standard "page" :: (rulesBehindStructure .standard "page").drop 3) [.text 1 mailed] :=
    spared_of_pieces (List.forall_mem_nil _) hfirst (Spared.cons hspares hout hrest)
  exact hall

theorem endsWord_section {c : Char} (hc : Text.isWord c = false) (after : Text) : EndsWord "section" (c :: after) :=
  endsWord_cons (isWordName_of_builtin (by decide)) (List.cons_ne_nil _ _) hc after

/-- The name stays text and does not keep the interpolation behind it from being one. -/
theorem declined_unseen_mailed :
    (lower .standard "page" mailed).2.toOption = (lowerUngrouped .standard "page" mailed).toOption := by
  have hplain : readPlain mailed = .ok [.text 1 mailed] := by cbv
  have hends : EndsWord "section" " \x7b\x7b x \x7d\x7d" := endsWord_section (by decide) _
  have hfree : Free (directiveSign structuralUses) [.text 1 ("me" ++ '@' :: "section" ++ " \x7b\x7b x \x7d\x7d")] :=
    free_section (by decide) (by decide) hends (by unfold Opens; decide)
  exact declined_unseen .standard "page" (List.forall_mem_nil _) hplain hfree spared_mailed

/-! ### A name in an interpolation -/

/-- A template with an interpolation of such a name. -/
def quoted : Text := "\x7b\x7b '@section' \x7d\x7d"

/-- Structure takes nothing in a text without `@`. -/
theorem silent_mark (h : '@' ∉ t) : Silent (mark template) previous line t s := by
  induction t generalizing previous line with
  | nil => exact .nil
  | cons c t ih =>
    rw [List.mem_cons, not_or] at h
    exact .cons (mark_plain template (Ne.symm h.1) previous line (t ++ s)) (ih h.2)

theorem structure_quoted : structure? "page" [.text 1 quoted] =
    .ok [.text 1 "\x7b\x7b '", .text 1 "@section' \x7d\x7d"] := by
  have hsection : (("section" : Text), Argument.Use.required) ∈ structuralUses := by simp [structuralUses, breakingUses]
  have hdeclined : mark "page" ⟨some '\'', 1, ('@' :: ("section" : Text)) ++ ("' \x7d\x7d" : Text)⟩ =
      some (.declined ('@' :: ("section" : Text)).length) := by
    have hends : EndsWord "section" "' \x7d\x7d" := endsWord_section (by decide) _
    have hprevious : (some '\'' : Option Char) ≠ some '@' := by decide
    have hat := structuralAt hsection hprevious hends
    have hopens : ¬ (("section" : Text) = "endsection" ∨ ("section" : Text) = "show") := by decide
    unfold mark
    rw [hat]
    simp only [hopens, if_false]
    rfl
  have hbehind : piecesFrom (mark "page") 0 (some 'n') 1 "' \x7d\x7d" = [.plain 1 "' \x7d\x7d"] := by
    have hsilent : Silent (mark "page") (some 'n') 1 "' \x7d\x7d" [] := silent_mark (by decide)
    exact hsilent.pieces rfl
  have hreads : (mark "page").Reads fun _ s _ => IsMarkup .standard s := mark_reads
  have hname : Scan (mark "page") (some '\'') 1 (('@' :: ("section" : Text)) ++ ("' \x7d\x7d" : Text))
      [.declined 1 "@section", .plain 1 "' \x7d\x7d"] :=
    .declined (List.cons_ne_nil _ _) hdeclined (hbehind ▸ hreads.scan (some 'n') 1 "' \x7d\x7d")
  have hpieces : pieces (mark "page") 1 quoted =
      [.plain 1 "\x7b\x7b '", .declined 1 "@section", .plain 1 "' \x7d\x7d"] := by
    have hfront : Silent (mark "page") none 1 "\x7b\x7b '" ('@' :: "section" ++ "' \x7d\x7d") := silent_mark (by decide)
    have hlast : ("\x7b\x7b '" : Text).getLast? = some '\'' := rfl
    have hjoined := hfront.pieces hlast
    rw [show (1 : Int) + Text.newlines "\x7b\x7b '" = 1 from rfl, ← hname.eq_pieces] at hjoined
    exact hjoined
  simp only [structure?, eventsOf, List.flatMap_cons, List.flatMap_nil, hpieces]
  rfl

theorem rewriteAll_quoted : rewriteAll (rulesBehindStructure .standard "page") [.text 1 quoted] =
    .ok [.echo 1 "'@section'" true] := by
  have hnode : echoNode .standard 1 " '@section' " = .ok [.echo 1 "'@section'" true] := by
    have hsegments : Filter.segments "'@section'" = [("'@section'" : Text)] := by decide +kernel
    have hstrip : Text.strip " '@section' " = "'@section'" := by decide
    unfold echoNode Filter.pipeline
    rw [hstrip, hsegments]
    rfl
  have hread : echo .standard "page" ⟨none, 1, quoted ++ []⟩ =
      some (.accepted quoted.length (.ok [.echo 1 "'@section'" true])) := by
    have hinside : delimited? "\x7b\x7b" "\x7d\x7d" ('\x7b' :: ("\x7b '@section' \x7d\x7d" : Text)) =
        some ((" '@section' " : Text), []) := by cbv
    have hbrace : ('\x7b' : Char) ≠ '@' := by decide
    have hecho : echo .standard "page" ⟨none, 1, '\x7b' :: ("\x7b '@section' \x7d\x7d" : Text)⟩ = _ :=
      echo_brace hbrace
    have hsplit : quoted ++ [] = '\x7b' :: ("\x7b '@section' \x7d\x7d" : Text) := by decide
    rw [hinside, Option.map_some] at hecho
    simp only [hnode] at hecho
    rw [hsplit, hecho, Place.accept, ← hsplit]
    simp only [Except.mapError, List.append_nil, List.length_nil, Nat.sub_zero]
  have hecho : rewrite (echo .standard "page") [.text 1 quoted] = .ok [.echo 1 "'@section'" true] := by
    have hne : quoted ≠ [] := by decide
    have hpieces : pieces (echo .standard "page") 1 quoted =
        [.markup 1 quoted (.ok [.echo 1 "'@section'" true])] := by
      rw [← List.append_nil quoted, pieces_found hne hread, List.append_nil, piecesFrom]
    rw [rewrite_text_cons, hpieces]
    rfl
  have hfirst : rewriteAll [family "page" (custom .standard), family "page" csrf] [.text 1 quoted] =
      .ok [.text 1 quoted] := by cbv
  have hlater : rewriteAll ((rulesBehindStructure .standard "page").drop 3) [.echo 1 "'@section'" true] =
      .ok [.echo 1 "'@section'" true] := by cbv
  have hrules : rulesBehindStructure .standard "page" = [family "page" (custom .standard), family "page" csrf] ++
      echo .standard "page" :: (rulesBehindStructure .standard "page").drop 3 := rfl
  unfold rewriteAll at hfirst hlater ⊢
  rw [hrules, List.foldlM_append]
  refine bind_eq_ok.mpr ⟨_, hfirst, ?_⟩
  rw [List.foldlM_cons]
  exact bind_eq_ok.mpr ⟨_, hecho, hlater⟩

/-- A name in a literal of an interpolation stays text and keeps the interpolation from being one. -/
theorem section_quoted : ¬ ∀ source plain, readPlain source = .ok plain → Free (directiveSign structuralUses) plain →
    (lower .standard "page" source).2.toOption = (lowerUngrouped .standard "page" source).toOption := by
  intro h
  have hplain : readPlain quoted = .ok [.text 1 quoted] := by cbv
  have hends : EndsWord "section" "' \x7d\x7d" := endsWord_section (by decide) _
  have hfree : Free (directiveSign structuralUses) [.text 1 ("\x7b\x7b '" ++ '@' :: "section" ++ "' \x7d\x7d")] :=
    free_section (by decide) (by decide) hends (by unfold Opens; decide)
  have hparted : rewriteAll (rulesBehindStructure .standard "page")
      [.text 1 "\x7b\x7b '", .text 1 "@section' \x7d\x7d"] =
        .ok [.text 1 "\x7b\x7b '", .text 1 "@section' \x7d\x7d"] := by cbv
  have hprinted : Program.generate (some "page") [.text 1 "\x7b\x7b '", .text 1 "@section' \x7d\x7d"] =
      .ok ⟨some "page", [⟨"_echo(\"\x7b\x7b '@section' \x7d\x7d\")", 1⟩], []⟩ := by cbv
  have hechoed : Program.generate (some "page") [.echo 1 "'@section'" true] =
      .ok ⟨some "page", [⟨"_echo(_e('@section'))", 1⟩], []⟩ := by cbv
  have hsame := h quoted _ hplain hfree
  rw [lower_of_structure hplain structure_quoted, lowerUngrouped_of_plain hplain, hparted, rewriteAll_quoted] at hsame
  have hprograms := (congrArg Except.toOption hprinted).symm.trans (hsame.trans (congrArg Except.toOption hechoed))
  simp [Except.toOption] at hprograms

end Stencil.Markup
