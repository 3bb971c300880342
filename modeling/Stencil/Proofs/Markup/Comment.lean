import Stencil.Program.Emit
import Stencil.Proofs.Markup.Pass

/-!
# Comments

A comment vanishes with all that stands in it, as long as it is still text when comments are looked for: the regions of a
template are taken out before, and one that begins inside a comment is a region.

* `Silent` — a rule takes nothing in a stretch of a text; `Silent.rewriteNode` — the stretch stays in front of what the
  rule makes of the text behind it.
* `StaysText` — a front of a template is still text behind the regions.
* `readPlain_commented` — a template with a comment behind its regions and comments does not depend on what stands in it.
* `staysText_commented` — a comment in which no region is opened is still text.
* `comment_unseen` — whatever stands in a comment that is still text, the template is lowered to the same program.
* `region_from_comment` — a region that begins inside a comment is taken out, and the rest of the comment is printed.
-/

namespace Stencil.Markup

/-! ## Stretches in which a rule takes nothing -/

section Silent

variable {α : Type} {rule : Rule α} {previous : Option Char} {line : Int} {last : Char} {front more s t : Text}
  {ps : List (Piece α)}

/-- A rule takes nothing at any place of a stretch before a text. -/
inductive Silent (rule : Rule α) : Option Char → Int → Text → Text → Prop
  | nil {previous : Option Char} {line : Int} {s : Text} : Silent rule previous line [] s
  | cons {previous : Option Char} {line : Int} {c : Char} {front s : Text} :
    rule ⟨previous, line, c :: (front ++ s)⟩ = none → Silent rule (some c) (lineAfter c line) front s →
    Silent rule previous line (c :: front) s

/-- The line behind a text is the line behind what follows its first character. -/
theorem line_cons (c : Char) (t : Text) (line : Int) :
    line + Text.newlines (c :: t) = lineAfter c line + Text.newlines t := by
  rw [lineAfter_eq]
  exact line_append line [c] t

theorem Silent.of_append (h : Silent rule previous line (front ++ more) s) :
    Silent rule previous line front (more ++ s) := by
  induction front generalizing previous line with
  | nil => exact .nil
  | cons c front ih =>
    cases h with
    | cons hrule hrest =>
      have hsame : front ++ more ++ s = front ++ (more ++ s) := List.append_assoc ..
      exact .cons (hsame ▸ hrule) (ih hrest)

/-- A text is a stretch in which a rule takes nothing, up to the place where it takes something or to the end. -/
theorem exists_silent (rule : Rule α) (previous : Option Char) (line : Int) (s : Text) :
    ∃ front behind, s = front ++ behind ∧ Silent rule previous line front behind ∧
      (behind = [] ∨ ∃ v, rule ⟨front.getLast?.or previous, line + front.newlines, behind⟩ = some v) := by
  induction s generalizing previous line with
  | nil => exact ⟨[], [], rfl, .nil, .inl rfl⟩
  | cons c s ih =>
    cases hrule : rule ⟨previous, line, c :: s⟩ with
    | some v => exact ⟨[], c :: s, rfl, .nil, .inr ⟨v, by simpa using hrule⟩⟩
    | none =>
      obtain ⟨front, behind, rfl, hsilent, hbehind⟩ := ih (some c) (lineAfter c line)
      refine ⟨c :: front, behind, rfl, .cons hrule hsilent, hbehind.imp_right ?_⟩
      rintro ⟨v, hv⟩
      refine ⟨v, ?_⟩
      rw [getLast?_or_cons, line_cons]
      exact hv

theorem glue_eq (line : Int) (c : Char) (ps : List (Piece α)) : glue line c ps = joinPlain line [c] ps := by
  cases ps with
  | nil => rfl
  | cons p ps => cases p <;> rfl

theorem joinPlain_joinPlain (line line' : Int) (s t : Text) (ps : List (Piece α)) :
    joinPlain line s (joinPlain line' t ps) = joinPlain line (s ++ t) ps := by
  cases ps with
  | nil => rfl
  | cons p ps => cases p <;> simp [joinPlain]

theorem absorbDeclined_joinPlain (line : Int) (t : Text) (ps : List (Piece α)) :
    absorbDeclined (joinPlain line t ps) = joinPlain line t (absorbDeclined ps) := by
  cases ps with
  | nil => rfl
  | cons p ps =>
    cases p with
    | plain line' u => exact (joinPlain_joinPlain line line' t u _).symm
    | declined line' u => rfl
    | markup line' span found => rfl

/-- A stretch in which a rule takes nothing is joined with the text behind it. -/
theorem Silent.pieces (h : Silent rule previous line front s) (hlast : front.getLast? = some last) :
    piecesFrom rule 0 previous line (front ++ s) =
      joinPlain line front (piecesFrom rule 0 (some last) (line + front.newlines) s) := by
  induction h with
  | nil => cases hlast
  | @cons previous line c front s hrule _ ih =>
    rw [line_cons, List.cons_append, piecesFrom, hrule, glue_eq]
    cases front with
    | nil =>
      obtain rfl : c = last := by simpa using hlast
      simp [Text.newlines]
    | cons d front =>
      rw [List.getLast?_cons_cons] at hlast
      simp only
      rw [ih hlast, joinPlain_joinPlain]
      rfl

/-- Characters that belong to markup already seen are passed over. -/
theorem piecesFrom_skip (rule : Rule α) (previous : Option Char) (line : Int) (t s : Text) :
    piecesFrom rule t.length previous line (t ++ s) =
      piecesFrom rule 0 (t.getLast?.or previous) (line + t.newlines) s := by
  induction t generalizing previous line with
  | nil => simp
  | cons c t ih =>
    rw [line_cons, getLast?_or_cons, ← ih]
    rfl

end Silent

/-! ## What stands behind a front -/

section Front

variable {rule : Rule (List Node)} {line : Int} {last : Char} {front s : Text} {out : List Node}

/-- The text that continues a front, and the nodes behind it. -/
def continued : List (Piece (List Node)) → Except Error (Text × List Node)
  | .plain _ t :: ps => (nodesOf ps).map (t, ·)
  | ps => (nodesOf ps).map ([], ·)

/-- What a rule makes of a text behind a front that ends with a character: what continues the front, and the nodes. -/
def rewriteBehind (rule : Rule (List Node)) (last : Char) (line : Int) (s : Text) : Except Error (Text × List Node) :=
  continued (absorbDeclined (piecesFrom rule 0 (some last) line s))

theorem nodesOf_joinPlain (line : Int) (t : Text) (ps : List (Piece (List Node))) :
    nodesOf (joinPlain line t ps) = (continued ps).map fun (u, nodes) => .text line (t ++ u) :: nodes := by
  have hplain : ∀ (u : Text) (qs : List (Piece (List Node))), nodesOf (.plain line u :: qs) =
      ((nodesOf qs).map (([] : Text), ·)).map fun (v, nodes) => .text line (u ++ v) :: nodes := by
    intro u qs
    cases h : nodesOf qs <;> simp [nodesOf, h, Except.map, bind, Except.bind, pure, Except.pure]
  cases ps with
  | nil => exact hplain t []
  | cons p ps =>
    cases p with
    | plain line' u =>
      cases h : nodesOf ps <;>
        simp [joinPlain, continued, nodesOf, h, Except.map, bind, Except.bind, pure, Except.pure]
    | declined line' u => exact hplain t _
    | markup line' span found => exact hplain t _

/-- A front in which a rule takes nothing stays in front of what the rule makes of the text behind it. -/
theorem Silent.rewriteNode (h : Silent rule none line front s) (hlast : front.getLast? = some last) :
    rewriteNode rule (.text line (front ++ s)) = (rewriteBehind rule last (line + front.newlines) s).map
      fun (u, nodes) => .text line (front ++ u) :: nodes := by
  rw [Markup.rewriteNode, Markup.pieces, h.pieces hlast, absorbDeclined_joinPlain, nodesOf_joinPlain]
  rfl

/-- A rule never fails where it takes something, and declines nothing. -/
def Rule.Total (rule : Rule (List Node)) : Prop := ∀ p v, rule p = some v → ∃ n found, v = .accepted n (.ok found)

/-- A text that does not begin with markup becomes, first of all, the text before the first markup. -/
theorem first_text (hrule : rule.Total) {c : Char}
    (hc : ∀ previous line s, rule ⟨previous, line, c :: s⟩ = none)
    (h : Markup.rewriteNode rule (.text line (c :: s)) = .ok out) :
    ∃ front behind nodes, s = front ++ behind ∧ Silent rule none line (c :: front) behind ∧
      out = .text line (c :: front) :: nodes := by
  obtain ⟨front, behind, rfl, hsilent, hbehind⟩ := exists_silent rule (some c) (lineAfter c line) s
  have hfront : Silent rule none line (c :: front) behind := .cons (hc _ _ _) hsilent
  obtain ⟨last, hlast⟩ : ∃ last, (c :: front).getLast? = some last := ⟨_, List.getLast?_cons⟩
  have hplace : front.getLast?.or (some c) = some last := by
    rw [← getLast?_or_cons c front none, hlast]
    rfl
  have hnothing : ∀ found, rewriteBehind rule last (line + Text.newlines (c :: front)) behind = .ok found →
      found.1 = [] := by
    intro found hfound
    unfold rewriteBehind at hfound
    rw [hplace, ← line_cons] at hbehind
    cases behind with
    | nil =>
      obtain rfl := Except.ok.inj hfound
      rfl
    | cons d behind =>
      obtain ⟨v, hv⟩ := hbehind.resolve_left (List.cons_ne_nil _ _)
      obtain ⟨n, nodes, rfl⟩ := hrule _ v hv
      rw [piecesFrom, hv] at hfound
      obtain ⟨nodes, -, rfl⟩ := map_eq_ok.mp hfound
      rfl
  rw [← List.cons_append, hfront.rewriteNode hlast] at h
  obtain ⟨⟨u, nodes⟩, hfound, rfl⟩ := map_eq_ok.mp h
  obtain rfl : u = [] := hnothing _ hfound
  exact ⟨front, behind, nodes, rfl, hfront, by simp⟩

end Front

/-! ## Regions behind a front -/

section Regions

variable {last : Char} {front s : Text}

/-- A front of a template is still text when the regions have been taken out: none of them begins inside it. -/
def StaysText (front source : Text) : Prop :=
  ∃ rest nodes, extractRegions source = .ok (.text 1 (front ++ rest) :: nodes)

/-- The regions in a text behind a front: what continues the front, and the nodes. -/
def regionsBehind (last : Char) (line : Int) (s : Text) : Except Error (Text × List Node) := do
  let (t, nodes) ← rewriteBehind verbatim last line s
  let (u, inner) ← rewriteBehind program last line t
  return (u, inner ++ (← rewrite program nodes))

theorem region?_at (opener closer : Text) {p : Place} {found : Text × Text} (h : region? opener closer p = some found) :
    p.rest.head? = some '@' := by
  unfold region? directiveAt? at h
  cases hrest : p.rest with
  | nil =>
    rw [hrest] at h
    cases h
  | cons c s =>
    rw [hrest] at h
    by_cases hc : c = '@'
    · rw [hc]
      rfl
    · simp [hc] at h

theorem verbatim_eq_some {p : Place} {v : Verdict (List Node)} (h : verbatim p = some v) :
    ∃ found, region? "verbatim" "endverbatim" p = some found := by
  obtain ⟨found, hfound, -⟩ := Option.map_eq_some_iff.mp h
  exact ⟨found, hfound⟩

theorem program_eq_some {p : Place} {v : Verdict (List Node)} (h : program p = some v) :
    ∃ found, region? "python" "endpython" p = some found := by
  obtain ⟨found, hfound, -⟩ := Option.map_eq_some_iff.mp h
  exact ⟨found, hfound⟩

theorem verbatim_total : verbatim.Total := by
  intro p v h
  obtain ⟨found, -, rfl⟩ := Option.map_eq_some_iff.mp h
  exact ⟨_, _, rfl⟩

theorem program_total : program.Total := by
  intro p v h
  obtain ⟨found, -, rfl⟩ := Option.map_eq_some_iff.mp h
  exact ⟨_, _, rfl⟩

variable {rule : Rule (List Node)} {opener closer : Text}

/-- No region begins at a character other than the sign of directives. -/
theorem not_at (hrule : ∀ p v, rule p = some v → ∃ found, region? opener closer p = some found) {c : Char}
    (hc : c ≠ '@') (previous : Option Char) (line : Int) (s : Text) : rule ⟨previous, line, c :: s⟩ = none := by
  cases h : rule ⟨previous, line, c :: s⟩ with
  | none => rfl
  | some v =>
    obtain ⟨found, hfound⟩ := hrule _ v h
    exact absurd (Option.some.inj (region?_at _ _ hfound)) hc

theorem rewrite_cons {node : Node} {nodes out : List Node} :
    rewrite rule (node :: nodes) = .ok out ↔
      ∃ first rest, rewriteNode rule node = .ok first ∧ rewrite rule nodes = .ok rest ∧ out = first ++ rest := by
  rw [rewrite, bind_eq_ok]
  constructor
  · rintro ⟨first, hfirst, h⟩
    obtain ⟨rest, hrest, h⟩ := bind_eq_ok.mp h
    exact ⟨first, rest, hfirst, hrest, (Except.ok.inj h).symm⟩
  · rintro ⟨first, rest, hfirst, hrest, rfl⟩
    exact ⟨first, hfirst, bind_eq_ok.mpr ⟨rest, hrest, rfl⟩⟩

/-- In a front that is still text behind the regions neither kind of region begins. -/
theorem StaysText.silent {c : Char} (h : StaysText (c :: front) (c :: front ++ s)) (hc : c ≠ '@')
    (hlast : (c :: front).getLast? = some last) :
    Silent verbatim none 1 (c :: front) s ∧
      ∀ t nodes, rewriteBehind verbatim last (1 + Text.newlines (c :: front)) s = .ok (t, nodes) →
        Silent program none 1 (c :: front) t := by
  obtain ⟨rest, nodes, hregions⟩ := h
  obtain ⟨between, hverbatim, hprogram⟩ := bind_eq_ok.mp hregions
  obtain ⟨outer, none', houter, hnone, rfl⟩ := rewrite_cons.mp hverbatim
  -- the text before the first verbatim region, and what is left of it before the first program region
  obtain ⟨kept, behind, after, hsplit, hsilent, rfl⟩ := first_text verbatim_total
    (not_at (fun p v => verbatim_eq_some) hc) houter
  rw [List.cons_append] at hprogram
  obtain ⟨inner, rest', hinner, -, hall⟩ := rewrite_cons.mp hprogram
  obtain ⟨left, behind', after', rfl, hsilent', rfl⟩ := first_text program_total
    (not_at (fun p v => program_eq_some) hc) hinner
  have hleft : left = front ++ rest := by
    have hnode := (List.cons.inj hall).1
    simpa using (Node.text.inj hnode).2.symm
  subst hleft
  have hcontinues : s = rest ++ behind' ++ behind := by
    have hsame : front ++ s = front ++ rest ++ behind' ++ behind := hsplit
    rw [List.append_assoc, List.append_assoc] at hsame
    rw [List.append_assoc]
    exact List.append_cancel_left hsame
  have hverbatimSilent : Silent verbatim none 1 (c :: front) s := by
    rw [hcontinues]
    exact Silent.of_append (by simpa using hsilent)
  refine ⟨hverbatimSilent, fun t nodes ht => ?_⟩
  have houter' := hverbatimSilent.rewriteNode hlast
  rw [ht, houter] at houter'
  have hnode := (List.cons.inj (Except.ok.inj houter')).1
  have htext : front ++ rest ++ behind' = front ++ t := by simpa using (Node.text.inj hnode).2
  rw [List.append_assoc] at htext
  rw [← List.append_cancel_left htext]
  exact Silent.of_append (by simpa using hsilent')

/-- A front in which no region begins stays in front of what the regions make of the text behind it. -/
theorem extractRegions_front {regions : List Node} (hlast : front.getLast? = some last)
    (hverbatim : Silent verbatim none 1 front s)
    (hprogram : ∀ t nodes, rewriteBehind verbatim last (1 + front.newlines) s = .ok (t, nodes) →
      Silent program none 1 front t) (h : extractRegions (front ++ s) = .ok regions) :
    ∃ t nodes, regionsBehind last (1 + front.newlines) s = .ok (t, nodes) ∧ regions = .text 1 (front ++ t) :: nodes := by
  obtain ⟨between, hfirst, hsecond⟩ := bind_eq_ok.mp h
  obtain ⟨outer, none', houter, hnone, rfl⟩ := rewrite_cons.mp hfirst
  obtain rfl := Except.ok.inj hnone
  rw [hverbatim.rewriteNode hlast] at houter
  obtain ⟨⟨t, nodes⟩, ht, rfl⟩ := map_eq_ok.mp houter
  rw [List.append_nil] at hsecond
  obtain ⟨inner, rest, hinner, hrest, rfl⟩ := rewrite_cons.mp hsecond
  rw [(hprogram t nodes ht).rewriteNode hlast] at hinner
  obtain ⟨⟨u, found⟩, hu, rfl⟩ := map_eq_ok.mp hinner
  refine ⟨u, found ++ rest, ?_, rfl⟩
  exact bind_eq_ok.mpr ⟨(t, nodes), ht, bind_eq_ok.mpr ⟨(u, found), hu, bind_eq_ok.mpr ⟨rest, hrest, rfl⟩⟩⟩

/-- A piece that is no failure. -/
def Piece.Succeeds {α : Type} : Piece α → Prop
  | .markup _ _ (.error _) => False
  | _ => True

section Total

variable {ps : List (Piece (List Node))}

theorem joinPlain_succeeds (line : Int) (t : Text) (h : ∀ p ∈ ps, p.Succeeds) : ∀ p ∈ joinPlain line t ps, p.Succeeds := by
  intro p hp
  unfold joinPlain at hp
  split at hp
  · rcases List.mem_cons.mp hp with rfl | hp
    · trivial
    · exact h p (by simp [hp])
  · rcases List.mem_cons.mp hp with rfl | hp
    · trivial
    · exact h p hp

theorem absorbDeclined_succeeds (h : ∀ p ∈ ps, p.Succeeds) : ∀ p ∈ absorbDeclined ps, p.Succeeds := by
  induction ps with
  | nil => exact h
  | cons p ps ih =>
    have hrest := ih fun q hq => h q (by simp [hq])
    cases p with
    | plain line t => exact joinPlain_succeeds line t hrest
    | declined line t => exact joinPlain_succeeds line t hrest
    | markup line span found =>
      intro q hq
      rcases List.mem_cons.mp hq with rfl | hq
      · exact h _ (by simp)
      · exact hrest q hq

theorem piecesFrom_succeeds (hrule : rule.Total) (skip : Nat)
    (previous : Option Char) (line : Int) (s : Text) : ∀ p ∈ piecesFrom rule skip previous line s, p.Succeeds := by
  induction s generalizing skip previous line with
  | nil => cases skip <;> simp [piecesFrom]
  | cons c s ih =>
    cases skip with
    | succ skip => exact ih skip (some c) (lineAfter c line)
    | zero =>
      rw [piecesFrom]
      cases hv : rule ⟨previous, line, c :: s⟩ with
      | none =>
        simp only
        rw [glue_eq]
        exact joinPlain_succeeds line [c] (ih 0 (some c) (lineAfter c line))
      | some v =>
        obtain ⟨n, found, rfl⟩ := hrule _ v hv
        intro p hp
        rcases List.mem_cons.mp hp with rfl | hp
        · trivial
        · exact ih (n - 1) (some c) (lineAfter c line) p hp

theorem nodesOf_total (h : ∀ p ∈ ps, p.Succeeds) : ∃ out, nodesOf ps = .ok out := by
  induction ps with
  | nil => exact ⟨[], rfl⟩
  | cons p ps ih =>
    obtain ⟨rest, hrest⟩ := ih fun q hq => h q (by simp [hq])
    have hp := h p (by simp)
    rw [nodesOf.eq_def]
    cases p with
    | plain line t => exact ⟨_, bind_eq_ok.mpr ⟨rest, hrest, rfl⟩⟩
    | declined line t => exact ⟨_, bind_eq_ok.mpr ⟨rest, hrest, rfl⟩⟩
    | markup line span found =>
      cases found with
      | error e => exact hp.elim
      | ok found => exact ⟨_, bind_eq_ok.mpr ⟨found, rfl, bind_eq_ok.mpr ⟨rest, hrest, rfl⟩⟩⟩

mutual

theorem rewriteNode_total (hrule : rule.Total) (node : Node) :
    ∃ out, rewriteNode rule node = .ok out := by
  cases node with
  | text line s =>
    rw [rewriteNode]
    exact nodesOf_total (absorbDeclined_succeeds (piecesFrom_succeeds hrule 0 none line s))
  | captured line name label body =>
    obtain ⟨body', hbody⟩ := rewrite_total hrule body
    rw [rewriteNode]
    exact ⟨_, bind_eq_ok.mpr ⟨body', hbody, rfl⟩⟩
  | _ => exact ⟨_, rfl⟩

/-- A rule that never fails where it takes something rewrites all nodes. -/
theorem rewrite_total (hrule : rule.Total) (nodes : List Node) :
    ∃ out, rewrite rule nodes = .ok out := by
  cases nodes with
  | nil => exact ⟨[], rfl⟩
  | cons node nodes =>
    obtain ⟨first, hfirst⟩ := rewriteNode_total hrule node
    obtain ⟨rest, hrest⟩ := rewrite_total hrule nodes
    exact ⟨first ++ rest, rewrite_cons.mpr ⟨first, rest, hfirst, hrest, rfl⟩⟩

end

end Total

/-- Taking regions out never fails. -/
theorem extractRegions_total (source : Text) : ∃ regions, extractRegions source = .ok regions := by
  obtain ⟨between, hbetween⟩ := rewrite_total verbatim_total [.text 1 source]
  obtain ⟨regions, hregions⟩ := rewrite_total program_total between
  exact ⟨regions, bind_eq_ok.mpr ⟨between, hbetween, hregions⟩⟩

end Regions

/-! ## Comments -/

section Comments

variable {before inside s : Text} {line : Int} {previous : Option Char}

/-- A comment as it is written. -/
def commented (inside : Text) : Text := "\x7b\x7b--" ++ inside ++ "--\x7d\x7d"

/-- What opens and closes a comment stands at its ends. -/
theorem commented_eq (inside : Text) : commented inside = '\x7b' :: ("\x7b--" ++ inside ++ "--\x7d\x7d") := rfl

/-- The closer of a comment does not overlap itself, so behind a text that does not hold it, it is the first one. -/
theorem cut?_closer (h : Text.contains "--\x7d\x7d" inside = false) (s : Text) :
    Text.cut? "--\x7d\x7d" (inside ++ ("--\x7d\x7d" ++ s)) = some (inside, s) := by
  induction inside with
  | nil => rfl
  | cons c inside ih =>
    obtain ⟨hhere, hlater⟩ := Text.contains_cons_eq_false.mp h
    have hnone : Text.after? "--\x7d\x7d" (c :: (inside ++ ("--\x7d\x7d" ++ s))) = none := by
      cases hafter : Text.after? "--\x7d\x7d" (c :: (inside ++ ("--\x7d\x7d" ++ s))) with
      | none => rfl
      | some rest =>
        have hsplit := Text.after?_eq_some.mp hafter
        rcases inside with _ | ⟨d, _ | ⟨e, _ | ⟨f, inside⟩⟩⟩
        · simp at hsplit
        · simp at hsplit
        · simp at hsplit
        · have hsame : c :: d :: e :: f :: (inside ++ ("--\x7d\x7d" ++ s)) = '-' :: '-' :: '\x7d' :: '\x7d' :: rest := hsplit
          simp only [List.cons.injEq] at hsame
          obtain ⟨rfl, rfl, rfl, rfl, -⟩ := hsame
          cases hhere
    rw [List.cons_append, Text.cut?, hnone]
    simp only
    rw [ih hlater]
    rfl

/-- A comment is taken out, up to the first closer. -/
theorem comment_at (h : Text.contains "--\x7d\x7d" inside = false) (previous : Option Char) (line : Int) (s : Text) :
    comment ⟨previous, line, commented inside ++ s⟩ = some (.accepted (commented inside).length (.ok [])) := by
  have hafter : Text.after? "\x7b\x7b--" (commented inside ++ s) = some (inside ++ ("--\x7d\x7d" ++ s)) := by
    rw [Text.after?_eq_some, commented]
    simp
  unfold comment
  simp only
  rw [hafter]
  simp only
  rw [cut?_closer h, Option.map_some, List.length_append, Nat.add_sub_cancel]

/-- No comment begins in a text without braces. -/
theorem silent_comment (h : '\x7b' ∉ before) (previous : Option Char) (line : Int) (s : Text) :
    Silent comment previous line before s := by
  induction before generalizing previous line with
  | nil => exact .nil
  | cons c before ih =>
    rw [List.mem_cons, not_or] at h
    refine .cons ?_ (ih h.2 _ _)
    have hafter : Text.after? "\x7b\x7b--" (c :: (before ++ s)) = none := if_neg h.1
    unfold comment
    simp only
    rw [hafter]

/-- The pieces of a text that begins with a comment. -/
theorem pieces_commented (h : Text.contains "--\x7d\x7d" inside = false) (previous : Option Char) (line : Int) (s : Text) :
    piecesFrom comment 0 previous line (commented inside ++ s) = .markup line (commented inside) (.ok []) ::
      piecesFrom comment 0 (some '\x7d') (line + Text.newlines (commented inside)) s := by
  have hat := comment_at h previous line s
  have hlast : ("\x7b--" ++ inside ++ "--\x7d\x7d" : Text).getLast? = some '\x7d' := by
    rw [List.getLast?_append]
    rfl
  have hskip := piecesFrom_skip comment (some '\x7b') (lineAfter '\x7b' line) ("\x7b--" ++ inside ++ "--\x7d\x7d") s
  rw [hlast, Option.some_or, ← line_cons, ← commented_eq] at hskip
  rw [commented_eq, List.cons_append] at hat ⊢
  rw [piecesFrom, hat]
  simp only [List.length_cons, Nat.add_sub_cancel]
  rw [hskip, ← List.cons_append, ← List.length_cons, List.take_left]
  rfl

/-- What comments are in a text behind a comment that stands behind another text. -/
def behindComment (before : Text) (line : Int) (s : Text) : Except Error (List Node) :=
  (nodesOf (absorbDeclined (piecesFrom comment 0 (some '\x7d') line s))).map fun nodes =>
    if before = [] then nodes else .text 1 before :: nodes

/-- A comment vanishes: what is left does not depend on what stands in it. -/
theorem rewriteNode_commented (hbefore : '\x7b' ∉ before) (h : Text.contains "--\x7d\x7d" inside = false) (s : Text) :
    rewriteNode comment (.text 1 (before ++ commented inside ++ s)) =
      behindComment before (1 + Text.newlines (before ++ commented inside)) s := by
  have hvanish : ∀ (line : Int) (ps : List (Piece (List Node))),
      nodesOf (.markup line (commented inside) (.ok []) :: ps) = nodesOf ps := by
    intro line ps
    cases hps : nodesOf ps <;> simp [nodesOf, hps, bind, Except.bind, pure, Except.pure]
  rw [List.append_assoc, rewriteNode, pieces]
  by_cases hempty : before = []
  · rw [hempty, List.nil_append, List.nil_append, pieces_commented h]
    unfold behindComment
    rw [absorbDeclined, hvanish]
    · cases nodesOf _ <;> rfl
    all_goals simp
  · obtain ⟨last, hlast⟩ : ∃ last, before.getLast? = some last := by
      rw [← Option.ne_none_iff_exists', Ne, List.getLast?_eq_none_iff]
      exact hempty
    rw [(silent_comment hbefore none 1 _).pieces hlast, absorbDeclined_joinPlain, nodesOf_joinPlain, pieces_commented h,
      ← line_append]
    unfold behindComment
    simp only [absorbDeclined, continued, hvanish, if_neg hempty]
    cases nodesOf _ <;> simp [Except.map]

/-- Behind its regions and comments a template with a comment does not depend on what stands in it, as long as the
comment is still text behind the regions. -/
theorem readPlain_commented {front : Text} (hfront : before ++ commented inside = front)
    (hbefore : '@' ∉ before ∧ '\x7b' ∉ before) (h : Text.contains "--\x7d\x7d" inside = false)
    (hstays : StaysText front (front ++ s)) :
    ∃ t nodes, regionsBehind '\x7d' (1 + front.newlines) s = .ok (t, nodes) ∧
      readPlain (front ++ s) = (do return (← behindComment before (1 + front.newlines) t) ++ (← rewrite comment nodes)) := by
  obtain ⟨c, rest, hc, hcons⟩ : ∃ c rest, c ≠ '@' ∧ front = c :: rest := by
    rw [← hfront]
    cases before with
    | nil => exact ⟨'\x7b', _, by decide, rfl⟩
    | cons d before =>
      rw [List.mem_cons, not_or] at hbefore
      exact ⟨d, _, Ne.symm hbefore.1.1, rfl⟩
  have hlast : front.getLast? = some '\x7d' := by
    rw [← hfront, List.getLast?_append, commented, List.getLast?_append]
    rfl
  obtain ⟨regions, hregions⟩ := extractRegions_total (front ++ s)
  have hsilent : Silent verbatim none 1 front s ∧
      ∀ t nodes, rewriteBehind verbatim '\x7d' (1 + front.newlines) s = .ok (t, nodes) → Silent program none 1 front t := by
    subst hcons
    exact hstays.silent hc hlast
  obtain ⟨t, nodes, hbehind, rfl⟩ := extractRegions_front hlast hsilent.1 hsilent.2 hregions
  refine ⟨t, nodes, hbehind, ?_⟩
  have hcomment := rewriteNode_commented hbefore.2 h t
  rw [hfront] at hcomment
  unfold readPlain
  rw [hregions]
  show rewrite comment (.text 1 (front ++ t) :: nodes) = _
  rw [rewrite, hcomment]

/-- What a template is lowered to: the names that it includes, and its program or the first failure. -/
def lower (registry : Registry) (template source : Text) : List Text × Except Error Program.Builder :=
  let reading := read registry template source
  (reading.dependencies, do Program.generate (some template) (← reading.nodes))

theorem lower_of_readPlain {registry : Registry} {template source source' : Text} (h : readPlain source = readPlain source') :
    lower registry template source = lower registry template source' := by
  unfold lower read readInner readStructure
  rw [h]

/-! ## Comments without regions -/

variable {rule : Rule (List Node)} {opener closer : Text}

theorem Silent.append {front more : Text} (h : Silent rule previous line front (more ++ s))
    (hmore : ∀ previous line, Silent rule previous line more s) : Silent rule previous line (front ++ more) s := by
  induction front generalizing previous line with
  | nil => exact hmore previous line
  | cons c front ih =>
    cases h with
    | cons hrule hrest =>
      have hsame : front ++ (more ++ s) = front ++ more ++ s := (List.append_assoc ..).symm
      exact .cons (hsame ▸ hrule) (ih hrest)

/-- No region begins in a text without the sign of directives. -/
theorem silent_of_no_sign (hrule : ∀ p v, rule p = some v → ∃ found, region? opener closer p = some found)
    (h : '@' ∉ inside) (previous : Option Char) (line : Int) (s : Text) : Silent rule previous line inside s := by
  induction inside generalizing previous line with
  | nil => exact .nil
  | cons c inside ih =>
    rw [List.mem_cons, not_or] at h
    exact .cons (not_at hrule (Ne.symm h.1) _ _ _) (ih h.2 _ _)

/-- No region begins in what a comment holds if no opener of the region stands there: the closer of the comment does not
make one of it. -/
theorem silent_of_no_opener (hrule : ∀ p v, rule p = some v → ∃ found, region? opener closer p = some found)
    (hminus : '-' ∉ '@' :: opener) (h : Text.contains ('@' :: opener) inside = false) (previous : Option Char) (line : Int)
    (s : Text) : Silent rule previous line inside ('-' :: s) := by
  induction inside generalizing previous line with
  | nil => exact .nil
  | cons c inside ih =>
    obtain ⟨hhere, hlater⟩ := Text.contains_cons_eq_false.mp h
    refine .cons ?_ (ih hlater _ _)
    cases hv : rule ⟨previous, line, c :: (inside ++ '-' :: s)⟩ with
    | none => rfl
    | some v =>
      obtain ⟨⟨body, rest⟩, hfound⟩ := hrule _ v hv
      have hsplit : c :: (inside ++ '-' :: s) = '@' :: opener ++ body ++ '@' :: closer ++ rest := (region?_eq_some hfound).1
      have hopens : Text.after? ('@' :: opener) ((c :: inside) ++ '-' :: s) = some (body ++ '@' :: closer ++ rest) := by
        rw [Text.after?_eq_some, List.cons_append, hsplit]
        simp
      obtain ⟨rest', hrest'⟩ := Text.after?_before hminus hopens
      rw [hhere] at hrest'
      cases hrest'

/-- A comment in which no opener of a region stands is still text behind the regions, whatever follows it. -/
theorem staysText_commented (hbefore : '@' ∉ before) (hverbatim : Text.contains "@verbatim" inside = false)
    (hprogram : Text.contains "@python" inside = false) (s : Text) :
    StaysText (before ++ commented inside) (before ++ commented inside ++ s) := by
  have hsilent : ∀ (rule : Rule (List Node)) (opener closer : Text),
      (∀ p v, rule p = some v → ∃ found, region? opener closer p = some found) → '-' ∉ '@' :: opener →
      Text.contains ('@' :: opener) inside = false → ∀ t, Silent rule none 1 (before ++ commented inside) t := by
    intro rule opener closer hrule hminus hopener t
    have hcloser : ∀ previous line, Silent rule previous line "--\x7d\x7d" t := fun previous line =>
      silent_of_no_sign hrule (by decide) previous line t
    have hinside : ∀ previous line, Silent rule previous line (inside ++ "--\x7d\x7d") t := fun previous line =>
      (silent_of_no_opener hrule hminus hopener previous line _).append hcloser
    have hfront : Silent rule none 1 (before ++ "\x7b\x7b--") (inside ++ "--\x7d\x7d" ++ t) :=
      silent_of_no_sign hrule (by simpa using hbefore) none 1 _
    have hwhole := hfront.append hinside
    rw [List.append_assoc] at hwhole
    unfold commented
    rw [List.append_assoc "\x7b\x7b--".toList]
    exact hwhole
  obtain ⟨regions, hregions⟩ := extractRegions_total (before ++ commented inside ++ s)
  have hlast : (before ++ commented inside).getLast? = some '\x7d' := by
    rw [List.getLast?_append, commented, List.getLast?_append]
    rfl
  obtain ⟨t, nodes, -, rfl⟩ := extractRegions_front hlast
    (hsilent verbatim _ _ (fun p v => verbatim_eq_some) (by decide) hverbatim s)
    (fun t nodes _ => hsilent program _ _ (fun p v => program_eq_some) (by decide) hprogram t) hregions
  exact ⟨t, nodes, hregions⟩

/-- **Comments.**  Two comments that hold as many line breaks may stand for each other in a template, behind a text
without `@` and braces, as long as each is still text when the regions of its template have been taken out, which is done
first: the template is lowered to the same program, line by line, with the same includes, or fails the same way.  A
comment that holds no opener of a region is still text then, whatever follows it. -/
theorem comment_unseen (registry : Registry) (template before inside inside' behind : Text)
    (hbefore : '@' ∉ before ∧ '\x7b' ∉ before)
    (hinside : Text.contains "--\x7d\x7d" inside = false) (hinside' : Text.contains "--\x7d\x7d" inside' = false)
    (hlines : inside.newlines = inside'.newlines)
    (hstays : StaysText (before ++ commented inside) (before ++ commented inside ++ behind))
    (hstays' : StaysText (before ++ commented inside') (before ++ commented inside' ++ behind)) :
    lower registry template (before ++ commented inside ++ behind) =
      lower registry template (before ++ commented inside' ++ behind) := by
  have hsame : Text.newlines (before ++ commented inside) = Text.newlines (before ++ commented inside') := by
    have happend : ∀ s t : Text, Text.newlines (s ++ t) = s.newlines + t.newlines := fun _ _ => List.count_append
    unfold commented
    simp only [happend]
    rw [hlines]
  obtain ⟨t, nodes, hregions, hread⟩ := readPlain_commented rfl hbefore hinside hstays
  obtain ⟨t', nodes', hregions', hread'⟩ := readPlain_commented rfl hbefore hinside' hstays'
  rw [← hsame, hregions] at hregions'
  obtain ⟨rfl, rfl⟩ := Prod.mk.inj (Except.ok.inj hregions')
  apply lower_of_readPlain
  rw [hread, hread', hsame]

theorem comment_unseen_echo :
    lower .standard "page" ("a".toList ++ commented " \x7b\x7b secret \x7d\x7d @if(x) " ++ "b@endif") =
      lower .standard "page" ("a".toList ++ commented "-" ++ "b@endif") :=
  comment_unseen .standard "page" "a" " \x7b\x7b secret \x7d\x7d @if(x) " "-" "b@endif" (by decide) (by decide)
    (by decide) (by decide) (staysText_commented (by decide) (by decide) (by decide) _)
    (staysText_commented (by decide) (by decide) (by decide) _)

/-- A rule that takes nothing in a text leaves it alone. -/
theorem rewrite_text {rule : Rule (List Node)} {line : Int} {s : Text} {nodes : List Node}
    (htext : pieces rule line s = [.plain line s]) (hrest : rewrite rule nodes = .ok nodes) :
    rewrite rule (.text line s :: nodes) = .ok (.text line s :: nodes) := by
  have hnode : rewriteNode rule (.text line s) = .ok [.text line s] := by
    rw [rewriteNode, htext]
    simp [absorbDeclined, joinPlain, nodesOf, bind, Except.bind, pure, Except.pure]
  exact rewrite_cons.mpr ⟨_, _, hnode, hrest, rfl⟩

theorem rewriteAll_self {rules : List (Rule (List Node))} {nodes : List Node}
    (h : ∀ rule ∈ rules, rewrite rule nodes = .ok nodes) : rewriteAll rules nodes = .ok nodes := by
  induction rules with
  | nil => rfl
  | cons rule rules ih =>
    obtain ⟨hrule, hrules⟩ := List.forall_mem_cons.mp h
    unfold rewriteAll
    rw [List.foldlM_cons, hrule]
    exact ih hrules

theorem readPlain_of_passes {source : Text} {outer inner nodes : List Node}
    (hverbatim : rewrite verbatim [.text 1 source] = .ok outer) (hprogram : rewrite program outer = .ok inner)
    (hcomment : rewrite comment inner = .ok nodes) : readPlain source = .ok nodes := by
  unfold readPlain extractRegions
  rw [hverbatim]
  show (do rewrite comment (← rewrite program outer)) = _
  rw [hprogram]
  exact hcomment

/-- A template that no rule changes behind its regions and comments is lowered to the program of what is left of it. -/
theorem lower_of_untouched {registry : Registry} {template source : Text} {nodes : List Node}
    (hplain : readPlain source = .ok nodes) (hstructure : structure? template nodes = .ok nodes)
    (hinner : ∀ rule ∈ rulesBeforeIncludes registry template, rewrite rule nodes = .ok nodes)
    (hnone : findings ((inclusion template).map Prod.fst) nodes = [])
    (hinclusion : rewrite ((inclusion template).map Prod.snd) nodes = .ok nodes)
    (hafter : ∀ rule ∈ rulesAfterIncludes registry template, rewrite rule nodes = .ok nodes) :
    lower registry template source = ([], Program.generate (some template) nodes) := by
  have hread : readInner registry template source = .ok nodes := by
    unfold readInner readStructure
    rw [hplain]
    show (do rewriteAll _ (← structure? template nodes)) = _
    rw [hstructure]
    exact rewriteAll_self hinner
  unfold lower read
  rw [hread]
  simp only [hnone, hinclusion]
  show ([], do Program.generate (some template) (← rewriteAll (rulesAfterIncludes registry template) nodes)) = _
  rw [rewriteAll_self hafter]
  rfl

/-- Regions are taken out before comments: of a comment in which a region begins, the text before the region is printed. -/
theorem region_from_comment :
    ¬ ∀ (registry : Registry) (template before inside inside' behind : Text),
      '@' ∉ before ∧ '\x7b' ∉ before → Text.contains "--\x7d\x7d" inside = false →
      Text.contains "--\x7d\x7d" inside' = false → inside.newlines = inside'.newlines →
      lower registry template (before ++ commented inside ++ behind) =
        lower registry template (before ++ commented inside' ++ behind) := by
  intro h
  have hsame := h .standard "page" [] "secret@verbatim" "@verbatim" "@endverbatim" (by decide) (by decide) (by decide)
    (by decide)
  -- nothing but the verbatim region is taken out of the two templates
  have hlower : ∀ shown ∈ (["\x7b\x7b--secret", "\x7b\x7b--"] : List Text), ∀ source,
      rewrite verbatim [.text 1 source] = .ok [.text 1 shown, .verbatim 1 "--\x7d\x7d"] →
      lower .standard "page" source = ([], Program.generate (some "page") [.text 1 shown, .verbatim 1 "--\x7d\x7d"]) := by
    simp only [List.forall_mem_cons]
    refine ⟨?_, ?_, List.forall_mem_nil _⟩ <;>
    · intro source hverbatim
      apply lower_of_untouched
      · exact readPlain_of_passes hverbatim (rewrite_text rfl rfl) (rewrite_text rfl rfl)
      · rfl
      · simp only [rulesBeforeIncludes, List.forall_mem_cons]
        refine ⟨?_, ?_, ?_, ?_, ?_, ?_, ?_, ?_, ?_, ?_, ?_, List.forall_mem_nil _⟩ <;> exact rewrite_text rfl rfl
      · rfl
      · exact rewrite_text rfl rfl
      · simp only [rulesAfterIncludes, List.forall_mem_cons]
        refine ⟨?_, ?_, List.forall_mem_nil _⟩ <;> exact rewrite_text rfl rfl
  have hsecret := hlower "\x7b\x7b--secret" (by simp) (commented "secret@verbatim" ++ "@endverbatim".toList)
    (rewrite_cons.mpr ⟨_, _, rfl, rfl, rfl⟩)
  have hnothing := hlower "\x7b\x7b--" (by simp) (commented "@verbatim" ++ "@endverbatim".toList)
    (rewrite_cons.mpr ⟨_, _, rfl, rfl, rfl⟩)
  rw [List.nil_append, List.nil_append, hsecret, hnothing] at hsame
  have hlines := congrArg (fun program => program.2.toOption.map fun b => b.lines.map Program.Line.text) hsame
  revert hlines
  decide

end Comments

end Stencil.Markup
