import Stencil.Proofs.Markup.Border

/-!
# Doubled signs

Behind an `@` no directive is read, and two of them before a known name print the name behind one.  A pass sees only the
text that the passes before it left, and looks for a sign before another one only there; but no pass cuts between two
signs, so where the second one is still text the first one stands before it.

* `Rule.Single`, `Rule.Unescapes` — a rule reads no directive behind an `@`; what is read at two of them.
* `Stretch`, `Stands` — markup, and text that stayed, as they stand in a text; `Stands.stays` — they stand so in a longer
  text too.
* `Lies` — stretches that stand so make up a text; `Lies.refine` — they do when what stayed text is cut again.
* `Left.lies` — what a rule leaves of a text lies in it so; `runPasses_lies` — and what all passes leave.
* `Lies.at_signs` — two signs lie in one stretch; `Stands.whole_name` — so does the name behind them.
* `doubled_printed` — at no stage was a directive read behind an `@`, and two of them print the name behind one.
-/

namespace Stencil.Markup

variable {α : Type} {registry : Registry} {template : Text} {names : List Text} {name rest s t u behind : Text}
  {previous around : Option Char} {line : Int}

/-! ## What rules read at two signs -/

/-- A rule reads no directive behind an `@`. -/
def Rule.Single (rule : Rule α) : Prop :=
  ∀ line c s, Text.isWord c = true → rule ⟨some '@', line, '@' :: c :: s⟩ = none

/-- A rule reads nothing at two signs. -/
def Rule.Undoubled (rule : Rule α) : Prop := ∀ previous line s, rule ⟨previous, line, '@' :: '@' :: s⟩ = none

/-- Of several names that stand at the head of a text, none is longer than this one. -/
def Longest (names : List Text) (name rest : Text) : Prop :=
  name ∈ names ∧ ∀ other ∈ names, ∀ after, name ++ rest = other ++ after → EndsWord other after →
    other.length ≤ name.length

/-- A rule that takes two signs takes them with the longest name behind them, and prints it behind one sign. -/
def Rule.Unescapes (names : List Text) (rule : Rule (List Node)) : Prop := ∀ previous line u s found,
  rule ⟨previous, line, '@' :: '@' :: u ++ s⟩ = some (.accepted (u.length + 2) (.ok found)) →
    found = [.verbatim line ('@' :: u)] ∧ Longest names u s

theorem Rule.Undoubled.unescapes {rule : Rule (List Node)} (h : rule.Undoubled) (names : List Text) :
    rule.Unescapes names := by
  intro previous line u s found hrule
  rw [List.cons_append, List.cons_append, h] at hrule
  cases hrule

theorem nameAt?_sign (hnames : ∀ n ∈ names, IsWordName n) (s : Text) : nameAt? names ('@' :: s) = none := by
  cases h : nameAt? names ('@' :: s) with
  | none => rfl
  | some found =>
    obtain ⟨name, rest⟩ := found
    obtain ⟨hmem, hsplit⟩ := nameAt?_eq_some h
    cases name with
    | nil =>
      obtain rfl : '@' :: s = rest := hsplit
      have hends : Text.boundary (some '@') (some '@') = true := endsWord_of_nameAt? h
      exact absurd hends (by decide)
    | cons c name =>
      obtain ⟨rfl, -⟩ := List.cons.inj hsplit
      exact absurd (hnames _ hmem '@' List.mem_cons_self) (by decide)

theorem directiveAt?_doubled (hnames : ∀ n ∈ names, IsWordName n) (previous : Option Char) (s : Text) :
    directiveAt? names previous ('@' :: '@' :: s) = none := by
  unfold directiveAt?
  simp only
  rw [nameAt?_sign hnames, ite_self]

theorem directiveAt?_behind_sign (names : List Text) (s : Text) : directiveAt? names (some '@') s = none := by
  unfold directiveAt?
  split
  · exact if_pos rfl
  · rfl

theorem region?_single (opener closer : Text) (line : Int) (s : Text) :
    region? opener closer ⟨some '@', line, s⟩ = none := by
  unfold region?
  rw [directiveAt?_behind_sign]

theorem region?_doubled {opener : Text} (hopener : IsWordName opener) (closer : Text) (previous : Option Char)
    (line : Int) (s : Text) : region? opener closer ⟨previous, line, '@' :: '@' :: s⟩ = none := by
  unfold region?
  rw [directiveAt?_doubled (List.forall_mem_singleton.mpr hopener)]

theorem verbatim_single : verbatim.Single := fun _ _ _ _ => by rw [verbatim, region?_single]; rfl

theorem verbatim_undoubled : verbatim.Undoubled := fun _ _ _ => by
  rw [verbatim, region?_doubled (isWordName_of_builtin (by decide))]
  rfl

theorem program_single : program.Single := fun _ _ _ _ => by rw [program, region?_single]; rfl

theorem program_undoubled : program.Undoubled := fun _ _ _ => by
  rw [program, region?_doubled (isWordName_of_builtin (by decide))]
  rfl

theorem comment_single : comment.Single := fun _ _ _ _ => rfl

theorem comment_undoubled : comment.Undoubled := fun _ _ _ => rfl

theorem mark_single : (mark template).Single := fun _ _ _ _ => by rw [mark, directiveAt?_behind_sign]

theorem family_single (ds : List Directive) : (family template ds).Single := fun _ _ _ _ => by
  rw [family_eq, directiveAt?_behind_sign]

theorem family_undoubled {ds : List Directive} (hds : ∀ d ∈ ds, IsWordName d.name) :
    (family template ds).Undoubled := by
  intro previous line s
  rw [family_eq, directiveAt?_doubled (familyNames_word hds)]

/-- Behind an `@` an interpolation begins with a brace. -/
theorem echo_sign {c : Char} (hc : c ≠ '\x7b') (previous : Option Char) (line : Int) (s : Text) :
    echo registry template ⟨previous, line, '@' :: c :: s⟩ = none := by
  have hnone : delimited? "\x7b\x7b" "\x7d\x7d" (c :: s) = none := by
    unfold delimited?
    have hafter : Text.after? "\x7b\x7b" (c :: s) = none := if_neg (Ne.symm hc)
    rw [hafter]
  rw [echo_escaped, hnone]
  rfl

theorem echo_single : (echo registry template).Single := fun line _ s hc =>
  echo_sign (not_sigil_of_isWord hc).2 (some '@') line s

theorem echo_undoubled : (echo registry template).Undoubled := fun previous line s =>
  echo_sign (by decide) previous line s

theorem rawEcho_single : (rawEcho template).Single := fun _ _ _ _ => rfl

theorem rawEcho_undoubled : (rawEcho template).Undoubled := fun _ _ _ => rfl

theorem escaped_single (names : List Text) : (escaped names).Single := by
  intro line c s hc
  simp [escaped, (not_sigil_of_isWord hc).1]

/-- Longer names are tried first, so the name that is found is the longest. -/
theorem longest_of_nameAt? (h : nameAt? (byLength names) s = some (name, rest)) : Longest names name rest := by
  obtain ⟨hname, rfl⟩ := nameAt?_eq_some h
  refine ⟨mem_byLength.mp hname, fun other hother after hsplit hends => ?_⟩
  have hsorted : (byLength names).Pairwise fun m n => n.length ≤ m.length := by
    have hpairwise : (byLength names).Pairwise fun m n => decide (n.length ≤ m.length) = true :=
      List.pairwise_mergeSort (fun a b c hab hbc => by simp only [decide_eq_true_eq] at *; omega)
        (fun a b => by simp only [Bool.or_eq_true, decide_eq_true_eq]; omega) names
    simpa using hpairwise
  obtain ⟨earlier, tried, later, hlist, hfound, hnone⟩ := List.findSome?_eq_some_iff.mp h
  have hat : Text.after? other (name ++ rest) = some after := Text.after?_eq_some.mpr hsplit
  have hboundary : Text.boundary (other.getLast? <|> some '@') after.head? = true := hends
  obtain rfl : tried = name := by
    split at hfound
    · cases hfound
    · split at hfound
      · exact (Prod.mk.inj (Option.some.inj hfound)).1
      · cases hfound
  rw [hlist, List.pairwise_append, List.pairwise_cons] at hsorted
  have hmem : other ∈ earlier ++ tried :: later := hlist ▸ mem_byLength.mpr hother
  rcases List.mem_append.mp hmem with hearlier | hlater
  · -- an earlier name would have been found
    have hnone := hnone other hearlier
    rw [hat] at hnone
    simp only [hboundary, if_true] at hnone
    cases hnone
  · rcases List.mem_cons.mp hlater with rfl | hlater
    · exact Nat.le_refl _
    · exact hsorted.2.1.1 other hlater

theorem escaped_unescapes (names : List Text) : (escaped names).Unescapes names := by
  intro previous line u s found h
  obtain ⟨⟨name, rest⟩, hat, hverdict⟩ := Option.map_eq_some_iff.mp h
  obtain ⟨hlength, hfound⟩ := Verdict.accepted.inj hverdict
  obtain ⟨rfl, rfl⟩ : name = u ∧ rest = s := by
    have hsplit := (nameAt?_eq_some hat).2
    obtain ⟨rfl, rfl⟩ := List.append_inj hsplit.symm (Nat.add_right_cancel hlength)
    exact ⟨rfl, rfl⟩
  exact ⟨(Except.ok.inj hfound).symm, longest_of_nameAt? hat⟩

/-! ## Stretches in a text -/

theorem Apart.append (h : Apart t s) (hends : Ends behind) : Apart t (s ++ behind) where
  word := by
    rw [isWord?_append hends]
    exact h.word
  sign := by
    rw [isWord?_append hends]
    exact h.sign

theorem Ends.of_ends (h : Ends s) (hends : Ends behind) : Ends (s ++ behind) := by
  cases s with
  | nil => exact hends
  | cons c s => exact h

/-- A name is as long among names before the start of markup. -/
theorem Longest.append (hnames : ∀ n ∈ names, IsWordName n) (h : Longest names name rest) (hends : Ends behind) :
    Longest names name (rest ++ behind) := by
  refine ⟨h.1, fun other hother after hsplit hword => ?_⟩
  have hfront : ∀ c ∈ ('@' :: other).tail, isSigil c = false := fun c hc =>
    isSigil_eq_false_of_isWord (hnames other hother c hc)
  have hsplit : '@' :: (name ++ rest) ++ behind = '@' :: other ++ after := by
    rw [List.cons_append, List.cons_append, List.append_assoc, hsplit]
  obtain ⟨more, hshort, rfl⟩ := prefix_of_ends hfront (List.cons_ne_nil _ _) hends hsplit
  exact h.2 other hother more (List.cons.inj hshort).2 (hword.of_append hends)

/-- Markup between a character before it and a text behind it: it begins with a sign or a brace and is apart from what
stands behind it, it is no directive behind an `@`, and if it begins with two signs it became the name behind one. -/
structure Stretch (registry : Registry) (previous : Option Char) (seg : Segment) (behind : Text) : Prop where
  ne_nil : seg.text ≠ []
  ends : Ends seg.text
  apart : Apart seg.text behind
  single : previous = some '@' → ∀ c rest, seg.text ++ behind = '@' :: c :: rest → Text.isWord c = false
  markup : IsMarkup registry seg.text
  final : ∀ i ∈ seg.found, i.FinalAt seg.line
  doubled : ∀ u, seg.text = '@' :: '@' :: u →
    seg.found = [.node (.verbatim seg.line ('@' :: u))] ∧ Longest (knownNames registry) u behind

/-- A stretch stands between a character and a text: as markup, or as text that neither begins behind half of a doubled
`@` nor ends before anything but markup. -/
inductive Stands (registry : Registry) (previous : Option Char) (seg : Segment) (behind : Text) : Prop
  | text : seg.found = [.node (.text seg.line seg.text)] → seg.text ≠ [] → Parts previous seg.text → Ends behind →
    Stands registry previous seg behind
  | markup : Stretch registry previous seg behind → Stands registry previous seg behind

/-- Stretches make up a text behind a character, one behind the other, and each stands between what is around it. -/
def Lies (registry : Registry) : Option Char → Int → Text → List Segment → Prop
  | _, _, s, [] => s = []
  | previous, line, s, seg :: segments => seg.line = line ∧ ∃ behind, s = seg.text ++ behind ∧
    Stands registry previous seg behind ∧
      Lies registry seg.text.getLast? (line + seg.text.newlines) behind segments

variable {seg : Segment} {segments more : List Segment}

theorem Stands.lawful (h : Stands registry previous seg behind) : seg.Lawful (IsMarkup registry) := by
  cases h with
  | text hfound hne => exact ⟨hne, .inl hfound⟩
  | markup h => exact ⟨h.ne_nil, .inr ⟨h.markup, h.final⟩⟩

/-- Markup that stands in a text stands in the text around it. -/
theorem Stretch.stays (hnames : ∀ name ∈ registry.directives.names, IsWordName name)
    (h : Stretch registry previous seg s) (hends : Ends behind)
    (hparts : previous = none → Parts around (seg.text ++ s)) : Stretch registry (previous.or around) seg (s ++ behind) where
  ne_nil := h.ne_nil
  ends := h.ends
  apart := h.apart.append hends
  single := by
    intro hprevious c rest hsplit
    by_contra hword
    have hword : Text.isWord c = true := by simpa using hword
    have hne : seg.text ++ s ≠ [] := List.append_ne_nil_of_left_ne_nil h.ne_nil s
    have hfront : ∀ d ∈ ['@', c].tail, isSigil d = false :=
      List.forall_mem_singleton.mpr (isSigil_eq_false_of_isWord hword)
    rw [← List.append_assoc] at hsplit
    obtain ⟨more, hshort, -⟩ := prefix_of_ends hfront hne hends hsplit
    cases previous with
    | none => exact hparts rfl hprevious (by rw [hshort]; rfl)
    | some d => exact absurd hword (by simpa using h.single hprevious c more hshort)
  markup := h.markup
  final := h.final
  doubled := by
    intro u hu
    obtain ⟨hfound, hlongest⟩ := h.doubled u hu
    exact ⟨hfound, hlongest.append (knownNames_word hnames) hends⟩

theorem Stands.stays (hnames : ∀ name ∈ registry.directives.names, IsWordName name)
    (h : Stands registry previous seg s) (hends : Ends behind)
    (hparts : previous = none → Parts around (seg.text ++ s)) : Stands registry (previous.or around) seg (s ++ behind) := by
  cases h with
  | text hfound hne hhere hs =>
    refine .text hfound hne ?_ (hs.of_ends hends)
    cases previous with
    | none => exact (hparts rfl).left hne
    | some c => exact hhere
  | markup h => exact .markup (h.stays hnames hends hparts)

theorem Stands.ne_nil (h : Stands registry previous seg s) : seg.text ≠ [] := h.lawful.1

/-- Stretches in a text, and behind them those in the text behind it. -/
theorem Lies.append (hnames : ∀ name ∈ registry.directives.names, IsWordName name)
    (h : Lies registry previous line t segments) (hends : Ends behind) (hparts : previous = none → Parts around t)
    (hmore : Lies registry (t.getLast?.or (previous.or around)) (line + t.newlines) behind more) :
    Lies registry (previous.or around) line (t ++ behind) (segments ++ more) := by
  induction segments generalizing previous around line t with
  | nil =>
    obtain rfl : t = [] := h
    simpa using hmore
  | cons seg segments ih =>
    obtain ⟨hline, s, rfl, hstands, hrest⟩ := h
    have hlast : seg.text.getLast?.or (previous.or around) = seg.text.getLast? := getLast?_or hstands.ne_nil
    rw [List.getLast?_append, Option.or_assoc, hlast, line_append] at hmore
    have hlater : Lies registry (seg.text.getLast?.or none) (line + seg.text.newlines) (s ++ behind)
        (segments ++ more) := by
      refine ih hrest (fun _ => .none s) ?_
      rwa [Option.or_none]
    rw [Option.or_none] at hlater
    exact ⟨hline, s ++ behind, List.append_assoc .., hstands.stays hnames hends hparts, hlater⟩

/-- What became of a text by itself: of stretches that lie in it. -/
def Laid (registry : Registry) (line : Int) (s : Text) (found : List Item) : Prop :=
  ∃ segments, Lies registry none line s segments ∧ segments.flatMap Segment.found = found

/-- Stretches lie in a text when what stayed text in it is cut again. -/
theorem Lies.refine (hnames : ∀ name ∈ registry.directives.names, IsWordName name) {found : List Item}
    (h : Lies registry previous line s segments)
    (hfound : Replaces (Laid registry) (segments.flatMap Segment.found) found) :
    ∃ finer, Lies registry previous line s finer ∧ finer.flatMap Segment.found = found := by
  induction segments generalizing previous line s found with
  | nil =>
    cases hfound
    exact ⟨[], h, rfl⟩
  | cons seg segments ih =>
    obtain ⟨rfl, behind, rfl, hstands, hrest⟩ := h
    rw [List.flatMap_cons] at hfound
    cases hstands with
    | text htext hne hparts hends =>
      rw [htext] at hfound
      cases hfound with
      | same _ hlater =>
        obtain ⟨finer, hfiner, rfl⟩ := ih hrest hlater
        exact ⟨seg :: finer, ⟨rfl, behind, rfl, .text htext hne hparts hends, hfiner⟩, by simp [htext]⟩
      | text hlaid hlater =>
        obtain ⟨first, hfirst, rfl⟩ := hlaid
        obtain ⟨finer, hfiner, rfl⟩ := ih hrest hlater
        have hmore : Lies registry (seg.text.getLast?.or (none.or previous)) (seg.line + seg.text.newlines) behind
            finer := by
          rwa [getLast?_or hne]
        have hwhole := hfirst.append hnames hends (fun _ => hparts) hmore
        exact ⟨first ++ finer, by rwa [Option.none_or] at hwhole, by simp⟩
    | markup hstretch =>
      obtain ⟨later, rfl, hlater⟩ := hfound.of_not_isText fun i hi => (hstretch.final i hi).not_isText
      obtain ⟨finer, hfiner, rfl⟩ := ih hrest hlater
      exact ⟨seg :: finer, ⟨rfl, behind, rfl, .markup hstretch, hfiner⟩, rfl⟩

/-! ## What a rule leaves of a text -/

/-- What a piece became: text stayed text, and markup became what is not text and what was made of it. -/
def Piece.Became (made : α → List Item → Prop) : Piece α → Segment → Prop
  | .plain line t, seg | .declined line t, seg => seg = ⟨line, t, [.node (.text line t)]⟩
  | .markup line t (.ok a), seg =>
    seg.line = line ∧ seg.text = t ∧ (∀ i ∈ seg.found, i.FinalAt line) ∧ made a seg.found
  | .markup _ _ (.error _), _ => False

variable {rule : Rule α} {sign : Sign} {Q : Int → Text → α → Prop} {made : α → List Item → Prop} {ps : List (Piece α)}

/-- **Stretches.**  What a rule that reads no directive behind an `@` leaves of a text, and what it takes, lies in it. -/
theorem Left.lies (hsingle : rule.Single) (hQ : ∀ line t a, Q line t a → IsMarkup registry t)
    (hdoubled : ∀ previous line u s a found,
      rule ⟨previous, line, '@' :: '@' :: u ++ s⟩ = some (.accepted (u.length + 2) (.ok a)) → made a found →
        found = [.node (.verbatim line ('@' :: u))] ∧ Longest (knownNames registry) u s)
    (hleft : Left rule sign previous s ps) (htiles : Tiles Q line s ps)
    (hbecame : List.Forall₂ (Piece.Became made) ps segments) : Lies registry previous line s segments := by
  induction hleft generalizing line segments with
  | nil =>
    cases hbecame
    rfl
  | text hne _ hparts hends _ ih =>
    obtain ⟨rfl, htiles⟩ := htiles.behind_plain
    obtain _ | ⟨hseg, hlater⟩ := hbecame
    obtain rfl := hseg
    have hrest := ih htiles hlater
    rw [getLast?_or hne] at hrest
    exact ⟨rfl, _, rfl, .text rfl hne hparts hends, hrest⟩
  | @markup previous _ t s _ _ hne hends hapart hrule _ ih =>
    obtain ⟨rfl, hmarkup, htiles⟩ := htiles.behind_markup
    obtain _ | ⟨hseg, hlater⟩ := hbecame
    obtain ⟨rfl, rfl, hfinal, hmade⟩ := hseg
    refine ⟨rfl, s, rfl, .markup ⟨hne, hends, hapart, ?_, hQ _ _ _ hmarkup, hfinal, ?_⟩, ih htiles hlater⟩
    · rintro rfl c rest hsplit
      by_contra hword
      rw [hsplit, hsingle _ c rest (by simpa using hword)] at hrule
      cases hrule
    · intro u hu
      rw [hu] at hrule
      exact hdoubled _ _ u s _ _ hrule hmade
  | failed =>
    obtain _ | ⟨hseg, -⟩ := hbecame
    exact hseg.elim

/-- A rule that takes whole markup, reads no directive behind an `@`, and prints a name behind two of them. -/
structure Rule.Careful (registry : Registry) (rule : Rule (List Node)) : Prop where
  neat : rule.Neat
  reads : rule.Reads (Lowers registry)
  single : rule.Single
  unescapes : rule.Unescapes (knownNames registry)

theorem rules_careful (hnames : ∀ name ∈ registry.directives.names, IsWordName name) :
    ∀ rule ∈ [verbatim, program, comment] ++ rulesBehindStructure registry template, rule.Careful registry := by
  have hfamily : ∀ {ds}, (∀ d ∈ ds, IsWordName d.name) → (family template ds).Reads (Lowers registry) →
      (family template ds).Careful registry := fun hds hreads =>
    ⟨family_neat hds, hreads, family_single _, (family_undoubled hds).unescapes _⟩
  refine List.forall_mem_append.mpr ⟨?_, forall_rulesBehindStructure ?_ (fun ds hds => ?_) ?_ ?_ ?_ ?_⟩
  · simp only [List.forall_mem_cons]
    exact ⟨⟨verbatim_neat, verbatim_reads, verbatim_single, verbatim_undoubled.unescapes _⟩,
      ⟨program_neat, program_reads, program_single, program_undoubled.unescapes _⟩,
      ⟨comment_neat, comment_reads, comment_single, comment_undoubled.unescapes _⟩, List.forall_mem_nil _⟩
  · exact hfamily (custom_word hnames) customFamily_reads
  · exact hfamily (fun d hd => innerNames_word d (hds hd)) (innerFamily_reads hds)
  · exact ⟨echo_neat, echo_reads, echo_single, echo_undoubled.unescapes _⟩
  · exact ⟨rawEcho_neat, rawEcho_reads, rawEcho_single, rawEcho_undoubled.unescapes _⟩
  · have hinclude : [includeDirective] ∈ argumentFamilies := by simp [argumentFamilies]
    have hreads : ((inclusion template).map Prod.snd).Reads (Lowers registry) := inclusion_reads.map fun _ _ _ h => h
    rw [inclusion_eq_family] at hreads ⊢
    exact hfamily (argumentFamilies_distinct hinclude).word hreads
  · exact ⟨(escaped_thorough hnames).neat, escaped_reads, escaped_single _, escaped_unescapes _⟩

/-- What these passes look for, whatever they make of it. -/
def scanners (registry : Registry) (template : Text) : List (Rule Unit) :=
  [verbatim, program, comment].map (Rule.map fun _ => ()) ++ [(mark template).map fun _ => ()] ++
    (rulesBehindStructure registry template).map (Rule.map fun _ => ())

theorem Rule.Single.map {β : Type} {rule : Rule α} (h : rule.Single) (f : α → β) : (rule.map f).Single := by
  intro line c s hc
  rw [Rule.map, h line c s hc]

theorem scanners_single (hnames : ∀ name ∈ registry.directives.names, IsWordName name) {rule : Rule Unit}
    (h : rule ∈ scanners registry template) : rule.Single := by
  simp only [scanners, List.mem_append, List.mem_singleton] at h
  have hrules : ∀ rule ∈ [verbatim, program, comment] ++ rulesBehindStructure registry template,
      (rule.map fun _ => ()).Single := fun rule hrule => (rules_careful hnames rule hrule).single.map _
  rcases h with (h | rfl) | h
  · obtain ⟨rule, hrule, rfl⟩ := List.mem_map.mp h
    exact hrules rule (List.mem_append_left _ hrule)
  · exact mark_single.map _
  · obtain ⟨rule, hrule, rfl⟩ := List.mem_map.mp h
    exact hrules rule (List.mem_append_right _ hrule)

variable {source : Text} {nodes stage : List Node}

/-- A text stands in one of several stretches: what is before it ends inside the stretch, and the stretch goes on behind
it. -/
structure Within (segments : List Segment) (before t : Text) (seg : Segment) (inside tail : Text) : Prop where
  place : ∃ left right, segments = left ++ seg :: right ∧ before = left.flatMap Segment.text ++ inside
  text : seg.text = inside ++ t ++ tail

variable {before after inside tail : Text} {c : Char}

theorem Within.cons {first : Segment} (h : Within segments before t seg inside tail) :
    Within (first :: segments) (first.text ++ before) t seg inside tail := by
  obtain ⟨⟨left, right, rfl, rfl⟩, htext⟩ := h
  exact ⟨⟨first :: left, right, rfl, by simp⟩, htext⟩

/-- No stretch begins with the second of two signs before a word. -/
theorem Stands.not_sign (h : Stands registry (some '@') seg behind) (hc : Text.isWord c = true) :
    seg.text ++ behind ≠ '@' :: c :: after := by
  intro hsplit
  cases h with
  | text _ hne hparts =>
    obtain ⟨d, t, ht⟩ := List.exists_cons_of_ne_nil hne
    rw [ht, List.cons_append] at hsplit
    refine hparts rfl ?_
    rw [ht, (List.cons.inj hsplit).1]
    rfl
  | markup h => exact absurd hc (by simpa using h.single rfl c after hsplit)

/-- **Two signs.**  No stretch ends between two signs before a word. -/
theorem Lies.at_signs (h : Lies registry previous line (before ++ '@' :: '@' :: c :: after) segments)
    (hc : Text.isWord c = true) : ∃ seg inside tail behind around, Within segments before ['@', '@'] seg inside tail ∧
      c :: after = tail ++ behind ∧ Stands registry around seg behind := by
  induction segments generalizing previous line before with
  | nil => exact absurd h (by simp [Lies])
  | cons first segments ih =>
    obtain ⟨-, behind, hsplit, hstands, hrest⟩ := h
    have hlater : ∀ before', before = first.text ++ before' → behind = before' ++ '@' :: '@' :: c :: after →
        ∃ seg inside tail behind around, Within (first :: segments) before ['@', '@'] seg inside tail ∧
          c :: after = tail ++ behind ∧ Stands registry around seg behind := by
      rintro before' rfl rfl
      obtain ⟨seg, inside, tail, behind, around, hwithin, hstands⟩ := ih hrest
      exact ⟨seg, inside, tail, behind, around, hwithin.cons, hstands⟩
    rcases List.append_eq_append_iff.mp hsplit with ⟨more, hfirst, hmore⟩ | ⟨before', hbefore, hbehind⟩
    · match more with
      | [] => exact hlater [] (by simpa using hfirst.symm) hmore.symm
      | [d] =>
        -- the second sign would begin the next stretch
        obtain ⟨rfl, rfl⟩ := List.cons.inj hmore
        rw [hfirst, List.getLast?_concat] at hrest
        cases segments with
        | nil => cases hrest
        | cons next segments =>
          obtain ⟨-, beyond, hnext, hstands, -⟩ := hrest
          exact absurd hnext.symm (hstands.not_sign hc)
      | d :: e :: tail =>
        simp only [List.cons_append, List.cons.injEq] at hmore
        obtain ⟨rfl, rfl, hmore⟩ := hmore
        exact ⟨first, before, tail, behind, previous, ⟨⟨[], segments, rfl, rfl⟩, by simp [hfirst]⟩, hmore, hstands⟩
    · exact hlater before' hbefore hbehind

/-- A known name behind two signs stands in the stretch that they stand in. -/
theorem Stands.whole_name (hnames : ∀ name ∈ registry.directives.names, IsWordName name)
    (h : Stands registry around seg behind) (htext : seg.text = inside ++ '@' :: '@' :: tail)
    (hname : name ∈ knownNames registry) (hends : EndsWord name after) (hsplit : tail ++ behind = name ++ after) :
    ∃ more, tail = name ++ more ∧ after = more ++ behind := by
  rcases List.append_eq_append_iff.mp hsplit with ⟨left, rfl, rfl⟩ | ⟨more, rfl, rfl⟩
  · cases left with
    | nil => exact ⟨[], by simp, rfl⟩
    | cons d left =>
      have hword : IsWordName (tail ++ d :: left) := knownNames_word hnames _ hname
      have hd : Text.isWord d = true := hword d (by simp)
      cases h with
      | text _ _ _ hends => exact absurd hd (by simp [hends.not_word])
      | markup h =>
        cases hlast : tail.getLast? with
        | some l =>
          have hwhole : seg.text.getLast? = some l := by
            rw [htext, List.getLast?_append, List.getLast?_cons_cons, List.getLast?_cons, hlast]
            rfl
          have hl : Text.isWord l = true := hword l (by simp [List.mem_of_getLast? hlast])
          have hapart := h.apart.word
          rw [hwhole] at hapart
          exact absurd (hapart hl) (by simp [Text.isWord?, hd])
        | none =>
          -- only two signs by themselves end with two, and they are not taken before a known name
          obtain rfl := List.getLast?_eq_none_iff.mp hlast
          have hlength := (h.apart.sign (by simp [htext])).2
          obtain rfl : inside = [] := by
            rw [htext] at hlength
            simpa using hlength
          have hlongest := (h.doubled [] htext).2.2 _ hname after (by simp) hends
          simp at hlongest
  · exact ⟨more, rfl, rfl⟩

/-- Behind two signs before a name that ends there comes a word character. -/
theorem EndsWord.exists_word (hname : IsWordName name) (h : EndsWord name after) :
    ∃ c rest, name ++ after = c :: rest ∧ Text.isWord c = true := by
  cases name with
  | cons c name => exact ⟨c, name ++ after, rfl, hname c List.mem_cons_self⟩
  | nil =>
    cases after with
    | nil => exact absurd h (by unfold EndsWord; decide)
    | cons c after =>
      refine ⟨c, after, rfl, ?_⟩
      have hboundary : (Text.isWord '@' != Text.isWord c) = true := h
      rw [show Text.isWord '@' = false by decide] at hboundary
      simpa using hboundary

/-- Before a stretch that stayed text and the end of the text, or what is around it, markup begins. -/
theorem Stands.ends_of_text (h : Stands registry around seg behind)
    (hstayed : seg.found = [.node (.text seg.line seg.text)]) : Ends behind := by
  cases h with
  | text _ _ _ hends => exact hends
  | markup h =>
    have hfinal := h.final (.node (.text seg.line seg.text)) (by rw [hstayed]; exact List.mem_singleton_self _)
    exact False.elim hfinal

/-- Two signs before a word stand in one stretch; where that is text nothing is read at the second, and where they are its
beginning it is text or prints what stands behind the first. -/
theorem Lies.silent (hnames : ∀ name ∈ registry.directives.names, IsWordName name)
    (h : Lies registry previous line (before ++ '@' :: '@' :: c :: after) segments) (hc : Text.isWord c = true) :
    ∃ seg inside tail, Within segments before ['@', '@'] seg inside tail ∧
      (seg.found = [.node (.text seg.line seg.text)] →
        ∀ rule ∈ scanners registry template, ∀ l, rule ⟨some '@', l, '@' :: tail⟩ = none) ∧
      (inside = [] → seg.found = [.node (.text seg.line seg.text)] ∨
        seg.found = [.node (.verbatim seg.line ('@' :: tail))]) := by
  obtain ⟨seg, inside, tail, behind, around, hwithin, hsplit, hstands⟩ := h.at_signs hc
  refine ⟨seg, inside, tail, hwithin, fun hstayed rule hrule l => ?_, ?_⟩
  · cases tail with
    | cons d tail =>
      obtain ⟨rfl, -⟩ := List.cons.inj hsplit
      exact scanners_single hnames hrule l c tail hc
    | nil =>
      -- a text does not end before a word
      obtain rfl : c :: after = behind := hsplit
      exact absurd hc (by simp [(hstands.ends_of_text hstayed).not_word])
  · rintro rfl
    cases hstands with
    | text hstayed => exact .inl hstayed
    | markup hstretch => exact .inr (hstretch.doubled tail hwithin.text).1

/-- Two signs before a known name stand in one stretch with it, and unless they stay text that is markup; where they are
its beginning, it became the name behind one sign. -/
theorem Lies.printed (hnames : ∀ name ∈ registry.directives.names, IsWordName name)
    (h : Lies registry previous line (before ++ '@' :: '@' :: (name ++ after)) segments)
    (hname : name ∈ knownNames registry) (hends : EndsWord name after)
    (hfree : ∀ seg ∈ segments, seg.found = [.node (.text seg.line seg.text)] →
      ¬ (doubledSign (knownNames registry)).Seen seg.text) :
    ∃ seg inside tail, Within segments before ('@' :: '@' :: name) seg inside tail ∧
      seg.found ≠ [.node (.text seg.line seg.text)] ∧
      (inside = [] → seg.found = [.node (.verbatim seg.line ('@' :: name ++ tail))] ∧ (name ≠ [] → tail = [])) := by
  have hword := knownNames_word hnames
  obtain ⟨c, rest, hc, hcword⟩ := hends.exists_word (hword name hname)
  rw [hc] at h
  obtain ⟨seg, inside, tail, behind, around, hwithin, hsplit, hstands⟩ := h.at_signs hcword
  have htext : seg.text = inside ++ '@' :: '@' :: tail := by simpa using hwithin.text
  obtain ⟨more, rfl, rfl⟩ := hstands.whole_name hnames htext hname hends (hsplit.symm.trans hc.symm)
  have htext : seg.text = inside ++ '@' :: '@' :: (name ++ more) := htext
  have hmem : seg ∈ segments := by
    obtain ⟨⟨left, right, rfl, -⟩, -⟩ := hwithin
    simp
  have hstayed : seg.found ≠ [.node (.text seg.line seg.text)] := fun hstayed =>
    hfree seg hmem hstayed ⟨inside, _, htext, name, hname, more, rfl, hends.of_append (hstands.ends_of_text hstayed)⟩
  refine ⟨seg, inside, more, ⟨hwithin.place, by simp [htext]⟩, hstayed, ?_⟩
  rintro rfl
  cases hstands with
  | text hfound => exact absurd hfound hstayed
  | markup hstretch =>
    obtain ⟨hfound, hknown, -⟩ := hstretch.doubled (name ++ more) htext
    refine ⟨hfound, fun hne => ?_⟩
    -- the word that begins with the name is no longer than it
    have hwhole := takeWhile_of_endsWord (hword name hname) hne hends
    rw [← List.append_assoc, List.takeWhile_append_of_pos (hword _ hknown), List.append_assoc,
      List.append_right_eq_self] at hwhole
    exact (List.append_eq_nil_iff.mp hwhole).1

end Stencil.Markup
