import Stencil.Proofs.Argument.Parts
import Stencil.Proofs.Markup.Raise
import Stencil.Proofs.Markup.Recognition
import Stencil.Proofs.Markup.Scan

/-!
# Grouping into sections

Sections only group: opened in place, the result is in order what the events of the template leave, and the events of a
text are what stands between its structural directives and these directives themselves.

* `IsStructural` — a structural directive as it is written, and the mark that says what it does.
* `Tells`, `Told` — events tell a text, or nodes: each stretch between directives, each directive with its mark.
* `sectionBehind` — the section that is open behind events; `leaves` — what events leave in document order.
* `Orderly` — events that grouping gets through: none is a failure, and no section starts inside another.
* `run_eq_ok`, `run_eq_error` — what a run over events does, by one lemma for each end of a step.
* `structure_groups` — what grouping succeeds with, and exactly when it fails for its sections.
-/

namespace Stencil

open Argument (Use isGap)

/-- A cause that is about how sections are grouped. -/
def Cause.onSections : Cause → Bool
  | .nestedSection .. | .openSection _ => true
  | _ => false

/-- An error that is about how sections are grouped. -/
def Error.OnSections (e : Error) : Prop := ∃ fault, e = .compile fault ∧ fault.cause.onSections

namespace Markup

variable {registry : Registry} {template : Text} {previous : Option Char} {line : Int} {s t behind : Text} {m : Mark}
  {nodes out : List Node}

/-! ## Structural directives -/

/-- Where reading goes on behind a directive: all but one that prints takes a line break with it. -/
def Mark.resumes : Mark → Text → Text
  | .yield .., s => s
  | _, s => swallowBreak s

/-- A structural directive before a text, and what it says: the end of a section, or a name with a group. -/
inductive IsStructural (behind : Text) : Text → Mark → Prop
  | closing {name : Text} : (name, Use.bare) ∈ structuralUses → EndsWord name behind →
    IsStructural behind ('@' :: name) (.closing name)
  | group {name gap inner : Text} {m : Mark} : (name, Use.required) ∈ structuralUses → (∀ c ∈ gap, isGap c) →
    Argument.Items inner → markOf name (Argument.arguments (some inner)) = .ok m →
    IsStructural behind ('@' :: name ++ (gap ++ '(' :: inner ++ [')'])) m

theorem structuralUses_name {name : Text} {use : Use} (h : (name, use) ∈ structuralUses) :
    name ∈ structuralNames ∧ name ≠ [] ∧ IsWordName name ∧ ((name = "endsection" ∨ name = "show") ↔ use = .bare) := by
  have hcases : name ∈ structuralNames ∧ name ≠ [] ∧ ((name = "endsection" ∨ name = "show") ↔ use = .bare) := by
    simp only [structuralUses, breakingUses, List.mem_cons, List.not_mem_nil, or_false, Prod.mk.injEq] at h
    rcases h with ⟨rfl, rfl⟩ | ⟨rfl, rfl⟩ | ⟨rfl, rfl⟩ | ⟨rfl, rfl⟩ | ⟨rfl, rfl⟩ <;>
      exact ⟨mem_byLength.mpr (by simp), by simp, by simp⟩
  exact ⟨hcases.1, hcases.2.1, isWordName_of_builtin (structuralNames_subset hcases.1), hcases.2.2⟩

/-- Every structural name has its use. -/
theorem structuralUses_of_name {name : Text} (h : name ∈ structuralNames) :
    (name, if name = "endsection" ∨ name = "show" then Use.bare else .required) ∈ structuralUses := by
  have hnames := mem_byLength.mp h
  simp only [List.mem_cons, List.not_mem_nil, or_false] at hnames
  rcases hnames with rfl | rfl | rfl | rfl | rfl <;> simp [structuralUses, breakingUses]

/-- A structural name behind a single `@` is found where its word ends. -/
theorem structuralAt {name rest : Text} {use : Use} (h : (name, use) ∈ structuralUses) (hprevious : previous ≠ some '@')
    (hends : EndsWord name rest) :
    directiveAt? structuralNames previous ('@' :: name ++ rest) = some (name, rest) := by
  obtain ⟨hname, hne, hword, -⟩ := structuralUses_name h
  obtain ⟨⟨name', rest'⟩, hfound⟩ := exists_directiveAt? hname hprevious hends
  obtain ⟨hname', hsplit, -, hends'⟩ := directiveAt?_eq_some' hfound
  obtain ⟨-, hne', hword', -⟩ := structuralUses_name (structuralUses_of_name hname')
  obtain ⟨rfl, rfl⟩ := name_unique hword hword' hne hne' hends hends' (List.cons.inj hsplit).2
  exact hfound

theorem mark_plain (template : Text) {c : Char} (hc : c ≠ '@') (previous : Option Char) (line : Int) (s : Text) :
    mark template ⟨previous, line, c :: s⟩ = none := by simp [mark, directiveAt?, hc]

/-- A word ends before a character that is in no word. -/
theorem endsWord_cons {name : Text} (hword : IsWordName name) (hne : name ≠ []) {c : Char}
    (hc : Text.isWord c = false) (rest : Text) : EndsWord name (c :: rest) := by
  have hlast : Text.isWord? (name.getLast? <|> some '@') = true := by
    rw [List.getLast?_eq_some_getLast hne]
    exact hword _ (List.getLast_mem hne)
  have hhead : Text.isWord? (c :: rest).head? = false := hc
  unfold EndsWord Text.boundary
  rw [hlast, hhead]
  rfl

/-- A word ends before a group. -/
theorem endsWord_group {name gap inner : Text} (hword : IsWordName name) (hne : name ≠ []) (hgap : ∀ c ∈ gap, isGap c)
    (rest : Text) : EndsWord name (gap ++ '(' :: inner ++ ')' :: rest) := by
  cases gap with
  | nil => exact endsWord_cons hword hne rfl _
  | cons c gap =>
    have hc : c = ' ' ∨ c = '\t' := by simpa [isGap] using hgap c List.mem_cons_self
    rcases hc with rfl | rfl <;> exact endsWord_cons hword hne rfl _

/-- A group behind spaces and tabs is taken. -/
theorem after_group {use : Use} (huse : use ≠ .bare) {gap inner : Text} (hgap : ∀ c ∈ gap, isGap c)
    (hinner : Argument.Items inner) (rest : Text) :
    Argument.after use (gap ++ '(' :: inner ++ ')' :: rest) = .ok (some inner, rest) := by
  have hdrop : (gap ++ '(' :: inner ++ ')' :: rest).dropWhile isGap = '(' :: (inner ++ ')' :: rest) := by
    rw [List.append_assoc, List.dropWhile_append_of_pos hgap]
    rfl
  have hread := Argument.IsGroup.reads hinner rest
  unfold Argument.after
  rw [if_neg huse, hdrop]
  simp only
  rw [← List.cons_append, hread]
  rfl

/-- Only a directive that prints leaves a line break behind it. -/
theorem markOf_resumes {name : Text} {args : List Text} (h : markOf name args = .ok m) (s : Text) :
    m.resumes s = if name = "yield" then s else swallowBreak s := by
  unfold markOf at h
  split at h
  · cases h
  · split at h
    case isTrue hextends =>
      obtain rfl := Except.ok.inj h
      rw [if_neg (by simp [hextends])]
      rfl
    · obtain ⟨⟨shown, label⟩, -, h⟩ := bind_eq_ok.mp h
      simp only at h
      split at h
      case isTrue hyield =>
        obtain ⟨default, -, h⟩ := bind_eq_ok.mp h
        obtain rfl := Except.ok.inj h
        rw [if_pos hyield]
        rfl
      case isFalse hyield =>
        rw [if_neg hyield]
        split at h <;>
        · obtain rfl := Except.ok.inj h
          rfl

/-- **Structural directives are read.**  One that stands at a place is taken with what it says. -/
theorem IsStructural.read {p : Place} (h : IsStructural behind t m) (template : Text) (hp : p.rest = t ++ behind)
    (hprevious : p.previous ≠ some '@') :
    mark template p = some (.accepted (p.rest.length - (m.resumes behind).length) (.ok (m, p.excerpt))) := by
  cases h with
  | @closing name huse hends =>
    have hat := structuralAt huse hprevious hends
    have hcloses := (structuralUses_name huse).2.2.2.mpr rfl
    unfold mark
    rw [hp, hat]
    simp only [hcloses, if_true, ← hp]
    rfl
  | @group name gap inner m huse hgap hinner hmark =>
    obtain ⟨-, hne, hword, hcloses⟩ := structuralUses_name huse
    have hsplit : p.rest = '@' :: name ++ (gap ++ '(' :: inner ++ ')' :: behind) := by rw [hp]; simp
    have hends : EndsWord name (gap ++ '(' :: inner ++ ')' :: behind) := endsWord_group hword hne hgap behind
    have hat := structuralAt huse hprevious hends
    have hopens : ¬ (name = "endsection" ∨ name = "show") := fun h => nomatch hcloses.mp h
    unfold mark
    rw [hsplit, hat]
    have hrequired : Use.required ≠ .bare := nofun
    simp only [hopens, if_false, after_group hrequired hgap hinner]
    rw [markOf_resumes hmark, hmark, ← hsplit]
    rfl

/-- What a rule of structural directives takes is a structural directive. -/
theorem exists_isStructural {p : Place} {n : Nat} {excerpt : Text}
    (h : mark template p = some (.accepted n (.ok (m, excerpt)))) :
    ∃ t behind, p.rest = t ++ behind ∧ IsStructural behind t m ∧ p.previous ≠ some '@' := by
  unfold mark at h
  split at h
  · cases h
  case h_2 name rest hname =>
    obtain ⟨hmem, hp, hprevious, hends⟩ := directiveAt?_eq_some' hname
    have huse := structuralUses_of_name hmem
    simp only at h
    split at h
    case isTrue hcloses =>
      have hfound := accept_eq_ok (Option.some.inj h)
      obtain rfl := (Prod.mk.inj (Except.ok.inj hfound)).1
      rw [if_pos hcloses] at huse
      exact ⟨'@' :: name, rest, hp, .closing huse hends, hprevious⟩
    case isFalse hopens =>
      rw [if_neg hopens] at huse
      split at h
      · have hfound := accept_eq_ok (Option.some.inj h)
        cases hfound
      · cases Option.some.inj h
      case h_3 inner after hafter =>
        obtain ⟨m', hmark, hpair⟩ := map_eq_ok.mp (accept_eq_ok (Option.some.inj h))
        obtain rfl := (Prod.mk.inj hpair).1
        obtain ⟨gap, hgap, hrest⟩ := Argument.after_inner hafter
        have hinner := Argument.after_items hafter
        exact ⟨_, after, by rw [hp, hrest]; simp, .group huse hgap hinner hmark, hprevious⟩

/-- A group that follows is taken, or it is at fault. -/
theorem opens_of_after (h : Argument.after .required s ≠ .ok (none, s)) : Opens s := by
  unfold Argument.after at h
  rw [if_neg (by decide)] at h
  split at h
  case h_1 behind hdrop =>
    unfold Opens
    rw [hdrop]
    rfl
  · exact absurd rfl h

/-- Only a structural directive is taken, or one that needs a group and has one that cannot be read. -/
theorem directiveSign_of_accepted {p : Place} {n : Nat} {found : Except Error (Mark × Text)}
    (h : mark template p = some (.accepted n found)) : directiveSign structuralUses p.previous p.rest := by
  unfold mark at h
  split at h
  · cases h
  case h_2 name rest hname =>
    obtain ⟨hmem, hp, hprevious, hends⟩ := directiveAt?_eq_some' hname
    refine ⟨hprevious, name, _, rest, structuralUses_of_name hmem, hp, hends, fun huse => ?_⟩
    have hopens : ¬ (name = "endsection" ∨ name = "show") := fun hcloses => by
      rw [if_pos hcloses] at huse
      cases huse
    simp only [hopens, if_false] at h
    exact opens_of_after fun hafter => by
      rw [hafter] at h
      cases Option.some.inj h

theorem not_onSections_locate {r : Raised} {place : Int} {excerpt directive : Text}
    (h : (∃ d detail, r = .ofCause (.expansion d detail)) ∨ (∃ detail, r = .scan detail) ∨ ∃ f, r = .fault f) :
    ¬ (r.locate template place excerpt directive).OnSections := by
  rintro ⟨fault, hfault, hcause⟩
  obtain ⟨d, detail, rfl⟩ | ⟨detail, rfl⟩ | ⟨f, rfl⟩ := h
  · obtain rfl := Error.compile.inj hfault
    cases hcause
  · obtain rfl := Error.compile.inj hfault
    cases hcause
  · cases hfault

theorem literal_error {s : Text} {r : Raised} (h : (Argument.literal s).mapError Raised.fault = .error r) :
    ∃ f, r = .fault f := by
  obtain ⟨f, -, rfl⟩ := mapError_eq_error.mp h
  exact ⟨f, rfl⟩

/-- A directive is no mark only because its arguments are missing, or because of a literal among them. -/
theorem markOf_error {name : Text} {args : List Text} {r : Raised} (h : markOf name args = .error r) :
    (∃ d detail, r = .ofCause (.expansion d detail)) ∨ ∃ f, r = .fault f := by
  unfold markOf at h
  split at h
  · exact .inl ⟨_, _, (Except.error.inj h).symm⟩
  · split at h
    · cases h
    · refine .inr ?_
      rcases bind_eq_error.mp h with h | ⟨⟨shown, label⟩, -, h⟩
      · rcases bind_eq_error.mp h with h | ⟨literal, -, h⟩
        · exact literal_error h
        · split at h <;> cases h
      · simp only at h
        split at h
        · rcases bind_eq_error.mp h with h | ⟨default, -, h⟩
          · unfold defaultArgument at h
            split at h
            · cases h
            · exact literal_error ((bind_eq_error.mp h).resolve_right fun ⟨_, _, h⟩ => nomatch h)
          · cases h
        · split at h <;> cases h

/-- No failure to read a structural directive is about how sections are grouped. -/
theorem mark_not_onSections {p : Place} {n : Nat} {e : Error} (h : mark template p = some (.accepted n (.error e))) :
    ¬ e.OnSections := by
  have hlocated : ∀ {directive after : Text} {found : Except Raised (Mark × Text)},
      some (p.accept template directive after found) = some (.accepted n (.error e)) →
      (∀ r, found = .error r →
        (∃ d detail, r = .ofCause (.expansion d detail)) ∨ (∃ detail, r = .scan detail) ∨ ∃ f, r = .fault f) →
      ¬ e.OnSections := by
    intro directive after found h hfound
    obtain ⟨r, hr, rfl⟩ := mapError_eq_error.mp (Verdict.accepted.inj (Option.some.inj h)).2
    exact not_onSections_locate (hfound r hr)
  unfold mark at h
  split at h
  · cases h
  · simp only at h
    split at h
    · exact hlocated h nofun
    · split at h
      · exact hlocated h fun r hr => .inr (.inl ⟨_, (Except.error.inj hr).symm⟩)
      · cases Option.some.inj h
      · exact hlocated h fun r hr => (markOf_error (map_eq_error.mp hr)).imp_right .inr

/-! ## The events of a text -/

/-- Events tell a text that starts on a line behind a character: stretches in which no structural directive begins,
directives with their marks, and at the end perhaps the failure of one that is not well-formed. -/
inductive Tells : Option Char → Int → Text → List Event → Prop
  | nil {previous : Option Char} {line : Int} : Tells previous line [] []
  | text {previous : Option Char} {line : Int} {t s : Text} {events : List Event} : t ≠ [] →
    (directiveSign structuralUses).Silent previous t s → Tells (t.getLast?.or previous) (line + t.newlines) s events →
    Tells previous line (t ++ s) (.node (.text line t) :: events)
  | mark {previous : Option Char} {line : Int} {t lineBreak s : Text} {m : Mark} {events : List Event} :
    previous ≠ some '@' → IsStructural (lineBreak ++ s) t m → m.resumes (lineBreak ++ s) = s →
    Tells (t ++ lineBreak).getLast? (line + Text.newlines (t ++ lineBreak)) s events →
    Tells previous line (t ++ lineBreak ++ s) (.mark line m ((t ++ lineBreak ++ s).take excerptLength) :: events)
  | failure {previous : Option Char} {line : Int} {s : Text} {e : Error} :
    directiveSign structuralUses previous s → (∀ t behind m, s = t ++ behind → ¬ IsStructural behind t m) →
    ¬ e.OnSections → Tells previous line s [.failure e]

variable {events : List Event}

/-- A stretch in which nothing begins, in front of the events of pieces. -/
theorem Tells.join {ps : List (Piece (Mark × Text))}
    (h : Tells (t.getLast?.or previous) (line + t.newlines) s ((absorbAfterDeclined ps).map eventOf)) (hne : t ≠ [])
    (hsilent : (directiveSign structuralUses).Silent previous t s) :
    Tells previous line (t ++ s) ((absorbAfterDeclined (joinPlain line t ps)).map eventOf) := by
  have hfirst : absorbAfterDeclined (.plain line t :: ps) = .plain line t :: absorbAfterDeclined ps := rfl
  cases ps with
  | nil => exact .text hne hsilent h
  | cons p ps =>
    cases p with
    | plain line' u =>
      cases h with
      | @text _ _ _ s _ hu hsilent' h =>
        rw [← List.append_assoc]
        refine .text (List.append_ne_nil_of_left_ne_nil hne u) (hsilent.append hsilent') ?_
        rwa [List.getLast?_append, Option.or_assoc, line_append]
    | declined line' u =>
      rw [joinPlain, hfirst]
      · exact .text hne hsilent h
      · simp
    | markup line' u found =>
      rw [joinPlain, hfirst]
      · exact .text hne hsilent h
      · simp

/-- Markup that is declined becomes part of the text behind it. -/
theorem absorbAfterDeclined_declined {α : Type} (line : Int) (t : Text) (ps : List (Piece α)) :
    absorbAfterDeclined (.declined line t :: ps) = absorbAfterDeclined (joinPlain line t ps) := by
  cases ps with
  | nil => rfl
  | cons p ps => cases p <;> simp [absorbAfterDeclined, joinPlain]

theorem Sign.silent_single {sign : Sign} {c : Char} (h : ¬ sign previous (c :: s)) : sign.Silent previous [c] s := by
  intro before rest hsplit hrest
  cases before with
  | nil =>
    obtain rfl : [c] = rest := hsplit
    exact h
  | cons d before =>
    rw [List.cons_append, List.cons.injEq, List.nil_eq_append_iff] at hsplit
    exact absurd hsplit.2.2 hrest

/-- What is taken at a place is a structural directive with the line break that it takes with it. -/
theorem mark_found {x : Text} (h : mark template ⟨previous, line, t ++ s⟩ = some (.accepted t.length (.ok (m, x)))) :
    ∃ u lineBreak, t = u ++ lineBreak ∧ IsStructural (lineBreak ++ s) u m ∧ m.resumes (lineBreak ++ s) = s ∧
      previous ≠ some '@' ∧ x = (t ++ s).take excerptLength := by
  obtain ⟨u, behind, hsplit, hstructural, hprevious⟩ := exists_isStructural h
  have hsplit : t ++ s = u ++ behind := hsplit
  have hread := hstructural.read template hsplit hprevious
  rw [h] at hread
  obtain ⟨hlength, hfound⟩ := Verdict.accepted.inj (Option.some.inj hread)
  obtain ⟨-, hx⟩ := Prod.mk.inj (Except.ok.inj hfound)
  obtain ⟨lineBreak, hbehind⟩ : ∃ lineBreak, behind = lineBreak ++ m.resumes behind := by
    cases m with
    | yield => exact ⟨[], rfl⟩
    | _ =>
      obtain ⟨lineBreak, -, h⟩ := swallowBreak_eq behind
      exact ⟨lineBreak, h⟩
  have hwhole : t ++ s = (u ++ lineBreak) ++ m.resumes behind := by rw [hsplit, List.append_assoc, ← hbehind]
  have hsame : t.length = (u ++ lineBreak).length := by
    rw [hlength, hwhole, length_sub_of_append rfl]
  obtain ⟨rfl, hs⟩ := List.append_inj hwhole hsame
  rw [← hs] at hbehind
  exact ⟨u, lineBreak, rfl, hbehind ▸ hstructural, hbehind ▸ hs.symm, hprevious, hx⟩

/-- The pieces of a text tell it. -/
theorem Scan.tells {ps : List (Piece (Mark × Text))} (h : Scan (mark template) previous line s ps) :
    Tells previous line s ((absorbAfterDeclined ps).map eventOf) := by
  have htakes : (mark template).Takes (directiveSign structuralUses) := mark_takes
  induction h with
  | nil => exact .nil
  | @silent previous line c s ps hrule _ ih =>
    rw [glue_eq]
    have ih : Tells ([c].getLast?.or previous) (line + Text.newlines [c]) s ((absorbAfterDeclined ps).map eventOf) := by
      simpa [lineAfter_eq] using ih
    refine ih.join (List.cons_ne_nil c []) (Sign.silent_single fun hhere => ?_)
    obtain ⟨n, found, haccepted⟩ := htakes ⟨previous, line, c :: s⟩ hhere
    rw [hrule] at haccepted
    cases haccepted
  | @declined previous line t s ps hne hrule _ ih =>
    rw [absorbAfterDeclined_declined]
    refine Tells.join (by rwa [getLast?_or hne]) hne ?_
    have hneat := mark_neat _ _ hrule
    generalize hlength : t.length = n at hneat
    cases hneat with
    | declined hspan _ htail =>
      obtain ⟨rfl, rfl⟩ := List.append_inj hspan.whole hlength
      exact htakes.silent (directiveSign_lawful _) hrule hspan htail
  | @found previous line t s a ps hne hrule _ ih =>
    obtain ⟨m, x⟩ := a
    obtain ⟨u, lineBreak, rfl, hstructural, hresumes, hprevious, rfl⟩ := mark_found hrule
    exact .mark hprevious hstructural hresumes ih
  | @failed previous line t s e hne hrule =>
    have hsign := directiveSign_of_accepted hrule
    refine .failure hsign (fun u behind m hsplit hstructural => ?_) (mark_not_onSections hrule)
    have hread := hstructural.read template hsplit hsign.1
    rw [hrule] at hread
    cases (Verdict.accepted.inj (Option.some.inj hread)).2

/-- Events tell nodes: those of each text, and every other node as it is. -/
inductive Told : List Node → List Event → Prop
  | nil : Told [] []
  | text {line : Int} {s : Text} {nodes : List Node} {events more : List Event} : Tells none line s events →
    Told nodes more → Told (.text line s :: nodes) (events ++ more)
  | node {node : Node} {nodes : List Node} {more : List Event} : (∀ line s, node ≠ .text line s) → Told nodes more →
    Told (node :: nodes) (.node node :: more)

theorem told_events (template : Text) (nodes : List Node) : Told nodes (nodes.flatMap (eventsOf template)) := by
  have hreads : (mark template).Reads fun _ s _ => IsMarkup .standard s := mark_reads
  induction nodes with
  | nil => exact .nil
  | cons node nodes ih =>
    rw [List.flatMap_cons]
    cases node with
    | text line s => exact .text (hreads.scan none line s).tells ih
    | _ => exact .node nofun ih

theorem Tells.failure_not_onSections (h : Tells previous line s events) {e : Error} (he : .failure e ∈ events) :
    ¬ e.OnSections := by
  induction h with
  | nil => cases he
  | text _ _ _ ih | mark _ _ _ _ ih => exact ih (List.mem_of_ne_of_mem (by simp) he)
  | failure _ _ hnot =>
    obtain rfl := Event.failure.inj (List.mem_singleton.mp he)
    exact hnot

theorem Told.failure_not_onSections (h : Told nodes events) {e : Error} (he : .failure e ∈ events) :
    ¬ e.OnSections := by
  induction h with
  | nil => cases he
  | text htells _ ih =>
    rcases List.mem_append.mp he with he | he
    · exact htells.failure_not_onSections he
    · exact ih he
  | node _ _ ih => exact ih (List.mem_of_ne_of_mem (by simp) he)

theorem Tells.node_eq (h : Tells previous line s events) {node : Node} (hnode : .node node ∈ events) :
    ∃ line t, node = .text line t := by
  induction h with
  | nil => cases hnode
  | text _ _ _ ih =>
    rcases List.mem_cons.mp hnode with heq | hnode
    · exact ⟨_, _, Event.node.inj heq⟩
    · exact ih hnode
  | mark _ _ _ _ ih => exact ih (List.mem_of_ne_of_mem (by simp) hnode)
  | failure => simp at hnode

/-- The events of nodes bring no section that the nodes do not hold. -/
theorem Told.flat (h : Told nodes events) (hflat : Flat nodes) {line : Int} {name label : Text} {body : List Node} :
    .node (.captured line name label body) ∉ events := by
  intro hnode
  induction h with
  | nil => cases hnode
  | text htells _ ih =>
    rcases List.mem_append.mp hnode with hnode | hnode
    · obtain ⟨_, _, heq⟩ := htells.node_eq hnode
      cases heq
    · exact ih (fun _ _ _ _ hmem => hflat _ _ _ _ (List.mem_cons_of_mem _ hmem)) hnode
  | node _ _ ih =>
    rcases List.mem_cons.mp hnode with heq | hnode
    · obtain rfl := Event.node.inj heq
      exact hflat _ _ _ _ List.mem_cons_self
    · exact ih (fun _ _ _ _ hmem => hflat _ _ _ _ (List.mem_cons_of_mem _ hmem)) hnode

/-! ## What is open, and what is left -/

/-- How a section starts: its line, the expression for its name, and its label. -/
structure Heading where
  line : Int
  name : Text
  label : Text

/-- The label of the section that a directive starts, in the block form or in the inline form. -/
def Mark.starts? : Mark → Option Text
  | .opening _ label | .inline _ label _ => some label
  | _ => none

/-- The section that is open behind an event. -/
def Event.opened (current : Option Heading) : Event → Option Heading
  | .mark line (.opening name label) _ => some ⟨line, name, label⟩
  | .mark _ (.closing _) _ => none
  | _ => current

/-- The section that is open behind events. -/
def sectionBehind (events : List Event) : Option Heading := events.foldl Event.opened none

/-- What an event leaves in document order: a node by itself, and what a structural directive becomes. -/
def Event.leaves (current : Option Heading) : Event → List Item
  | .node n => itemsOf n
  | .mark line (.extends layout) _ => [.node (.statement line ("_view.extends_layout(" ++ layout ++ ")"))]
  | .mark line (.yield name default) _ =>
    [.node (.echo line ("_view.yield_section(" ++ name ++ ", " ++ default ++ ")") false)]
  | .mark line (.opening name label) _ => [.start line name label]
  | .mark line (.inline name _ value) _ =>
    [.node (.statement line ("_view.set_section(" ++ name ++ ", _e(" ++ value ++ "))"))]
  | .mark line (.closing directive) _ =>
    match current with
    | none => [.node (.comment line ("@" ++ directive ++ " without an open section ignored"))]
    | some h =>
      .stop :: if directive = "show" then [.node (.echo line ("_view.yield_section(" ++ h.name ++ ")") false)] else []
  | .failure _ => []

/-- What events leave in document order, where a section is open or none is. -/
def leaves : Option Heading → List Event → List Item
  | _, [] => []
  | current, event :: events => event.leaves current ++ leaves (event.opened current) events

theorem leaves_append (current : Option Heading) (events more : List Event) :
    leaves current (events ++ more) = leaves current events ++ leaves (events.foldl Event.opened current) more := by
  induction events generalizing current with
  | nil => rfl
  | cons event events ih => simp [leaves, ih]

/-- Grouping gets past an event: it is no failure, and starts no section inside another. -/
def Event.Passes (current : Option Heading) : Event → Prop
  | .node _ => True
  | .mark _ m _ => m.starts? = none ∨ current = none
  | .failure _ => False

/-- How an event is refused: as a failure, or because a section would start inside the open one. -/
inductive Refused (template : Text) : Option Heading → Event → Error → Prop
  | failure {current : Option Heading} {e : Error} : Refused template current (.failure e) e
  | nested {outer : Heading} {line : Int} {m : Mark} {excerpt label : Text} : m.starts? = some label →
    Refused template (some outer) (.mark line m excerpt)
      (.compile ⟨.nestedSection outer.label label, some template, some line, some excerpt⟩)

/-- What grouping does not get past is refused. -/
theorem exists_refused (template : Text) {current : Option Heading} {event : Event} (h : ¬ event.Passes current) :
    ∃ e, Refused template current event e := by
  cases event with
  | node n => exact absurd trivial h
  | failure e => exact ⟨e, .failure⟩
  | mark line m excerpt =>
    obtain ⟨hstarts, hopen⟩ := not_or.mp h
    obtain ⟨label, hlabel⟩ := Option.ne_none_iff_exists'.mp hstarts
    obtain ⟨outer, rfl⟩ := Option.ne_none_iff_exists'.mp hopen
    exact ⟨_, .nested hlabel⟩

/-- Grouping gets past all events. -/
def Orderly (events : List Event) : Prop :=
  ∀ before event behind, events = before ++ event :: behind → event.Passes (sectionBehind before)

theorem orderly_concat {event : Event} :
    Orderly (events ++ [event]) ↔ Orderly events ∧ event.Passes (sectionBehind events) := by
  constructor
  · intro h
    refine ⟨fun before event' behind hsplit => h before event' (behind ++ [event]) ?_, h events event [] rfl⟩
    rw [hsplit, List.append_assoc, List.cons_append]
  · rintro ⟨hevents, hevent⟩ before event' behind hsplit
    rcases List.eq_nil_or_concat' behind with rfl | ⟨behind, last, rfl⟩
    · obtain ⟨rfl, hlast⟩ := List.append_inj' hsplit rfl
      obtain rfl := List.singleton_inj.mp hlast
      exact hevent
    · rw [← List.cons_append, ← List.append_assoc] at hsplit
      exact hevents before event' behind (List.append_inj' hsplit rfl).1

/-- Where grouping does not get past all events, there is a first one that it does not get past. -/
theorem exists_first (h : ¬ Orderly events) :
    ∃ before event behind, events = before ++ event :: behind ∧ Orderly before ∧
      ¬ event.Passes (sectionBehind before) := by
  induction events using List.reverseRecOn with
  | nil => exact absurd (fun before _ _ hsplit => by simp at hsplit) h
  | append_singleton events event ih =>
    by_cases hevents : Orderly events
    · exact ⟨events, event, [], rfl, hevents, fun hevent => h (orderly_concat.mpr ⟨hevents, hevent⟩)⟩
    · obtain ⟨before, event', behind, rfl, hrest⟩ := ih hevents
      exact ⟨before, event', behind ++ [event], by simp, hrest⟩

namespace Outline

variable {o o' : Outline} {event : Event}

/-- How the open section started. -/
def heading (o : Outline) : Option Heading := o.current.map fun s => ⟨s.line, s.name, s.label⟩

theorem heading_eq_none : o.heading = none ↔ o.current = none := Option.map_eq_none_iff

theorem heading_add (node : Node) (o : Outline) : (o.add node).heading = o.heading := by
  cases hcurrent : o.current <;> simp [add, heading, hcurrent]

/-- **A step.**  What an event leaves is put behind everything else, and the section that it leaves open is open. -/
theorem step_passes (template : Text) (h : event.Passes o.heading) :
    ∃ o', o.step template event = .ok o' ∧ o'.heading = event.opened o.heading ∧
      o'.items = o.items ++ event.leaves o.heading := by
  cases event with
  | node n => exact ⟨_, rfl, heading_add n o, items_add n o⟩
  | failure e => exact h.elim
  | mark line m excerpt =>
    cases m with
    | «extends» layout => exact ⟨_, rfl, heading_add _ o, items_add _ o⟩
    | yield name default => exact ⟨_, rfl, heading_add _ o, items_add _ o⟩
    | opening name label =>
      have hcurrent := heading_eq_none.mp (Or.resolve_left h (by simp [Mark.starts?]))
      refine ⟨{ o with current := some ⟨line, name, label, []⟩ }, ?_, rfl, by simp [items, hcurrent, Event.leaves]⟩
      simp [step, take, hcurrent]
    | inline name label value =>
      have hcurrent := heading_eq_none.mp (Or.resolve_left h (by simp [Mark.starts?]))
      refine ⟨o.addDone [.statement line ("_view.set_section(" ++ name ++ ", _e(" ++ value ++ "))")], ?_, rfl,
        items_addDone hcurrent _⟩
      simp only [step, take, hcurrent]
    | closing directive =>
      cases hcurrent : o.current with
      | none =>
        refine ⟨o.addDone [.comment line ("@" ++ directive ++ " without an open section ignored")], ?_, ?_, ?_⟩
        · simp only [step, take, hcurrent]
        · simp [heading, addDone, Event.opened, hcurrent]
        · simp [items_addDone hcurrent, Event.leaves, heading, hcurrent]
      | some s =>
        refine ⟨{ o.addDone (.captured s.line s.name s.label s.body ::
          if directive = "show" then [.echo line ("_view.yield_section(" ++ s.name ++ ")") false] else []) with
          current := none }, ?_, rfl, ?_⟩
        · simp only [step, take, hcurrent]
        · rw [items_close hcurrent]
          simp only [Event.leaves, heading, hcurrent, Option.map_some]
          split <;> rfl

/-- **A step that fails.**  An event is refused with its failure, or with the section that it would start. -/
theorem step_refused {e : Error} (h : Refused template o.heading event e) : o.step template event = .error e := by
  generalize hheading : o.heading = current at h
  cases h with
  | failure => rfl
  | @nested outer line m excerpt label hstarts =>
    obtain ⟨s, hcurrent, rfl⟩ := Option.map_eq_some_iff.mp hheading
    cases m with
    | opening name label' =>
      obtain rfl := Option.some.inj hstarts
      simp [step, take, hcurrent, nested]
    | inline name label' value =>
      obtain rfl := Option.some.inj hstarts
      simp [step, take, hcurrent, nested]
    | _ => cases hstarts

end Outline

/-- **A run.**  Grouping that gets past all events puts what they leave one behind the other. -/
theorem run_orderly (template : Text) (h : Orderly events) :
    ∃ o, events.foldlM (Outline.step template) {} = .ok o ∧ o.heading = sectionBehind events ∧
      o.items = leaves none events := by
  induction events using List.reverseRecOn with
  | nil => exact ⟨{}, rfl, rfl, rfl⟩
  | append_singleton events event ih =>
    obtain ⟨hevents, hevent⟩ := orderly_concat.mp h
    obtain ⟨o, hrun, hheading, hitems⟩ := ih hevents
    rw [← hheading] at hevent
    obtain ⟨o', hstep, hheading', hitems'⟩ := Outline.step_passes template hevent
    refine ⟨o', ?_, ?_, ?_⟩
    · rw [List.foldlM_append, hrun]
      exact bind_eq_ok.mpr ⟨o, rfl, bind_eq_ok.mpr ⟨o', hstep, rfl⟩⟩
    · rw [hheading', hheading, sectionBehind, sectionBehind, List.foldl_append]
      rfl
    · rw [hitems', hitems, hheading, leaves_append]
      simp [leaves, sectionBehind]

/-- **A run that fails.**  Grouping fails by the first event that is refused. -/
theorem run_refused {before behind : List Event} {event : Event} {e : Error} (hbefore : Orderly before)
    (hevent : Refused template (sectionBehind before) event e) :
    (before ++ event :: behind).foldlM (Outline.step template) {} = .error e := by
  obtain ⟨o, hrun, hheading, -⟩ := run_orderly template hbefore
  rw [← hheading] at hevent
  rw [List.foldlM_append, hrun]
  exact bind_eq_error.mpr (.inr ⟨o, rfl, bind_eq_error.mpr (.inl (Outline.step_refused hevent))⟩)

/-- Grouping gets past all events, or there is a first one that is refused. -/
theorem orderly_or_refused (template : Text) (events : List Event) :
    Orderly events ∨ ∃ before event behind e, events = before ++ event :: behind ∧ Orderly before ∧
      Refused template (sectionBehind before) event e := by
  by_cases h : Orderly events
  · exact .inl h
  · obtain ⟨before, event, behind, hsplit, hbefore, hevent⟩ := exists_first h
    obtain ⟨e, he⟩ := exists_refused template hevent
    exact .inr ⟨before, event, behind, e, hsplit, hbefore, he⟩

/-! ## Sections do not nest -/

/-- No section stands inside another. -/
def Shallow (nodes : List Node) : Prop := ∀ line name label body, .captured line name label body ∈ nodes → Flat body

theorem flat_append : Flat (nodes ++ out) ↔ Flat nodes ∧ Flat out := by
  simp only [Flat, List.mem_append, not_or, forall_and]

theorem Shallow.append (h : Shallow nodes) (hout : Shallow out) : Shallow (nodes ++ out) := by
  intro line name label body hmem
  exact (List.mem_append.mp hmem).elim (h line name label body) (hout line name label body)

theorem shallow_captured {body : List Node} (hbody : Flat body) (h : Shallow nodes) {line : Int} {name label : Text} :
    Shallow (.captured line name label body :: nodes) := by
  intro line' name' label' body' hmem
  rcases List.mem_cons.mp hmem with heq | hmem
  · obtain ⟨-, -, -, rfl⟩ := Node.captured.inj heq
    exact hbody
  · exact h line' name' label' body' hmem

theorem Flat.shallow (h : Flat nodes) : Shallow nodes := fun _ _ _ _ hmem => absurd hmem (h _ _ _ _)

namespace Outline

/-- Neither the finished sections nor the open one hold a section. -/
def Shallow (o : Outline) : Prop := Markup.Shallow o.done ∧ ∀ s, o.current = some s → Flat s.body

theorem shallow_add {node : Node} {o : Outline} (h : o.Shallow) (hnode : Flat [node]) : (o.add node).Shallow := by
  cases hcurrent : o.current with
  | none => simpa [add, hcurrent, Shallow] using h.1.append hnode.shallow
  | some s =>
    refine ⟨by simpa [add, hcurrent] using h.1, fun s' hs' => ?_⟩
    simp only [add, hcurrent, Option.some.injEq] at hs'
    subst hs'
    exact flat_append.mpr ⟨h.2 s hcurrent, hnode⟩

theorem shallow_step {event : Event} {o o' : Outline} (h : o.Shallow) (hevent : ∀ n, event = .node n → Flat [n])
    (hstep : o.step template event = .ok o') : o'.Shallow := by
  cases event with
  | node n =>
    obtain rfl := Except.ok.inj hstep
    exact shallow_add h (hevent n rfl)
  | failure e => cases hstep
  | mark line m excerpt =>
    cases m with
    | «extends» layout | yield name default =>
      obtain rfl := Except.ok.inj hstep
      exact shallow_add h (by simp [Flat])
    | opening name label =>
      cases hcurrent : o.current with
      | some outer => simp [step, take, hcurrent] at hstep
      | none =>
        simp only [step, take, hcurrent, Except.ok.injEq] at hstep
        subst hstep
        refine ⟨h.1, fun s hs => ?_⟩
        obtain rfl := Option.some.inj hs
        exact fun _ _ _ _ => List.not_mem_nil
    | inline name label value =>
      cases hcurrent : o.current with
      | some outer => simp [step, take, hcurrent] at hstep
      | none =>
        simp only [step, take, hcurrent, Except.ok.injEq] at hstep
        subst hstep
        exact ⟨h.1.append (Flat.shallow (by simp [Flat])), h.2⟩
    | closing directive =>
      cases hcurrent : o.current with
      | none =>
        simp only [step, take, hcurrent, Except.ok.injEq] at hstep
        subst hstep
        exact ⟨h.1.append (Flat.shallow (by simp [Flat])), h.2⟩
      | some s =>
        simp only [step, take, hcurrent, Except.ok.injEq] at hstep
        subst hstep
        refine ⟨h.1.append (shallow_captured (h.2 s hcurrent) (Flat.shallow ?_)), by simp⟩
        split <;> simp [Flat]

end Outline

theorem run_shallow {o o' : Outline} (ho : o.Shallow) (hevents : ∀ n, .node n ∈ events → Flat [n])
    (h : events.foldlM (Outline.step template) o = .ok o') : o'.Shallow := by
  induction events generalizing o with
  | nil =>
    obtain rfl := Except.ok.inj h
    exact ho
  | cons event events ih =>
    obtain ⟨o₁, hstep, h⟩ := bind_eq_ok.mp h
    have ho₁ := Outline.shallow_step ho (fun n hn => hevents n (hn ▸ List.mem_cons_self)) hstep
    exact ih ho₁ (fun n hn => hevents n (List.mem_cons_of_mem _ hn)) h

/-! ## Grouping -/

/-- Grouping that gets past all events ends with what they leave, or with the section that is still open. -/
theorem structure_orderly (h : Orderly (nodes.flatMap (eventsOf template))) :
    (∃ out, structure? template nodes = .ok out ∧ sectionBehind (nodes.flatMap (eventsOf template)) = none ∧
      items out = leaves none (nodes.flatMap (eventsOf template))) ∨
    ∃ outer, sectionBehind (nodes.flatMap (eventsOf template)) = some outer ∧
      structure? template nodes =
        .error (.compile ⟨.openSection outer.label, some template, some outer.line, none⟩) := by
  obtain ⟨o, hrun, hheading, hitems⟩ := run_orderly template h
  unfold structure?
  rw [← hheading, ← hitems, hrun]
  cases hcurrent : o.current with
  | none =>
    refine .inl ⟨o.done, bind_eq_ok.mpr ⟨o, rfl, ?_⟩, Outline.heading_eq_none.mpr hcurrent, ?_⟩
    · simp [Outline.finish, hcurrent]
    · simp [Outline.items, hcurrent]
  | some s =>
    refine .inr ⟨⟨s.line, s.name, s.label⟩, ?_, bind_eq_error.mpr (.inr ⟨o, rfl, ?_⟩)⟩
    · simp [Outline.heading, hcurrent]
    · simp [Outline.finish, hcurrent]

theorem structure_refused {before behind : List Event} {event : Event} {e : Error}
    (hsplit : nodes.flatMap (eventsOf template) = before ++ event :: behind) (hbefore : Orderly before)
    (hevent : Refused template (sectionBehind before) event e) : structure? template nodes = .error e := by
  unfold structure?
  rw [hsplit]
  exact bind_eq_error.mpr (.inl (run_refused hbefore hevent))

theorem structure_shallow (hflat : Flat nodes) (h : structure? template nodes = .ok out) : Shallow out := by
  obtain ⟨o, hrun, hfinish⟩ := bind_eq_ok.mp h
  have hevents : ∀ n, .node n ∈ nodes.flatMap (eventsOf template) → Flat [n] := by
    intro n hn line name label body hmem
    obtain rfl := List.mem_singleton.mp hmem
    exact (told_events template nodes).flat hflat hn
  have hempty : Outline.Shallow {} := ⟨nofun, nofun⟩
  have hshallow := run_shallow hempty hevents hrun
  cases hcurrent : o.current with
  | some s => simp [Outline.finish, hcurrent] at hfinish
  | none =>
    simp only [Outline.finish, hcurrent, Except.ok.injEq] at hfinish
    subst hfinish
    exact hshallow.1

section Ends

/-- The three ways in which grouping ends. -/
theorem structure_cases (template : Text) (nodes : List Node) :
    (∃ out, structure? template nodes = .ok out ∧ items out = leaves none (nodes.flatMap (eventsOf template))) ∨
    (Orderly (nodes.flatMap (eventsOf template)) ∧ ∃ outer,
      sectionBehind (nodes.flatMap (eventsOf template)) = some outer ∧ structure? template nodes =
        .error (.compile ⟨.openSection outer.label, some template, some outer.line, none⟩)) ∨
    ∃ before event behind e, nodes.flatMap (eventsOf template) = before ++ event :: behind ∧ Orderly before ∧
      Refused template (sectionBehind before) event e ∧ structure? template nodes = .error e := by
  rcases orderly_or_refused template (nodes.flatMap (eventsOf template)) with
    horderly | ⟨before, event, behind, e, hsplit, hbefore, he⟩
  · rcases structure_orderly horderly with ⟨out, hout, -, hitems⟩ | hopen
    · exact .inl ⟨out, hout, hitems⟩
    · exact .inr (.inl ⟨horderly, hopen⟩)
  · exact .inr (.inr ⟨before, event, behind, e, hsplit, hbefore, he, structure_refused hsplit hbefore he⟩)

theorem structure_items (h : structure? template nodes = .ok out) :
    items out = leaves none (nodes.flatMap (eventsOf template)) := by
  rcases structure_cases template nodes with ⟨out', hout, hitems⟩ | ⟨-, _, -, herror⟩ | ⟨_, _, _, e, -, -, -, herror⟩
  · rw [hout] at h
    obtain rfl := Except.ok.inj h
    exact hitems
  · rw [herror] at h
    cases h
  · rw [herror] at h
    cases h

variable {label outer inner : Text} {place excerpt : Option Text} {number : Option Int}

/-- A failure that is about how sections are grouped is no event. -/
theorem failure_not_mem {fault : CompileError} (h : fault.cause.onSections) :
    .failure (.compile fault) ∉ nodes.flatMap (eventsOf template) := fun hmem =>
  (told_events template nodes).failure_not_onSections hmem ⟨fault, rfl, h⟩

theorem nested_of_structure
    (h : structure? template nodes = .error (.compile ⟨.nestedSection outer inner, place, number, excerpt⟩)) :
    ∃ before l m x behind heading, nodes.flatMap (eventsOf template) = before ++ .mark l m x :: behind ∧
      Orderly before ∧ sectionBehind before = some heading ∧ heading.label = outer ∧ m.starts? = some inner ∧
      place = some template ∧ number = some l ∧ excerpt = some x := by
  rcases structure_cases template nodes with
    ⟨_, hout, -⟩ | ⟨-, _, -, herror⟩ | ⟨before, event, behind, e, hsplit, hbefore, he, herror⟩
  · rw [hout] at h
    cases h
  · rw [herror] at h
    cases h
  · rw [herror] at h
    obtain rfl := Except.error.inj h
    generalize hopen : sectionBehind before = current at he
    cases he with
    | failure =>
      have hmem : .failure (.compile ⟨.nestedSection outer inner, place, number, excerpt⟩) ∈
          nodes.flatMap (eventsOf template) := by
        rw [hsplit]
        exact List.mem_append_right _ List.mem_cons_self
      exact absurd hmem (failure_not_mem rfl)
    | nested hstarts => exact ⟨before, _, _, _, behind, _, hsplit, hbefore, hopen, rfl, hstarts, rfl, rfl, rfl⟩

theorem open_of_structure
    (h : structure? template nodes = .error (.compile ⟨.openSection label, place, number, excerpt⟩)) :
    Orderly (nodes.flatMap (eventsOf template)) ∧ ∃ heading,
      sectionBehind (nodes.flatMap (eventsOf template)) = some heading ∧ heading.label = label ∧ place = some template ∧
      number = some heading.line ∧ excerpt = none := by
  rcases structure_cases template nodes with
    ⟨_, hout, -⟩ | ⟨horderly, outer, hopen, herror⟩ | ⟨before, event, behind, e, hsplit, hbefore, he, herror⟩
  · rw [hout] at h
    cases h
  · rw [herror] at h
    cases h
    exact ⟨horderly, outer, hopen, rfl, rfl, rfl, rfl⟩
  · rw [herror] at h
    obtain rfl := Except.error.inj h
    generalize sectionBehind before = current at he
    cases he with
    | failure =>
      have hmem : .failure (.compile ⟨.openSection label, place, number, excerpt⟩) ∈
          nodes.flatMap (eventsOf template) := by
        rw [hsplit]
        exact List.mem_append_right _ List.mem_cons_self
      exact absurd hmem (failure_not_mem rfl)

end Ends

/-- **Grouping.**  The events of nodes tell each text, as stretches in which no structural directive begins and
directives with what they say, and every other node.  Where grouping succeeds, its sections opened in place are what the events
leave, in order, and no section stands inside another.  It fails because sections nest exactly at the first event that
it does not get past if that starts a section while one is open, which the error names; and because a section is open at
the end exactly if it gets past all events and one is. -/
theorem structure_groups (template : Text) (nodes : List Node) :
    ∃ events, Told nodes events ∧
      (Flat nodes → ∀ out, structure? template nodes = .ok out → items out = leaves none events ∧ Shallow out) ∧
      (∀ outer inner place line excerpt,
        structure? template nodes = .error (.compile ⟨.nestedSection outer inner, place, line, excerpt⟩) ↔
          ∃ before l m x behind heading, events = before ++ .mark l m x :: behind ∧ Orderly before ∧
            sectionBehind before = some heading ∧ heading.label = outer ∧ m.starts? = some inner ∧
            place = some template ∧ line = some l ∧ excerpt = some x) ∧
      ∀ label place line excerpt,
        structure? template nodes = .error (.compile ⟨.openSection label, place, line, excerpt⟩) ↔
          Orderly events ∧ ∃ heading, sectionBehind events = some heading ∧ heading.label = label ∧
            place = some template ∧ line = some heading.line ∧ excerpt = none := by
  refine ⟨_, told_events template nodes, fun hflat out h => ⟨structure_items h, structure_shallow hflat h⟩,
    fun outer inner place line excerpt => ⟨nested_of_structure, ?_⟩,
    fun label place line excerpt => ⟨open_of_structure, ?_⟩⟩
  · rintro ⟨before, l, m, x, behind, heading, hsplit, hbefore, hopen, rfl, hstarts, rfl, rfl, rfl⟩
    exact structure_refused hsplit hbefore (hopen ▸ .nested hstarts)
  · rintro ⟨horderly, heading, hopen, rfl, rfl, rfl, rfl⟩
    rcases structure_orderly horderly with ⟨_, -, hnone, -⟩ | ⟨outer, houter, herror⟩
    · rw [hopen] at hnone
      cases hnone
    · rw [hopen] at houter
      obtain rfl := Option.some.inj houter
      exact herror

/-! ### A section that is shown -/

/-- Nodes with a section that is closed where it is shown, and a node of its own in it. -/
def sectionNodes : List Node := [.text 1 "a@section('x')b", .verbatim 1 "@yield", .text 1 "@show"]

/-- The nodes that these are grouped into. -/
def sectionGroups : List Node :=
  [.text 1 "a", .captured 1 "'x'" "x" [.text 1 "b", .verbatim 1 "@yield"], .echo 1 "_view.yield_section('x')" false]

theorem isStructural_opening :
    IsStructural ['b'] ('@' :: "section" ++ ([] ++ '(' :: "'x'" ++ [')'])) (.opening "'x'" "x") := by
  have hinner : Argument.Items ("'x'" : Text) :=
    @Argument.Items.literal '\'' ['x'] [] (by decide) (.plain (by decide) (by decide) .nil) .nil
  have hargs : Argument.arguments (some "'x'") = [("'x'" : Text)] := by cbv
  have hname : nameArgument "'x'" = .ok (("'x'" : Text), ("x" : Text)) := by
    have hliteral : Argument.literal "'x'" = .ok (some ("x" : Text)) := by cbv
    unfold nameArgument
    rw [hliteral]
    rfl
  have hmark : markOf "section" (Argument.arguments (some "'x'")) = .ok (.opening "'x'" "x") := by
    have hextends : ¬ ("section" : Text) = "extends" := by decide
    have hyield : ¬ ("section" : Text) = "yield" := by decide
    unfold markOf
    rw [hargs]
    simp only
    rw [if_neg hextends, hname]
    simp only [bind, Except.bind, if_neg hyield]
    rfl
  exact .group (by simp [structuralUses, breakingUses]) (by simp) hinner hmark

theorem isStructural_show : IsStructural [] ('@' :: "show") (.closing "show") := by
  have hends : EndsWord "show" [] := by
    unfold EndsWord
    decide +kernel
  exact .closing (by simp [structuralUses, breakingUses]) hends

theorem structure_sectionNodes : structure? "page" sectionNodes = .ok sectionGroups := by
  have hopening : pieces (mark "page") 1 "a@section('x')b" =
      [.plain 1 "a", .markup 1 "@section('x')" (.ok (.opening "'x'" "x", "@section('x')b")), .plain 1 "b"] := by
    have hprevious : (some 'a' : Option Char) ≠ some '@' := by decide
    have hread := isStructural_opening.read
      (p := ⟨some 'a', 1, '@' :: "section" ++ ([] ++ '(' :: "'x'" ++ [')']) ++ ['b']⟩) "page" rfl hprevious
    simp [Mark.resumes, swallowBreak, Place.excerpt, excerptLength] at hread
    simp [pieces, piecesFrom, mark_plain, hread, lineAfter, glue]
  have hshow : pieces (mark "page") 1 "@show" = [.markup 1 "@show" (.ok (.closing "show", "@show"))] := by
    have hread := isStructural_show.read (p := ⟨none, 1, '@' :: "show" ++ []⟩) "page" rfl (by simp)
    simp [Mark.resumes, swallowBreak, Place.excerpt, excerptLength] at hread
    simp [pieces, piecesFrom, hread]
  simp only [structure?, sectionNodes, sectionGroups, eventsOf, List.flatMap_cons, List.flatMap_nil, hopening, hshow]
  simp [absorbAfterDeclined, eventOf, Outline.step, Outline.add, Outline.take, Outline.finish, Outline.addDone, bind,
    Except.bind, pure, Except.pure]

/-- What the section holds stays in it, and all that the events leave is there. -/
theorem structure_groups_section :
    ∃ events, Told sectionNodes events ∧ items sectionGroups = leaves none events ∧ Shallow sectionGroups := by
  obtain ⟨events, htold, hgroups, -, -⟩ := structure_groups "page" sectionNodes
  exact ⟨events, htold, hgroups (by simp [Flat, sectionNodes]) sectionGroups structure_sectionNodes⟩

end Markup
end Stencil
