import Stencil.Proofs.Markup.Tile

/-!
# What is left of a text

A pass that takes markup out of a text leaves fragments of it.  Markup that can be seen in a fragment could be seen in
the text at the same place, because a fragment starts and ends where markup does; so a pass that takes everything of a
kind leaves nothing of the kind, and no later pass brings it back.

* `Sign` — what can start at a place: told by the character before it and the text from there on.
* `Fragment` — a stretch of a text that starts and ends where cutting does not change what can be seen.
* `Sign.Seen` — something starts somewhere in a text; `Fragment.seen` — then also in the text that it is a fragment of.
* `Rule.Neat`, `Rule.Takes` — a rule takes markup from its first to its last character, and takes all of a kind.
* `Rule.Neat.cut` — how such a rule cuts a text; `Left.fragment` — each text it leaves is a fragment.
-/

namespace Stencil.Markup

variable {α : Type}

/-! ## What can be seen in a text -/

/-- The characters that markup starts with. -/
def isSigil (c : Char) : Bool := c == '@' || c == '\x7b'

/-- What can start at a place, told by the character before the place and the text from there on. -/
abbrev Sign := Option Char → Text → Prop

/-- A text ends, or goes on with the start of markup. -/
def Ends (s : Text) : Prop := ∀ c ∈ s.head?, isSigil c

/-- Between a character and a text behind it no doubled `@` is cut apart. -/
def Parts (previous : Option Char) (s : Text) : Prop := previous = some '@' → s.head? ≠ some '@'

/-- A sign starts with a sigil, and is still there when the text around it is seen too. -/
structure Sign.Lawful (sign : Sign) : Prop where
  head : ∀ {previous s}, sign previous s → ∃ c rest, s = c :: rest ∧ isSigil c
  stays : ∀ {before around : Option Char} {s behind : Text}, sign before s → Ends behind →
    (before = none → Parts around s) → sign (before.or around) (s ++ behind)

/-- Something starts somewhere in a text. -/
def Sign.Seen (sign : Sign) (t : Text) : Prop := ∃ before rest, t = before ++ rest ∧ sign before.getLast? rest

/-- A stretch of a text that neither starts behind half of a doubled `@` nor ends before anything but markup. -/
def Fragment (t s : Text) : Prop :=
  ∃ before behind, s = before ++ t ++ behind ∧ Parts before.getLast? t ∧ Ends behind

/-- What can be seen in a fragment can be seen in the text. -/
theorem Fragment.seen {sign : Sign} (hsign : sign.Lawful) {t s : Text} (h : Fragment t s) (ht : sign.Seen t) :
    sign.Seen s := by
  obtain ⟨before, behind, rfl, hparts, hends⟩ := h
  obtain ⟨inside, rest, rfl, hhere⟩ := ht
  refine ⟨before ++ inside, rest ++ behind, by simp, ?_⟩
  rw [List.getLast?_append]
  refine hsign.stays hhere hends fun hnone => ?_
  obtain rfl := List.getLast?_eq_none_iff.mp hnone
  exact hparts

theorem Ends.nil : Ends [] := fun c hc => by cases hc

theorem Ends.append {s : Text} (h : Ends s) (hne : s ≠ []) (t : Text) : Ends (s ++ t) := by
  cases s with
  | nil => exact absurd rfl hne
  | cons c s => exact h

theorem Parts.none (s : Text) : Parts none s := fun h => by cases h

theorem Parts.append {previous : Option Char} {s : Text} (h : Parts previous s) (hne : s ≠ []) (t : Text) :
    Parts previous (s ++ t) := by
  cases s with
  | nil => exact absurd rfl hne
  | cons c s => exact h

theorem Parts.left {previous : Option Char} {s t : Text} (h : Parts previous (s ++ t)) (hne : s ≠ []) :
    Parts previous s := by
  cases s with
  | nil => exact absurd rfl hne
  | cons c s => exact h

/-! ## Rules that take whole markup -/

/-- A word that ends a stretch ends there, and a stretch that ends with an `@` is nothing but a single or a doubled one in
front of a word. -/
structure Apart (used rest : Text) : Prop where
  word : Text.isWord? used.getLast? = true → Text.isWord? rest.head? = false
  sign : used.getLast? = some '@' → Text.isWord? rest.head? = true ∧ used.length ≤ 2

theorem Apart.parts {used rest : Text} (h : Apart used rest) : Parts used.getLast? rest := by
  intro hlast hhead
  have hword := (h.sign hlast).1
  rw [hhead] at hword
  exact absurd hword (by decide)

/-- A stretch at a place that starts with a sigil and is apart from what stands behind it. -/
structure Span (p : Place) (used rest : Text) : Prop where
  whole : p.rest = used ++ rest
  head : ∃ c tail, used = c :: tail ∧ isSigil c
  apart : Apart used rest

/-- A verdict is about a span; what it declines has no second sigil and does not follow an `@`. -/
inductive Verdict.Neat (p : Place) : Verdict α → Prop
  | declined {used rest : Text} : Span p used rest → Parts p.previous used → (∀ c ∈ used.tail, isSigil c = false) →
    Neat p (.declined used.length)
  | accepted {used rest : Text} {found : Except Error α} : Span p used rest → Neat p (.accepted used.length found)

/-- All verdicts of a rule are about spans. -/
def Rule.Neat (rule : Rule α) : Prop := ∀ p v, rule p = some v → v.Neat p

/-- A rule takes everything of a kind. -/
def Rule.Takes (rule : Rule α) (sign : Sign) : Prop :=
  ∀ p, sign p.previous p.rest → ∃ n found, rule p = some (.accepted n found)

/-! ## Pieces in their places -/

/-- Nothing starts in a stretch between a character and the text behind it. -/
def Sign.Silent (sign : Sign) (previous : Option Char) (t behind : Text) : Prop :=
  ∀ before rest, t = before ++ rest → rest ≠ [] → ¬ sign (before.getLast?.or previous) (rest ++ behind)

theorem Sign.Silent.append {sign : Sign} {previous : Option Char} {t u behind : Text}
    (ht : sign.Silent previous t (u ++ behind)) (hu : sign.Silent (t.getLast?.or previous) u behind) :
    sign.Silent previous (t ++ u) behind := by
  intro before rest hsplit hrest
  rcases List.append_eq_append_iff.mp hsplit with ⟨mid, rfl, rfl⟩ | ⟨mid, rfl, rfl⟩
  · rw [List.getLast?_append, Option.or_assoc]
    exact hu mid rest rfl hrest
  · by_cases hmid : mid = []
    · subst hmid
      rw [List.append_nil] at hu
      exact hu [] u rfl hrest
    · rw [List.append_assoc]
      exact ht before mid rfl hmid

/-- The first piece, if there is one, is not plain. -/
def Bare (ps : List (Piece α)) : Prop := ∀ line t rest, ps ≠ .plain line t :: rest

/-- Pieces as a neat rule cuts them that takes everything of a kind, told with the character before them and with what the
rule says where it takes something. -/
inductive Cut (rule : Rule α) (sign : Sign) : Option Char → Text → List (Piece α) → Prop
  | nil {previous : Option Char} : Cut rule sign previous [] []
  | plain {previous : Option Char} {line : Int} {t s : Text} {ps : List (Piece α)} : t ≠ [] →
    sign.Silent previous t s → Bare ps → Cut rule sign (t.getLast?.or previous) s ps →
    Cut rule sign previous (t ++ s) (.plain line t :: ps)
  | declined {previous : Option Char} {line : Int} {t s : Text} {ps : List (Piece α)} : t ≠ [] → Ends t →
    sign.Silent previous t s → Parts previous t → Parts t.getLast? s → Cut rule sign t.getLast? s ps →
    Cut rule sign previous (t ++ s) (.declined line t :: ps)
  | markup {previous : Option Char} {line : Int} {t s : Text} {ps : List (Piece α)} {a : α} : t ≠ [] →
    Ends t → Apart t s → rule ⟨previous, line, t ++ s⟩ = some (.accepted t.length (.ok a)) →
    Cut rule sign t.getLast? s ps → Cut rule sign previous (t ++ s) (.markup line t (.ok a) :: ps)
  | failed {previous : Option Char} {line : Int} {t s : Text} {e : Error} : Ends s →
    Cut rule sign previous s [.markup line t (.error e)]

theorem Cut.ends {rule : Rule α} {sign : Sign} {previous : Option Char} {s : Text} {ps : List (Piece α)}
    (h : Cut rule sign previous s ps)
    (hbare : Bare ps) : Ends s := by
  cases h with
  | nil => exact .nil
  | plain => exact absurd rfl (hbare _ _ _)
  | declined hne hends => exact hends.append hne _
  | markup hne hends => exact hends.append hne _
  | failed hends => exact hends

theorem getLast?_or {t : Text} (h : t ≠ []) {previous : Option Char} : t.getLast?.or previous = t.getLast? := by
  cases hlast : t.getLast? with
  | none => exact absurd (List.getLast?_eq_none_iff.mp hlast) h
  | some last => rfl

/-- A character at which nothing starts in front of pieces. -/
theorem Cut.glue {rule : Rule α} {sign : Sign} {previous : Option Char} {c : Char} {s : Text} {ps : List (Piece α)}
    {line : Int} (h : Cut rule sign (some c) s ps) (hc : ¬ sign previous (c :: s)) :
    Cut rule sign previous (c :: s) (glue line c ps) := by
  have hone : sign.Silent previous [c] s := by
    intro before rest hsplit hrest
    cases before with
    | nil =>
      obtain rfl : [c] = rest := hsplit
      exact hc
    | cons d before =>
      rw [List.cons_append, List.cons.injEq, List.nil_eq_append_iff] at hsplit
      exact absurd hsplit.2.2 hrest
  cases h with
  | @plain _ _ t s ps hne hsilent hbare h =>
    have hlonger : Cut rule sign ((c :: t).getLast?.or previous) s ps := by rwa [getLast?_or_cons]
    exact .plain (t := c :: t) (List.cons_ne_nil _ _) (.append (t := [c]) hone hsilent) hbare hlonger
  | nil => exact .plain (t := [c]) (List.cons_ne_nil _ _) hone (fun _ _ _ h => by cases h) .nil
  | declined hne hends hsilent hparts hparts' h =>
    exact .plain (t := [c]) (List.cons_ne_nil _ _) hone (fun _ _ _ h => by cases h)
      (.declined hne hends hsilent hparts hparts' h)
  | markup hne hends hapart hrule h =>
    exact .plain (t := [c]) (List.cons_ne_nil _ _) hone (fun _ _ _ h => by cases h) (.markup hne hends hapart hrule h)
  | failed hends =>
    exact .plain (t := [c]) (List.cons_ne_nil _ _) hone (fun _ _ _ h => by cases h) (.failed hends)

section Cutting

variable {rule : Rule α} {sign : Sign}

/-- What a rule declines holds nothing of a kind that it takes all of. -/
theorem Rule.Takes.silent (htakes : rule.Takes sign) (hsign : sign.Lawful) {p : Place} {used rest : Text} {n : Nat}
    (hrule : rule p = some (.declined n)) (hspan : Span p used rest) (htail : ∀ c ∈ used.tail, isSigil c = false) :
    sign.Silent p.previous used rest := by
  intro before behind hsplit hbehind hhere
  cases before with
  | nil =>
    obtain rfl : used = behind := hsplit
    rw [← hspan.whole] at hhere
    obtain ⟨n, found, haccepted⟩ := htakes p hhere
    rw [hrule] at haccepted
    cases haccepted
  | cons d before =>
    obtain ⟨c, behind, rfl⟩ := List.exists_cons_of_ne_nil hbehind
    obtain ⟨c', rest', hhead, hsigil⟩ := hsign.head hhere
    obtain ⟨rfl, -⟩ := List.cons.inj hhead
    rw [htail c (by rw [hsplit]; simp)] at hsigil
    cases hsigil

/-- Behind `skip` characters that were taken before, the pieces of a text cut the rest of it. -/
theorem Rule.Neat.cutFrom (hneat : rule.Neat) (htakes : rule.Takes sign) (hsign : sign.Lawful) (skip : Nat)
    (previous : Option Char) (line : Int) (s : Text) (hskip : skip ≤ s.length) :
    Cut rule sign ((s.take skip).getLast?.or previous) (s.drop skip) (piecesFrom rule skip previous line s) := by
  induction s generalizing skip previous line with
  | nil =>
    obtain rfl : skip = 0 := by simpa using hskip
    simpa [piecesFrom] using Cut.nil
  | cons c s ih =>
    cases skip with
    | succ skip =>
      rw [List.take_succ_cons, getLast?_or_cons]
      exact ih skip (some c) _ (by simpa using hskip)
    | zero =>
      -- what a verdict takes begins with `c`, so the rest of it is skipped behind `c`
      have hbehind : ∀ {used rest : Text}, Span ⟨previous, line, c :: s⟩ used rest →
          used ≠ [] ∧ Ends used ∧ c :: s = used ++ rest ∧ (c :: s).take used.length = used ∧
            Cut rule sign used.getLast? rest (piecesFrom rule (used.length - 1) (some c) (lineAfter c line) s) := by
        intro used rest hspan
        obtain ⟨d, tail, rfl, hsigil⟩ := hspan.head
        have hwhole : c :: s = (d :: tail) ++ rest := hspan.whole
        rw [hwhole, List.take_left]
        rw [List.cons_append, List.cons.injEq] at hwhole
        obtain ⟨rfl, rfl⟩ := hwhole
        have hcut := ih tail.length (some c) (lineAfter c line) (by simp)
        rw [List.take_left, List.drop_left] at hcut
        refine ⟨List.cons_ne_nil _ _, ?_, rfl, rfl, ?_⟩
        · rintro _ ⟨⟩
          exact hsigil
        · rw [← Option.or_none (o := (c :: tail).getLast?), getLast?_or_cons]
          exact hcut
      rw [List.take_zero, List.drop_zero, List.getLast?_nil, Option.none_or]
      cases hrule : rule ⟨previous, line, c :: s⟩ with
      | none =>
        have hcut := ih 0 (some c) (lineAfter c line) (Nat.zero_le _)
        simp only [piecesFrom, hrule]
        refine Cut.glue (by simpa using hcut) fun hhere => ?_
        obtain ⟨n, found, haccepted⟩ := htakes ⟨previous, line, c :: s⟩ hhere
        rw [hrule] at haccepted
        cases haccepted
      | some v =>
        cases hneat _ _ hrule with
        | @declined used rest hspan hparts htail =>
          have hsilent := htakes.silent hsign hrule hspan htail
          obtain ⟨hne, hends, hwhole, htake, hcut⟩ := hbehind hspan
          simp only [piecesFrom, hrule, htake]
          rw [hwhole]
          exact .declined hne hends hsilent hparts hspan.apart.parts hcut
        | @accepted used rest found hspan =>
          obtain ⟨hne, hends, hwhole, htake, hcut⟩ := hbehind hspan
          cases found with
          | error e =>
            simp only [piecesFrom, hrule]
            rw [hwhole]
            exact .failed (hends.append hne rest)
          | ok a =>
            simp only [piecesFrom, hrule, htake]
            rw [hwhole] at hrule ⊢
            exact .markup hne hends hspan.apart hrule hcut

theorem Rule.Neat.cut (hneat : rule.Neat) (htakes : rule.Takes sign) (hsign : sign.Lawful) (line : Int) (s : Text) :
    Cut rule sign none s (pieces rule line s) := by
  simpa [pieces] using hneat.cutFrom htakes hsign 0 none line s (Nat.zero_le _)

end Cutting

/-! ## What stays text -/

/-- Texts in which nothing starts, and between them what a rule takes. -/
inductive Left (rule : Rule α) (sign : Sign) : Option Char → Text → List (Piece α) → Prop
  | nil {previous : Option Char} : Left rule sign previous [] []
  | text {previous : Option Char} {line : Int} {t s : Text} {ps : List (Piece α)} : t ≠ [] →
    sign.Silent previous t s → Parts previous t → Ends s → Left rule sign (t.getLast?.or previous) s ps →
    Left rule sign previous (t ++ s) (.plain line t :: ps)
  | markup {previous : Option Char} {line : Int} {t s : Text} {ps : List (Piece α)} {a : α} : t ≠ [] → Ends t →
    Apart t s → rule ⟨previous, line, t ++ s⟩ = some (.accepted t.length (.ok a)) →
    Left rule sign t.getLast? s ps → Left rule sign previous (t ++ s) (.markup line t (.ok a) :: ps)
  | failed {previous : Option Char} {line : Int} {t s : Text} {e : Error} : Ends s →
    Left rule sign previous s [.markup line t (.error e)]

variable {rule : Rule α} {sign : Sign} {previous : Option Char} {s t : Text} {ps : List (Piece α)} {line : Int}

/-- A text in front of what stays text and markup. -/
theorem Left.join (h : Left rule sign (t.getLast?.or previous) s ps) (hne : t ≠ []) (hsilent : sign.Silent previous t s)
    (hparts : Parts previous t) : Left rule sign previous (t ++ s) (joinPlain line t ps) := by
  cases h with
  | @text _ _ u s ps hne' hsilent' hparts' hends h =>
    rw [← List.append_assoc]
    refine .text (List.append_ne_nil_of_left_ne_nil hne u) (hsilent.append hsilent') (hparts.append hne u) hends ?_
    rwa [List.getLast?_append, Option.or_assoc]
  | nil => exact .text hne hsilent hparts .nil .nil
  | markup hne' hends hapart hrule h =>
    exact .text hne hsilent hparts (hends.append hne' _) (.markup hne' hends hapart hrule h)
  | failed hends => exact .text hne hsilent hparts hends (.failed hends)

/-- Declined markup may be joined with the text on both sides of it. -/
theorem Cut.absorbDeclined (h : Cut rule sign previous s ps) (hfirst : ¬ Bare ps → Parts previous s) :
    Left rule sign previous s (absorbDeclined ps) := by
  induction h with
  | nil => exact .nil
  | plain hne hsilent hbare _ ih =>
    refine Left.join (ih fun h => absurd hbare h) hne hsilent ?_
    exact (hfirst fun h => h _ _ _ rfl).left hne
  | declined hne hends hsilent hparts hparts' _ ih =>
    refine Left.join ?_ hne hsilent hparts
    rw [getLast?_or hne]
    exact ih fun _ => hparts'
  | markup hne hends hapart hrule _ ih => exact .markup hne hends hapart hrule (ih fun _ => hapart.parts)
  | failed hends => exact .failed hends

/-- Declined markup may be joined with the text behind it. -/
theorem Cut.absorbAfterDeclined (h : Cut rule sign previous s ps) (hfirst : ¬ Bare ps → Parts previous s) :
    Left rule sign previous s (absorbAfterDeclined ps) := by
  fun_induction Markup.absorbAfterDeclined ps generalizing previous s with
  | case1 _ t line' u ps ih =>
    cases h with
    | declined hne hends hsilent hparts hparts' h =>
      have hlast : t.getLast?.or previous = t.getLast? := getLast?_or hne
      rw [← hlast] at h
      cases h with
      | plain hne' hsilent' hbare h =>
        rw [← List.append_assoc]
        refine .text (List.append_ne_nil_of_left_ne_nil hne _) (hsilent.append hsilent') (hparts.append hne _)
          (h.ends hbare) (ih ?_ fun h => absurd hbare h)
        rwa [List.getLast?_append, Option.or_assoc]
  | case2 _ t ps hbare ih =>
    cases h with
    | declined hne hends hsilent hparts hparts' h =>
      have hends' := h.ends fun line u rest heq => hbare line u rest heq
      refine .text hne hsilent hparts hends' ?_
      rw [getLast?_or hne]
      exact ih h fun _ => hparts'
  | case3 p ps _ hdeclined ih =>
    cases h with
    | plain hne hsilent hbare h =>
      exact .text hne hsilent ((hfirst fun h => h _ _ _ rfl).left hne) (h.ends hbare) (ih h fun h => absurd hbare h)
    | declined => exact (hdeclined _ _ rfl).elim
    | markup hne hends hapart hrule h => exact .markup hne hends hapart hrule (ih h fun _ => hapart.parts)
    | failed hends => exact .failed hends
  | case4 =>
    cases h
    exact .nil

/-- What stays text is a fragment in which nothing starts. -/
theorem Left.text_eq (h : Left rule sign previous s ps) (hmem : .plain line t ∈ ps) :
    ∃ before behind, s = before ++ t ++ behind ∧ Parts (before.getLast?.or previous) t ∧ Ends behind ∧
      sign.Silent (before.getLast?.or previous) t behind := by
  induction h with
  | nil => cases hmem
  | @text previous _ u s ps hne hsilent hparts hends _ ih =>
    rcases List.mem_cons.mp hmem with heq | hmem
    · cases heq
      exact ⟨[], s, rfl, hparts, hends, hsilent⟩
    · obtain ⟨before, behind, rfl, hrest⟩ := ih hmem
      refine ⟨u ++ before, behind, by simp, ?_⟩
      rwa [List.getLast?_append, Option.or_assoc]
  | @markup previous _ u s ps a hne hends _ _ _ ih =>
    rcases List.mem_cons.mp hmem with heq | hmem
    · cases heq
    · obtain ⟨before, behind, rfl, hrest⟩ := ih hmem
      refine ⟨u ++ before, behind, by simp, ?_⟩
      rwa [List.getLast?_append, Option.or_assoc, getLast?_or hne]
  | failed => simp at hmem

theorem Left.fragment (h : Left rule sign none s ps) (hsign : sign.Lawful) (hmem : .plain line t ∈ ps) :
    Fragment t s ∧ ¬ sign.Seen t := by
  obtain ⟨before, behind, hwhole, hparts, hends, hsilent⟩ := h.text_eq hmem
  rw [Option.or_none] at hparts hsilent
  refine ⟨⟨before, behind, hwhole, hparts, hends⟩, ?_⟩
  rintro ⟨inside, rest, rfl, hhere⟩
  obtain ⟨c, rest', rfl, -⟩ := hsign.head hhere
  refine hsilent inside _ rfl (List.cons_ne_nil _ _) (hsign.stays hhere hends fun hnone => ?_)
  obtain rfl := List.getLast?_eq_none_iff.mp hnone
  exact hparts

end Stencil.Markup
