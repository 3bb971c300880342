import Stencil.Proofs.Markup.Comment

/-!
# Scanning a text

A rule is asked at one place of a text after the other; behind markup that it declines or accepts it is asked again, and
at a failure it is not asked any more.

* `Scan` — the pieces of a text with what the rule says at the places where they begin.
* `Rule.Reads.scan` — the pieces that a rule cuts a text into are such a scan; `Scan.eq_pieces` — and no others are.
-/

namespace Stencil.Markup

variable {α : Type} {rule : Rule α} {Q : Int → Text → α → Prop} {previous : Option Char} {line : Int} {s t : Text}
  {ps : List (Piece α)}

/-- The pieces of a text that starts behind a character, with what a rule says where they begin. -/
inductive Scan (rule : Rule α) : Option Char → Int → Text → List (Piece α) → Prop
  | nil {previous : Option Char} {line : Int} : Scan rule previous line [] []
  | silent {previous : Option Char} {line : Int} {c : Char} {s : Text} {ps : List (Piece α)} :
    rule ⟨previous, line, c :: s⟩ = none → Scan rule (some c) (lineAfter c line) s ps →
    Scan rule previous line (c :: s) (glue line c ps)
  | declined {previous : Option Char} {line : Int} {t s : Text} {ps : List (Piece α)} : t ≠ [] →
    rule ⟨previous, line, t ++ s⟩ = some (.declined t.length) → Scan rule t.getLast? (line + t.newlines) s ps →
    Scan rule previous line (t ++ s) (.declined line t :: ps)
  | found {previous : Option Char} {line : Int} {t s : Text} {a : α} {ps : List (Piece α)} : t ≠ [] →
    rule ⟨previous, line, t ++ s⟩ = some (.accepted t.length (.ok a)) →
    Scan rule t.getLast? (line + t.newlines) s ps → Scan rule previous line (t ++ s) (.markup line t (.ok a) :: ps)
  | failed {previous : Option Char} {line : Int} {t s : Text} {e : Error} : t ≠ [] →
    rule ⟨previous, line, t ++ s⟩ = some (.accepted t.length (.error e)) →
    Scan rule previous line (t ++ s) [.markup line t (.error e)]

/-- What stands behind markup that was taken is read from its first place on. -/
theorem piecesFrom_behind (rule : Rule α) (line : Int) {c : Char} {whole : Text} (ht : t ≠ [])
    (h : c :: whole = t ++ s) : (c :: whole).take t.length = t ∧
      piecesFrom rule (t.length - 1) (some c) (lineAfter c line) whole =
        piecesFrom rule 0 t.getLast? (line + t.newlines) s := by
  obtain ⟨d, t, rfl⟩ := List.exists_cons_of_ne_nil ht
  obtain ⟨rfl, rfl⟩ := List.cons.inj h
  have hskip := piecesFrom_skip rule (some c) (lineAfter c line) t s
  rw [← line_cons, ← getLast?_or_cons c t none, Option.or_none] at hskip
  exact ⟨List.take_left, hskip⟩

/-- **Scanning.**  A rule that takes what stands at a place cuts a text into the pieces of a scan. -/
theorem Rule.Reads.scan (h : rule.Reads Q) (previous : Option Char) (line : Int) (s : Text) :
    Scan rule previous line s (piecesFrom rule 0 previous line s) := by
  induction hn : s.length using Nat.strong_induction_on generalizing previous line s with
  | _ n ih =>
    cases s with
    | nil => exact .nil
    | cons c s =>
      have hbehind : ∀ {used rest : Text}, c :: s = used ++ rest → used ≠ [] →
          (c :: s).take used.length = used ∧ Scan rule used.getLast? (line + used.newlines) rest
            (piecesFrom rule (used.length - 1) (some c) (lineAfter c line) s) := by
        intro used rest hsplit hused
        obtain ⟨htake, hskip⟩ := piecesFrom_behind rule line hused hsplit
        have hpos := List.length_pos_of_ne_nil hused
        have hshorter : rest.length < n := by
          rw [← hn, hsplit, List.length_append]
          omega
        exact ⟨htake, hskip ▸ ih rest.length hshorter _ _ rest rfl⟩
      rw [piecesFrom]
      cases hrule : rule ⟨previous, line, c :: s⟩ with
      | none => exact .silent hrule (ih s.length (by rw [← hn]; simp) _ _ s rfl)
      | some v =>
        cases h _ _ hrule with
        | @declined used rest hsplit hused =>
          have hsplit : c :: s = used ++ rest := hsplit
          obtain ⟨htake, hscan⟩ := hbehind hsplit hused
          simp only [htake]
          rw [hsplit] at hrule ⊢
          exact .declined hused hrule hscan
        | @failed used rest e hsplit hused =>
          have hsplit : c :: s = used ++ rest := hsplit
          obtain ⟨htake, -⟩ := hbehind hsplit hused
          simp only [htake]
          rw [hsplit] at hrule ⊢
          exact .failed hused hrule
        | @found used rest a hsplit hused _ =>
          have hsplit : c :: s = used ++ rest := hsplit
          obtain ⟨htake, hscan⟩ := hbehind hsplit hused
          simp only [htake]
          rw [hsplit] at hrule ⊢
          exact .found hused hrule hscan

/-- The pieces of a scan are those of the text. -/
theorem Scan.eq_pieces (h : Scan rule previous line s ps) : ps = piecesFrom rule 0 previous line s := by
  induction h with
  | nil => rfl
  | silent hrule _ ih => rw [piecesFrom, hrule, ih]
  | @declined previous line t s ps ht hrule _ ih =>
    obtain ⟨c, whole, hwhole⟩ := List.exists_cons_of_ne_nil (List.append_ne_nil_of_left_ne_nil ht s)
    obtain ⟨htake, hskip⟩ := piecesFrom_behind rule line ht hwhole.symm
    rw [hwhole] at hrule ⊢
    rw [piecesFrom, hrule]
    simp only
    rw [htake, hskip, ih]
  | @found previous line t s a ps ht hrule _ ih =>
    obtain ⟨c, whole, hwhole⟩ := List.exists_cons_of_ne_nil (List.append_ne_nil_of_left_ne_nil ht s)
    obtain ⟨htake, hskip⟩ := piecesFrom_behind rule line ht hwhole.symm
    rw [hwhole] at hrule ⊢
    rw [piecesFrom, hrule]
    simp only
    rw [htake, hskip, ih]
  | @failed previous line t s e ht hrule =>
    obtain ⟨c, whole, hwhole⟩ := List.exists_cons_of_ne_nil (List.append_ne_nil_of_left_ne_nil ht s)
    obtain ⟨htake, -⟩ := piecesFrom_behind rule line ht hwhole.symm
    rw [hwhole] at hrule ⊢
    rw [piecesFrom, hrule]
    simp only
    rw [htake]

/-- The pieces of a text begin with text on its line, or with what the rule says at its head. -/
theorem Scan.first (h : Scan rule previous line s ps) :
    (ps = [] → s = []) ∧ (∀ l t qs, ps = .plain l t :: qs → l = line) ∧
      ∀ l t qs, ps = .declined l t :: qs → ∃ n, rule ⟨previous, line, s⟩ = some (.declined n) := by
  cases h with
  | nil => exact ⟨fun _ => rfl, nofun, nofun⟩
  | @silent _ _ c s ps _ _ =>
    unfold glue
    split <;>
    · refine ⟨nofun, fun l t qs heq => ?_, nofun⟩
      obtain ⟨hplain, -⟩ := List.cons.inj heq
      exact (Piece.plain.inj hplain).1.symm
  | declined _ hrule => exact ⟨nofun, nofun, fun _ _ _ _ => ⟨_, hrule⟩⟩
  | found => exact ⟨nofun, nofun, nofun⟩
  | failed => exact ⟨nofun, nofun, nofun⟩

theorem Scan.of_nil (h : Scan rule previous line [] ps) : ps = [] := by
  generalize hs : ([] : Text) = s at h
  cases h with
  | nil => rfl
  | silent => cases hs
  | declined ht => exact absurd (List.append_eq_nil_iff.mp hs.symm).1 ht
  | found ht => exact absurd (List.append_eq_nil_iff.mp hs.symm).1 ht
  | failed ht => exact absurd (List.append_eq_nil_iff.mp hs.symm).1 ht

end Stencil.Markup
