import Stencil.Markup.Structure
import Stencil.Proofs.Markup.Cover

/-!
# Pieces tile a text

A rule that only ever takes what stands at a place cuts a text into pieces that lie side by side, each on the line that it
starts on, up to the first failure.

* `Verdict.Fits` — a verdict is about a stretch that begins at the place.
* `Rule.Reads` — all verdicts of a rule fit, and what is found in a stretch is as said.
* `Tiles` — pieces lie side by side and make up a text.
* `Rule.Reads.tiles` — the pieces of a text tile it; joining declined markup with the text around it leaves a tiling.
-/

namespace Stencil.Markup

variable {α β : Type} {Q : Int → Text → α → Prop} {line : Int} {s t : Text} {ps : List (Piece α)}

/-! ## Rules that take what stands at a place -/

/-- A verdict is about a stretch that begins at a place and is not empty; what it finds there, if anything, is as said. -/
inductive Verdict.Fits (Q : Int → Text → α → Prop) (p : Place) : Verdict α → Prop
  | declined {used rest : Text} : p.rest = used ++ rest → used ≠ [] → Fits Q p (.declined used.length)
  | failed {used rest : Text} {e : Error} : p.rest = used ++ rest → used ≠ [] →
    Fits Q p (.accepted used.length (.error e))
  | found {used rest : Text} {a : α} : p.rest = used ++ rest → used ≠ [] → Q p.line used a →
    Fits Q p (.accepted used.length (.ok a))

/-- A rule takes what stands at a place, and what it finds in it is as said. -/
def Rule.Reads (Q : Int → Text → α → Prop) (rule : Rule α) : Prop := ∀ p v, rule p = some v → v.Fits Q p

/-- The stretch up to a text behind it. -/
theorem length_sub_of_append {used rest : Text} (h : s = used ++ rest) : s.length - rest.length = used.length := by
  rw [h, List.length_append]
  omega

theorem fits_declined {p : Place} {used rest : Text} (h : p.rest = used ++ rest) (hused : used ≠ []) :
    (Verdict.declined (p.rest.length - rest.length)).Fits Q p := by
  rw [length_sub_of_append h]
  exact .declined h hused

theorem fits_accepted {p : Place} {used rest : Text} {found : Except Error α} (h : p.rest = used ++ rest)
    (hused : used ≠ []) (hfound : ∀ a, found = .ok a → Q p.line used a) :
    (Verdict.accepted (p.rest.length - rest.length) found).Fits Q p := by
  rw [length_sub_of_append h]
  cases found with
  | error e => exact .failed h hused
  | ok a => exact .found h hused (hfound a rfl)

theorem fits_accept {template directive : Text} {p : Place} {used rest : Text} {found : Except Raised α}
    (h : p.rest = used ++ rest) (hused : used ≠ []) (hfound : ∀ a, found = .ok a → Q p.line used a) :
    (p.accept template directive rest found).Fits Q p := by
  refine fits_accepted h hused fun a ha => hfound a ?_
  cases found with
  | error e => cases ha
  | ok b => exact congrArg Except.ok (Except.ok.inj ha)

/-- What is found at a place is what was made of the markup there. -/
theorem accept_eq_ok {template directive rest : Text} {p : Place} {found : Except Raised α} {n : Nat}
    {a : α} (h : p.accept template directive rest found = .accepted n (.ok a)) : found = .ok a := by
  cases found with
  | error e => cases h
  | ok b =>
    have hfound : Except.ok b = (Except.ok a : Except Error α) := (Verdict.accepted.inj h).2
    rw [Except.ok.inj hfound]

/-- What a rule finds may be made something else of. -/
theorem Rule.Reads.map {rule : Rule α} {Q' : Int → Text → β → Prop} {f : α → β} (h : rule.Reads Q)
    (hf : ∀ line s a, Q line s a → Q' line s (f a)) : (rule.map f).Reads Q' := by
  intro p v hv
  unfold Rule.map at hv
  cases hr : rule p with
  | none =>
    rw [hr] at hv
    cases hv
  | some w =>
    rw [hr] at hv
    cases h p w hr with
    | declined hrest hused =>
      obtain rfl := Option.some.inj hv
      exact .declined hrest hused
    | failed hrest hused =>
      obtain rfl := Option.some.inj hv
      exact .failed hrest hused
    | found hrest hused hQ =>
      obtain rfl := Option.some.inj hv
      exact .found hrest hused (hf _ _ _ hQ)

/-! ## Tilings -/

/-- Pieces lie side by side and make up a text that starts on a line, each on its own line; behind a failure nothing is
read any more. -/
inductive Tiles (Q : Int → Text → α → Prop) : Int → Text → List (Piece α) → Prop
  | nil {line : Int} : Tiles Q line [] []
  | plain {line : Int} {t s : Text} {ps : List (Piece α)} : t ≠ [] → Tiles Q (line + t.newlines) s ps →
    Tiles Q line (t ++ s) (.plain line t :: ps)
  | declined {line : Int} {t s : Text} {ps : List (Piece α)} : t ≠ [] → Tiles Q (line + t.newlines) s ps →
    Tiles Q line (t ++ s) (.declined line t :: ps)
  | markup {line : Int} {t s : Text} {ps : List (Piece α)} {a : α} : t ≠ [] → Q line t a →
    Tiles Q (line + t.newlines) s ps → Tiles Q line (t ++ s) (.markup line t (.ok a) :: ps)
  | failed {line : Int} {t s : Text} {e : Error} : Tiles Q line s [.markup line t (.error e)]

theorem lineAfter_eq (c : Char) (line : Int) : lineAfter c line = line + Text.newlines [c] := by
  unfold lineAfter
  split
  case isTrue h =>
    subst h
    rfl
  case isFalse h => simp [Text.newlines, h]

/-- The character before what stands behind a text. -/
theorem getLast?_or_cons (c : Char) (t : Text) (previous : Option Char) :
    (c :: t).getLast?.or previous = t.getLast?.or (some c) := by
  rw [List.getLast?_cons]
  cases t.getLast? <;> rfl

namespace Tiles

/-- A character in front of a tiling. -/
theorem glue {c : Char} (h : Tiles Q (lineAfter c line) s ps) : Tiles Q line (c :: s) (glue line c ps) := by
  rw [lineAfter_eq] at h
  cases h with
  | plain ht h =>
    refine .plain (t := c :: _) (List.cons_ne_nil _ _) ?_
    rwa [← List.singleton_append, line_append]
  | nil => exact .plain (t := [c]) (List.cons_ne_nil _ _) .nil
  | declined ht h => exact .plain (t := [c]) (List.cons_ne_nil _ _) (.declined ht h)
  | markup ht hQ h => exact .plain (t := [c]) (List.cons_ne_nil _ _) (.markup ht hQ h)
  | failed => exact .plain (t := [c]) (List.cons_ne_nil _ _) .failed

/-- A text in front of a tiling. -/
theorem join (ht : t ≠ []) (h : Tiles Q (line + t.newlines) s ps) : Tiles Q line (t ++ s) (joinPlain line t ps) := by
  cases h with
  | plain hu h =>
    rw [← List.append_assoc]
    refine .plain (List.append_ne_nil_of_left_ne_nil ht _) ?_
    rwa [line_append]
  | nil => exact .plain ht .nil
  | declined hu h => exact .plain ht (.declined hu h)
  | markup hu hQ h => exact .plain ht (.markup hu hQ h)
  | failed => exact .plain ht .failed

/-- Declined markup may be joined with the text on both sides of it. -/
theorem absorbDeclined (h : Tiles Q line s ps) : Tiles Q line s (absorbDeclined ps) := by
  induction h with
  | nil => exact .nil
  | plain ht _ ih => exact join ht ih
  | declined ht _ ih => exact join ht ih
  | markup ht hQ _ ih => exact .markup ht hQ ih
  | failed => exact .failed

/-- Declined markup may be joined with the text behind it. -/
theorem absorbAfterDeclined (h : Tiles Q line s ps) : Tiles Q line s (absorbAfterDeclined ps) := by
  fun_induction Markup.absorbAfterDeclined ps generalizing line s with
  | case1 _ t line' u ps ih =>
    cases h with
    | declined ht h =>
      cases h with
      | plain hu h =>
        rw [← List.append_assoc]
        refine .plain (List.append_ne_nil_of_left_ne_nil ht _) (ih ?_)
        rwa [line_append]
  | case2 _ t ps _ ih =>
    cases h with
    | declined ht h => exact .plain ht (ih h)
  | case3 p ps _ _ ih =>
    cases h with
    | plain ht h => exact .plain ht (ih h)
    | declined ht h => exact .declined ht (ih h)
    | markup ht hQ h => exact .markup ht hQ (ih h)
    | failed => exact .failed
  | case4 => exact h

end Tiles

namespace Rule.Reads

variable {rule : Rule α}

/-- Behind `skip` characters that were taken before, the pieces of a text tile the rest of it. -/
theorem tilesFrom (h : rule.Reads Q) (skip : Nat) (previous : Option Char) (line : Int) (s : Text)
    (hskip : skip ≤ s.length) :
    Tiles Q (line + Text.newlines (s.take skip)) (s.drop skip) (piecesFrom rule skip previous line s) := by
  induction s generalizing skip previous line with
  | nil =>
    obtain rfl : skip = 0 := by simpa using hskip
    simpa [piecesFrom] using Tiles.nil (Q := Q)
  | cons c s ih =>
    cases skip with
    | succ skip =>
      rw [List.take_succ_cons, ← List.singleton_append, line_append, ← lineAfter_eq]
      exact ih skip (some c) _ (by simpa using hskip)
    | zero =>
      -- what a verdict takes begins with `c`, so the rest of it is skipped behind `c`
      have hbehind : ∀ used rest : Text, c :: s = used ++ rest → used ≠ [] →
          Tiles Q (line + used.newlines) rest (piecesFrom rule (used.length - 1) (some c) (lineAfter c line) s) := by
        intro used rest hsplit hused
        obtain ⟨d, used, rfl⟩ := List.exists_cons_of_ne_nil hused
        rw [List.cons_append, List.cons.injEq] at hsplit
        obtain ⟨rfl, rfl⟩ := hsplit
        have htiles := ih used.length (some c) (lineAfter c line) (by simp)
        rw [List.take_left, List.drop_left] at htiles
        have hline : line + Text.newlines (c :: used) = lineAfter c line + Text.newlines used := by
          rw [lineAfter_eq]
          exact line_append line [c] used
        rwa [hline]
      rw [List.take_zero, List.drop_zero, newlines_nil, Int.natCast_zero, Int.add_zero]
      cases hrule : rule ⟨previous, line, c :: s⟩ with
      | none =>
        have htiles := ih 0 (some c) (lineAfter c line) (Nat.zero_le _)
        simp only [piecesFrom, hrule]
        exact Tiles.glue (by simpa using htiles)
      | some v =>
        cases h _ _ hrule with
        | @declined used rest hsplit hused =>
          have hsplit : c :: s = used ++ rest := hsplit
          have htake : (c :: s).take used.length = used := by rw [hsplit, List.take_left]
          simp only [piecesFrom, hrule, htake]
          rw [hsplit]
          exact .declined hused (hbehind used rest hsplit hused)
        | failed hsplit hused =>
          simp only [piecesFrom, hrule]
          exact .failed
        | @found used rest a hsplit hused hQ =>
          have hsplit : c :: s = used ++ rest := hsplit
          have htake : (c :: s).take used.length = used := by rw [hsplit, List.take_left]
          simp only [piecesFrom, hrule, htake]
          rw [hsplit]
          exact .markup hused hQ (hbehind used rest hsplit hused)

/-- **Tilings.**  The pieces of a text tile it. -/
theorem tiles (h : rule.Reads Q) (line : Int) (s : Text) : Tiles Q line s (pieces rule line s) := by
  simpa [pieces] using h.tilesFrom 0 none line s (Nat.zero_le _)

end Rule.Reads

end Stencil.Markup
