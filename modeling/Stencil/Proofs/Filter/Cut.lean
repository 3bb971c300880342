import Stencil.Proofs.Argument.Parts
import Stencil.Proofs.Filter.Token

/-!
# Cutting before or behind protecting

A text whose literals are all closed has the same literals for the reader of arguments, which stops at the first quote
that no backslash escapes, and for the protection of literals, which looks for the last resort behind it.  Its protected
form holds no quote, and is cut where the text itself is cut.

* `Closed` — every literal that a reader opens is closed.
* `closed_inside`, `literalEnd?_body` — such a literal is the one that is protected.
* `Piece.Whole`, `whole_piecesFrom` — the pieces of a closed text: no plain one is a quote.
* `Cuts`, `cutAlike_whole` — the text and its protected form are cut at the same pieces.
* `segments_eq_split` — so the segments are the parts of the text itself, unless a token can be mistaken.
-/

namespace Stencil

namespace Argument

variable {quote c : Char} {separator : Char} {depth : Nat} {s t body rest : Text}

/-- What a character does to where a reader stands. -/
def Mode.step : Mode → Char → Mode
  | .outside, c => if isQuote c then .inside c else .outside
  | .inside quote, c => Mode.next quote c
  | .escaped quote, _ => .inside quote

/-- Every literal that a reader opens is closed. -/
def Closed (s : Text) : Prop := s.foldl Mode.step .outside = .outside

instance (s : Text) : Decidable (Closed s) := inferInstanceAs (Decidable (_ = _))

/-- A literal that is closed ends at the first quote of its kind that is not escaped, and what follows is closed. -/
theorem closed_inside (s : Text) :
    (s.foldl Mode.step (.inside quote) = .outside →
      ∃ body rest, s = body ++ quote :: rest ∧ LiteralBody quote body ∧ Closed rest) ∧
    (s.foldl Mode.step (.escaped quote) = .outside →
      ∃ c body rest, s = c :: body ++ quote :: rest ∧ LiteralBody quote body ∧ Closed rest) := by
  induction s with
  | nil => exact ⟨nofun, nofun⟩
  | cons c s ih =>
    obtain ⟨ihInside, ihEscaped⟩ := ih
    refine ⟨fun h => ?_, fun h => ?_⟩
    · rw [List.foldl_cons, Mode.step, Mode.next] at h
      by_cases hslash : c = '\\'
      · rw [if_pos hslash] at h
        obtain ⟨d, body, rest, rfl, hbody, hrest⟩ := ihEscaped h
        exact ⟨'\\' :: d :: body, rest, by rw [hslash]; rfl, .escaped hbody, hrest⟩
      · by_cases hsame : c = quote
        · rw [if_neg hslash, if_pos hsame] at h
          exact ⟨[], s, by rw [hsame]; rfl, .nil, h⟩
        · rw [if_neg hslash, if_neg hsame] at h
          obtain ⟨body, rest, rfl, hbody, hrest⟩ := ihInside h
          exact ⟨c :: body, rest, rfl, .plain hsame hslash hbody, hrest⟩
    · rw [List.foldl_cons, Mode.step] at h
      obtain ⟨body, rest, rfl, hbody, hrest⟩ := ihInside h
      exact ⟨c, body, rest, rfl, hbody, hrest⟩

theorem Closed.literal (hquote : isQuote c) (h : Closed (c :: s)) :
    ∃ body rest, s = body ++ c :: rest ∧ LiteralBody c body ∧ Closed rest := by
  rw [Closed, List.foldl_cons, Mode.step, if_pos hquote] at h
  exact (closed_inside s).1 h

theorem Closed.plain (hquote : ¬ isQuote c) (h : Closed (c :: s)) : Closed s := by
  rwa [Closed, List.foldl_cons, Mode.step, if_neg hquote] at h

/-- Nothing is cut among characters that are no quotes, brackets or separators. -/
theorem splitFrom_word (h : ∀ c ∈ t, isQuote c = false ∧ closerOf? c = none ∧ isCloser c = false ∧ c ≠ separator) :
    splitFrom separator .outside depth (t ++ s) = t.foldr glue (splitFrom separator .outside depth s) := by
  induction t with
  | nil => rfl
  | cons c t ih =>
    obtain ⟨hquote, hopens, hcloses, hother⟩ := h c List.mem_cons_self
    rw [List.cons_append, splitFrom_plain hquote hopens hcloses (fun hsame => hother hsame.1),
      ih fun d hd => h d (List.mem_cons_of_mem _ hd)]
    rfl

end Argument

namespace Filter

open Argument (Closed LiteralBody isQuote isCloser closerOf? glue split splitFrom)

variable {quote c : Char} {n skip depth : Nat} {s body rest : Text} {pieces first part : List Piece}
  {parts : List (List Piece)}

/-! ## The pieces of a closed text -/

theorem literalEnd?_cons (h : c ≠ '\\') :
    literalEnd? quote (c :: s) =
      if c = quote then some ([c], s) else (literalEnd? quote s).map fun (body, rest) => (c :: body, rest) := by
  rw [literalEnd?]
  exact fun d s hslash _ => h hslash

/-- The literal that is protected is the one that a reader goes through. -/
theorem literalEnd?_body (hslash : quote ≠ '\\') (h : LiteralBody quote body) (rest : Text) :
    literalEnd? quote (body ++ quote :: rest) = some (body ++ [quote], rest) := by
  induction h with
  | nil => exact (literalEnd?_cons hslash).trans (if_pos rfl)
  | @escaped c s _ ih =>
    have hmem : quote ∈ s ++ quote :: rest := List.mem_append_right _ List.mem_cons_self
    rw [List.cons_append, List.cons_append, literalEnd?, if_pos hmem, ih]
    rfl
  | plain hother hplain _ ih =>
    rw [List.cons_append, literalEnd?_cons hplain, if_neg hother, ih]
    rfl

/-- A character other than a quote, or a literal as a reader goes through it. -/
def Piece.Whole : Piece → Prop
  | .plain c => isQuote c = false
  | .literal _ text => ∃ quote body, isQuote quote ∧ LiteralBody quote body ∧ text = quote :: body ++ [quote]

theorem whole_piecesFrom (h : Closed (s.drop skip)) : ∀ piece ∈ piecesFrom n skip s, piece.Whole := by
  fun_induction piecesFrom n skip s with
  | case1 => exact List.forall_mem_nil _
  | case2 n skip c s ih => exact ih h
  | case3 n c s body rest hfound ih =>
    obtain ⟨hquote, hend⟩ := found_eq_some hfound
    obtain ⟨body', rest', rfl, hbody, hrest⟩ := Closed.literal hquote h
    rw [literalEnd?_body (Argument.ne_backslash_of_isQuote hquote) hbody] at hend
    obtain ⟨rfl, rfl⟩ := Prod.mk.inj (Option.some.inj hend)
    have hdrop : (body' ++ c :: rest').drop (body' ++ [c]).length = rest' := by
      rw [List.append_cons body' c rest', List.drop_left]
    exact List.forall_mem_cons.mpr ⟨⟨c, body', hquote, hbody, rfl⟩, ih (hdrop.symm ▸ hrest)⟩
  | case4 n c s hnone ih =>
    have hplain : ¬ isQuote c := by
      intro hquote
      obtain ⟨body', rest', rfl, hbody, -⟩ := Closed.literal hquote h
      rw [if_pos hquote, literalEnd?_body (Argument.ne_backslash_of_isQuote hquote) hbody] at hnone
      cases hnone
    exact List.forall_mem_cons.mpr ⟨Bool.eq_false_iff.mpr hplain, ih (Closed.plain hplain h)⟩

/-! ## Cutting pieces -/

/-- Pieces cut at some of the separators among them. -/
inductive Cuts : List Piece → List (List Piece) → Prop
  | whole (pieces : List Piece) : Cuts pieces [pieces]
  | cut {first rest : List Piece} {parts : List (List Piece)} : Cuts rest parts →
    Cuts (first ++ .plain '|' :: rest) (first :: parts)

theorem Cuts.cons (piece : Piece) (h : Cuts pieces (first :: parts)) : Cuts (piece :: pieces) ((piece :: first) :: parts) := by
  cases h with
  | whole => exact .whole _
  | @cut _ rest _ h =>
    rw [← List.cons_append]
    exact .cut h

theorem Cuts.exists_cons (h : Cuts pieces parts) : ∃ first more, parts = first :: more := by
  cases h with
  | whole => exact ⟨_, [], rfl⟩
  | cut h => exact ⟨_, _, rfl⟩

theorem Cuts.subset (h : Cuts pieces parts) (hpart : part ∈ parts) : part ⊆ pieces := by
  induction h with
  | whole pieces =>
    obtain rfl := List.mem_singleton.mp hpart
    exact fun _ hpiece => hpiece
  | cut _ ih =>
    rcases List.mem_cons.mp hpart with rfl | hpart
    · exact List.subset_append_left _ _
    · exact fun piece hpiece => List.mem_append_right _ (List.mem_cons_of_mem _ (ih hpart hpiece))

theorem plain_of_mem_token (h : c ∈ token n) :
    isQuote c = false ∧ closerOf? c = none ∧ isCloser c = false ∧ c ≠ '|' := by
  have hplain : (!isQuote c && (closerOf? c).isNone && !isCloser c && c != '|') = true :=
    of_mem_token (p := fun c => !isQuote c && (closerOf? c).isNone && !isCloser c && c != '|') (by decide) (by decide) h
  simpa [and_assoc] using hplain

theorem Cuts.marked (h : Cuts pieces parts) (hmarked : Marked n pieces) : ∀ part ∈ parts, Marked n part := by
  induction h with
  | whole pieces => exact List.forall_mem_singleton.mpr hmarked
  | @cut first rest parts _ ih =>
    have hshown : shownAt 0 (first ++ .plain '|' :: rest) = shownAt 0 first ++ '|' :: shownAt 0 rest := by
      simp [shownAt, Piece.shown]
    have hplaced : placed n (first ++ .plain '|' :: rest) = placed n first + placed n rest := by
      simp [placed, List.countP_append, Piece.isLiteral]
    have hbar : '|' ∉ token n := fun hmem => (plain_of_mem_token hmem).2.2.2 rfl
    unfold Marked at hmarked ih ⊢
    rw [hshown, hplaced, Text.occurrences_append_of_last (token_ne_nil n) hbar] at hmarked
    have hfirst := placed_le (Nat.zero_le n) first
    have hrest := placed_le (Nat.zero_le n) rest
    exact List.forall_mem_cons.mpr ⟨by omega, ih (by omega)⟩

/-- Pieces and what is shown of them are cut at the same separators, inside a given number of brackets. -/
def CutAlike (depth : Nat) (pieces : List Piece) : Prop :=
  ∃ parts, Cuts pieces parts ∧ splitFrom '|' .outside depth (sourceOf pieces) = parts.map sourceOf ∧
    splitFrom '|' .outside depth (shownAt 0 pieces) = parts.map (shownAt 0)

/-- A piece in which nothing is cut, as it was written and as it is shown, stays with what follows. -/
theorem CutAlike.cons {depth' : Nat} {piece : Piece}
    (hsource : ∀ s, splitFrom '|' .outside depth (piece.source ++ s) =
      piece.source.foldr glue (splitFrom '|' .outside depth' s))
    (hshown : ∀ s, splitFrom '|' .outside depth (piece.shown 0 ++ s) =
      (piece.shown 0).foldr glue (splitFrom '|' .outside depth' s))
    (h : CutAlike depth' pieces) : CutAlike depth (piece :: pieces) := by
  obtain ⟨parts, hcuts, hsplit, hsplit'⟩ := h
  obtain ⟨first, more, rfl⟩ := hcuts.exists_cons
  refine ⟨(piece :: first) :: more, hcuts.cons piece, ?_, ?_⟩
  · have hwhole : sourceOf (piece :: pieces) = piece.source ++ sourceOf pieces := rfl
    rw [hwhole, hsource, hsplit, List.map_cons, Argument.foldr_glue]
    rfl
  · rw [shownAt_cons, hshown, hsplit', List.map_cons, Argument.foldr_glue]
    rfl

theorem CutAlike.plain {depth' : Nat}
    (hstep : ∀ s, splitFrom '|' .outside depth (c :: s) = glue c (splitFrom '|' .outside depth' s))
    (h : CutAlike depth' pieces) : CutAlike depth (.plain c :: pieces) := .cons hstep hstep h

/-- What follows begins with a separator, or with none in either form. -/
theorem head_separator (hwhole : ∀ piece ∈ pieces, piece.Whole) :
    (∃ rest, pieces = .plain '|' :: rest) ∨
      (sourceOf pieces).head? ≠ some '|' ∧ (shownAt 0 pieces).head? ≠ some '|' := by
  cases pieces with
  | nil => exact .inr ⟨nofun, nofun⟩
  | cons piece pieces =>
    cases piece with
    | plain c =>
      by_cases hc : c = '|'
      · exact .inl ⟨pieces, by rw [hc]⟩
      · exact .inr ⟨fun h => hc (Option.some.inj h), fun h => hc (Option.some.inj h)⟩
    | literal n text =>
      obtain ⟨quote, body, hquote, -, rfl⟩ := hwhole _ List.mem_cons_self
      refine .inr ⟨fun h => ?_, fun h => ?_⟩
      · obtain rfl : quote = '|' := Option.some.inj h
        exact absurd hquote (by decide)
      · rw [shownAt_cons, shown_zero, token_eq] at h
        exact absurd (Option.some.inj h) (by decide)

/-- The pieces of a closed text are cut alike. -/
theorem cutAlike_whole (hwhole : ∀ piece ∈ pieces, piece.Whole) (depth : Nat) : CutAlike depth pieces := by
  -- on the length, since a doubled separator takes two pieces at once
  induction hlength : pieces.length using Nat.strongRecOn generalizing pieces depth with
  | _ length ih =>
    subst hlength
    cases pieces with
    | nil => exact ⟨[[]], .whole [], by rw [sourceOf]; rfl, by rw [shownAt]; rfl⟩
    | cons piece pieces =>
      obtain ⟨hpiece, hrest⟩ := List.forall_mem_cons.mp hwhole
      have hlater : ∀ depth, CutAlike depth pieces := fun depth => ih _ (by simp) hrest depth rfl
      cases piece with
      | literal n text =>
        obtain ⟨quote, body, hquote, hbody, rfl⟩ := hpiece
        refine .cons (fun s => ?_) (fun s => ?_) (hlater depth)
        · have hliteral : splitFrom '|' .outside depth (quote :: body ++ quote :: s) = _ :=
            Argument.splitFrom_literal hquote hbody
          simpa [Piece.source] using hliteral
        · rw [shown_zero]
          exact Argument.splitFrom_word fun c => plain_of_mem_token
      | plain c =>
        have hquote : isQuote c = false := hpiece
        cases hopens : closerOf? c with
        | some closer => exact .plain (fun s => Argument.splitFrom_opener hopens) (hlater (depth + 1))
        | none =>
          cases hcloses : isCloser c with
          | true => exact .plain (fun s => Argument.splitFrom_closer hquote hopens hcloses) (hlater (depth - 1))
          | false =>
            by_cases hcut : c = '|' ∧ depth = 0
            · obtain ⟨rfl, rfl⟩ := hcut
              rcases head_separator hrest with ⟨rest, rfl⟩ | ⟨hsource, hshown⟩
              · obtain ⟨parts, hcuts, hsplit, hsplit'⟩ :=
                  ih rest.length (by simp only [List.length_cons]; omega) (List.forall_mem_cons.mp hrest).2 0 rfl
                obtain ⟨first, more, rfl⟩ := hcuts.exists_cons
                refine ⟨(.plain '|' :: .plain '|' :: first) :: more, (hcuts.cons _).cons _, ?_, ?_⟩
                · have hdoubled := Argument.splitFrom_doubled (sourceOf rest)
                  rw [hsplit] at hdoubled
                  exact hdoubled
                · have hdoubled := Argument.splitFrom_doubled (shownAt 0 rest)
                  rw [hsplit'] at hdoubled
                  exact hdoubled
              · obtain ⟨parts, hcuts, hsplit, hsplit'⟩ := hlater 0
                have hwhole : Cuts ([] ++ .plain '|' :: pieces) ([] :: parts) := .cut hcuts
                refine ⟨[] :: parts, hwhole, ?_, ?_⟩
                · have hcut := Argument.splitFrom_cut hquote hopens hcloses fun h => hsource h.2
                  exact hcut.trans (congrArg _ hsplit)
                · have hcut := Argument.splitFrom_cut hquote hopens hcloses fun h => hshown h.2
                  exact hcut.trans (congrArg _ hsplit')
            · exact .plain (fun s => Argument.splitFrom_plain hquote hopens hcloses hcut) (hlater depth)

/-- **Segments.**  The segments of a text whose literals are closed are its parts without the blanks around them, if the
tokens of the literals are unambiguous; and so they are unless the text holds the beginning of a token, or a quote in it
stands in front of what a token goes on with. -/
theorem segments_eq_split (s : Text) :
    (Closed s → Unambiguous s → segments s = (split '|' s).map Text.strip) ∧
    (Text.contains "__vellum_lit_" s = false →
      (∀ quote, isQuote quote → Text.contains (quote :: "vellum_lit_".toList) s = false ∧
        Text.contains (quote :: "_vellum_lit_".toList) s = false) →
      Unambiguous s) := by
  refine ⟨fun hclosed hunambiguous => ?_, unambiguous_of_unreserved⟩
  have hwhole : ∀ piece ∈ piecesFrom 0 0 s, piece.Whole := whole_piecesFrom hclosed
  obtain ⟨parts, hcuts, hsource, hshown⟩ := cutAlike_whole hwhole 0
  rw [sourceOf_piecesFrom, List.drop_zero] at hsource
  have hrestored : ∀ part ∈ parts, restore (tableOf (piecesFrom 0 0 s)) (shownAt 0 part) = sourceOf part :=
    fun part hpart => restore_part (numbered_piecesFrom 0 0 s) (hcuts.subset hpart)
      (fun n text hmem => hcuts.marked (hunambiguous.marked hmem) part hpart) hunambiguous.apart
  unfold segments protectLiterals split
  rw [protectFrom_eq]
  dsimp only
  rw [hsource, hshown, List.map_map, List.map_map]
  exact List.map_congr_left fun part hpart => congrArg Text.strip (hrestored part hpart)

/-- A separator in a literal, one in a bracket, a doubled one and one that cuts. -/
theorem segments_eq_split_call :
    Closed "'a|b' || f(x | y) | upper" ∧ Unambiguous "'a|b' || f(x | y) | upper" ∧
    segments "'a|b' || f(x | y) | upper" = ["'a|b' || f(x | y)".toList, "upper".toList] := by
  have hclosed : Closed "'a|b' || f(x | y) | upper" := by decide +kernel
  have hunambiguous : Unambiguous "'a|b' || f(x | y) | upper" := by
    refine (segments_eq_split _).2 (by decide +kernel) fun quote hquote => ?_
    obtain (rfl | rfl) | rfl : (quote = '\'' ∨ quote = '"') ∨ quote = '`' := by
      simpa [isQuote] using hquote
    all_goals decide +kernel
  have hparts : (split '|' "'a|b' || f(x | y) | upper").map Text.strip =
      ["'a|b' || f(x | y)".toList, "upper".toList] := by cbv
  exact ⟨hclosed, hunambiguous, ((segments_eq_split _).1 hclosed hunambiguous).trans hparts⟩

/-- A literal with the rest of a token behind it: the end of its own token and that rest are taken for another literal. -/
theorem segments_spliced :
    ¬ ∀ s : Text, Closed s → Text.contains "__vellum_lit_" s = false → segments s = (split '|' s).map Text.strip := by
  intro h
  have hsame := h "'a' 'b'vellum_lit_0__" (by decide +kernel) (by decide +kernel)
  have hsegments : segments "'a' 'b'vellum_lit_0__" = ["'a' __vellum_lit_1'a'".toList] := by decide +kernel
  have hparts : (split '|' "'a' 'b'vellum_lit_0__").map Text.strip = ["'a' 'b'vellum_lit_0__".toList] := by cbv
  rw [hsegments, hparts] at hsame
  exact absurd hsame (by decide)

end Filter
end Stencil
