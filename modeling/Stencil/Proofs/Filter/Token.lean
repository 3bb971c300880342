import Stencil.Proofs.Filter.Restore

/-!
# Texts in which no token can be mistaken

A token ends with the two characters it begins with, so the end of one and a text behind it may make up another one.  That
needs a text behind a literal which begins as a token goes on; everywhere else the whole beginning of a token is needed.

* `mark`, `stem` — what every token goes on with behind its two underscores; a token without the underscores around it.
* `occurrences_token` — where another token occurs in a token and what follows it.
* `marked_of_unreserved`, `unambiguous_of_unreserved` — without such texts the tokens are unambiguous.
* `restore_protectLiterals` — literals are put back unless a token can be mistaken.
-/

namespace Stencil.Filter

variable {c : Char} {k n : Nat} {s : Text} {inner rest : Text} {pieces : List Piece}

/-! ## What a token is made of -/

/-- What every token goes on with behind its two underscores. -/
def mark : Text := ['v', 'e', 'l', 'l', 'u', 'm', '_', 'l', 'i', 't', '_']

/-- A token without the underscores on both sides. -/
def stem (n : Nat) : Text := mark ++ Text.ofNat n

theorem token_eq (n : Nat) : token n = '_' :: '_' :: (stem n ++ ['_', '_']) := by
  unfold token stem mark
  rw [List.append_assoc, List.append_assoc]
  rfl

theorem isDigit_of_mem_ofNat (h : c ∈ Text.ofNat n) : c.isDigit := Nat.isDigit_of_mem_toDigits (by decide) (by decide) h

theorem ofNat_injective (h : Text.ofNat k = Text.ofNat n) : k = n := by
  have hvalue := congrArg (fun digits => Nat.ofDigitChars 10 digits 0) h
  simpa [Text.ofNat] using hvalue

/-- What begins with a token has its number. -/
theorem eq_of_prefix (h : token k <+: token n ++ rest) : k = n := by
  have hdigits : ∀ (n : Nat) (s : Text), (Text.ofNat n ++ '_' :: s).takeWhile Char.isDigit = Text.ofNat n := by
    intro n s
    have hstop : ('_' :: s).takeWhile Char.isDigit = [] := List.takeWhile_cons_of_neg (by decide)
    rw [List.takeWhile_append_of_pos fun c => isDigit_of_mem_ofNat, hstop, List.append_nil]
  obtain ⟨behind, h⟩ := h
  rw [token_eq, token_eq] at h
  simp only [stem, mark, List.cons_append, List.append_assoc, List.cons.injEq, true_and, List.nil_append] at h
  have htaken := congrArg (List.takeWhile Char.isDigit) h
  rw [hdigits, hdigits] at htaken
  exact ofNat_injective htaken

/-! ## Where a token occurs -/

/-- A token begins with two underscores. -/
theorem prefix_underscores {d : Char} (h : token k <+: c :: d :: s) : c = '_' ∧ d = '_' := by
  rw [token_eq, List.cons_prefix_cons, List.cons_prefix_cons] at h
  exact ⟨h.1.symm, h.2.1.symm⟩

theorem occurrences_single {d : Char} (hd : d ≠ '_') :
    Text.occurrences (token k) (c :: d :: s) = Text.occurrences (token k) (d :: s) := by
  rw [Text.occurrences_cons, if_neg fun h => hd (prefix_underscores h).2, Nat.zero_add]

/-- No token begins with a character other than an underscore. -/
theorem occurrences_other (h : '_' ∉ inner) (s : Text) :
    Text.occurrences (token k) (inner ++ s) = Text.occurrences (token k) s := by
  induction inner with
  | nil => rfl
  | cons c inner ih =>
    have hnot : ¬ token k <+: c :: (inner ++ s) := by
      rw [token_eq, List.cons_prefix_cons]
      exact fun hbegins => h (hbegins.1 ▸ List.mem_cons_self)
    rw [List.cons_append, Text.occurrences_cons, if_neg hnot, Nat.zero_add]
    exact ih fun hmem => h (List.mem_cons_of_mem _ hmem)

/-- A lone underscore and the characters behind it begin no token. -/
theorem occurrences_lone {d : Char} (h : '_' ∉ d :: inner) (s : Text) :
    Text.occurrences (token k) ('_' :: (d :: inner ++ s)) = Text.occurrences (token k) s :=
  (occurrences_single fun hd => h (hd ▸ List.mem_cons_self)).trans (occurrences_other h s)

/-- In a token and what follows it, a token occurs at the beginning, at the end, and behind it only. -/
theorem occurrences_token (k n : Nat) (rest : Text) :
    Text.occurrences (token k) (token n ++ rest) =
      (if token k <+: token n ++ rest then 1 else 0) + Text.occurrences (token k) ('_' :: '_' :: rest) := by
  obtain ⟨d, digits, hdigits⟩ := List.exists_cons_of_ne_nil (Nat.toDigits_ne_nil : Nat.toDigits 10 n ≠ [])
  have hdigit : '_' ∉ d :: digits := by
    intro hmem
    rw [← hdigits] at hmem
    exact absurd (isDigit_of_mem_ofNat hmem) (by decide)
  have hwhole : token n ++ rest = '_' :: '_' :: (['v', 'e', 'l', 'l', 'u', 'm'] ++ '_' :: (['l', 'i', 't'] ++
      '_' :: (d :: digits ++ '_' :: '_' :: rest))) := by
    rw [token_eq, stem, mark, Text.ofNat, hdigits]
    simp
  rw [hwhole, Text.occurrences_cons, occurrences_lone (by decide), occurrences_lone (by decide), occurrences_lone hdigit]

/-! ## Texts without beginnings of tokens -/

/-- A text that is shown, has no two underscores side by side and ends with none, is not shown by a token. -/
theorem prefix_sourceOf (hdouble : ¬ ['_', '_'] <:+: inner) (hlast : inner.getLast? ≠ some '_')
    (h : inner <+: shownAt 0 pieces) : inner <+: sourceOf pieces := by
  induction pieces generalizing inner with
  | nil => exact h
  | cons piece pieces ih =>
    cases inner with
    | nil => exact List.nil_prefix
    | cons c inner =>
      rw [shownAt_cons] at h
      cases piece with
      | plain d =>
        obtain ⟨rfl, hrest⟩ := List.cons_prefix_cons.mp h
        refine List.cons_prefix_cons.mpr ⟨rfl, ih (fun hinside => hdouble (hinside.trans (List.suffix_cons c inner).isInfix)) ?_ hrest⟩
        cases inner with
        | nil => exact nofun
        | cons e inner => exact hlast
      | literal n text =>
        rw [shown_zero, token_eq, List.cons_append, List.cons_prefix_cons] at h
        obtain ⟨rfl, hrest⟩ := h
        cases inner with
        | nil => exact absurd rfl hlast
        | cons e inner =>
          obtain ⟨rfl, -⟩ := List.cons_prefix_cons.mp hrest
          exact absurd (List.prefix_append ['_', '_'] inner).isInfix hdouble

theorem underscore_not_mem_ofNat (n : Nat) : '_' ∉ Text.ofNat n := fun h => absurd (isDigit_of_mem_ofNat h) (by decide)

theorem stem_single (n : Nat) : ¬ ['_', '_'] <:+: '_' :: stem n := by
  intro h
  have hdigits : ¬ ['_', '_'] <:+: Text.ofNat n := fun h => underscore_not_mem_ofNat n (h.subset List.mem_cons_self)
  have hfirst : ¬ ['_'] <+: Text.ofNat n := fun h => underscore_not_mem_ofNat n (h.subset List.mem_cons_self)
  simp [stem, mark, List.infix_cons_iff, List.cons_prefix_cons, hdigits, hfirst] at h

theorem stem_last (n : Nat) : (stem n).getLast? ≠ some '_' := by
  have hne : Text.ofNat n ≠ [] := Nat.toDigits_ne_nil
  intro h
  rw [stem, List.getLast?_append_of_ne_nil _ hne] at h
  exact underscore_not_mem_ofNat n (List.mem_of_getLast? h)

/-- A token stands nowhere but in the place of a literal if no text begins as tokens do, and none goes on as tokens do
where a literal ends. -/
theorem marked_of_unreserved (hpieces : ∀ m text, .literal m text ∈ pieces → IsLiteral text)
    (hreserved : ¬ '_' :: '_' :: mark <:+: sourceOf pieces)
    (hbehind : ∀ quote, Argument.isQuote quote →
      ¬ quote :: mark <:+: sourceOf pieces ∧ ¬ quote :: '_' :: mark <:+: sourceOf pieces) : Marked n pieces := by
  unfold Marked
  induction pieces with
  | nil => exact Nat.zero_le _
  | cons piece pieces ih =>
    have hsuffix : sourceOf pieces <:+: sourceOf (piece :: pieces) := (List.suffix_append _ _).isInfix
    have hlater := ih (fun m text hmem => hpieces m text (List.mem_cons_of_mem _ hmem))
      (fun h => hreserved (h.trans hsuffix))
      fun quote hquote => ⟨fun h => (hbehind quote hquote).1 (h.trans hsuffix),
        fun h => (hbehind quote hquote).2 (h.trans hsuffix)⟩
    -- what goes on as a token does is text, for its underscores are single
    have hmark : stem n <+: shownAt 0 pieces → mark <+: sourceOf pieces := fun h =>
      (List.prefix_append mark _).trans (prefix_sourceOf
        (fun h => stem_single n (h.trans (List.suffix_cons _ _).isInfix)) (stem_last n) h)
    have hmark' : '_' :: stem n <+: shownAt 0 pieces → '_' :: mark <+: sourceOf pieces := fun h =>
      (List.prefix_append ('_' :: mark) _).trans (prefix_sourceOf (stem_single n) (stem_last n) h)
    rw [shownAt_cons, placed_cons]
    cases piece with
    | plain c =>
      have hnot : ¬ token n <+: c :: shownAt 0 pieces := by
        intro h
        rw [token_eq, List.cons_prefix_cons] at h
        obtain ⟨rfl, h⟩ := h
        have hbegins := hmark' ((List.prefix_append ('_' :: stem n) _).trans h)
        exact hreserved (List.cons_prefix_cons.mpr ⟨rfl, hbegins⟩).isInfix
      have hhere : Text.occurrences (token n) ((Piece.plain c).shown 0 ++ shownAt 0 pieces) =
          Text.occurrences (token n) (shownAt 0 pieces) := by
        rw [Piece.shown, List.singleton_append, Text.occurrences_cons, if_neg hnot, Nat.zero_add]
      rw [hhere]
      exact hlater
    | literal m text =>
      obtain ⟨quote, inside, hquote, rfl⟩ := hpieces m text List.mem_cons_self
      have hends : quote :: sourceOf pieces <:+: sourceOf (.literal m (quote :: inside ++ [quote]) :: pieces) :=
        ⟨quote :: inside, [], by simp [sourceOf, Piece.source]⟩
      obtain ⟨hone, htwo⟩ := hbehind quote hquote
      have hnot : ¬ token n <+: '_' :: '_' :: shownAt 0 pieces := by
        rw [token_eq, List.cons_prefix_cons, List.cons_prefix_cons]
        intro h
        have hbegins := hmark ((List.prefix_append (stem n) _).trans h.2.2)
        exact hone ((List.cons_prefix_cons.mpr ⟨rfl, hbegins⟩).isInfix.trans hends)
      have hnot' : ¬ token n <+: '_' :: shownAt 0 pieces := by
        rw [token_eq, List.cons_prefix_cons]
        intro h
        have hbegins := hmark' ((List.prefix_append ('_' :: stem n) _).trans h.2)
        exact htwo ((List.cons_prefix_cons.mpr ⟨rfl, hbegins⟩).isInfix.trans hends)
      rw [shown_zero, occurrences_token, Text.occurrences_cons, if_neg hnot, Text.occurrences_cons, if_neg hnot']
      split
      case isTrue hsame =>
        obtain rfl := eq_of_prefix hsame
        simp only [Piece.isLiteral, beq_self_eq_true, if_true]
        omega
      case isFalse => omega

/-- The tokens of a text are unambiguous if it holds nothing that begins as tokens do, and no quote in it stands in front
of what goes on as tokens do. -/
theorem unambiguous_of_unreserved (hreserved : Text.contains "__vellum_lit_" s = false)
    (hbehind : ∀ quote, Argument.isQuote quote →
      Text.contains (quote :: "vellum_lit_".toList) s = false ∧ Text.contains (quote :: "_vellum_lit_".toList) s = false) :
    Unambiguous s := by
  have hsource : sourceOf (piecesFrom 0 0 s) = s := sourceOf_piecesFrom 0 0 s
  have hnumbered := numbered_piecesFrom 0 0 s
  have hliteral : ∀ m text, .literal m text ∈ piecesFrom 0 0 s → IsLiteral text := fun m text hmem => (hnumbered.get hmem).1
  have hmark : ¬ '_' :: '_' :: mark <:+: s := Text.contains_eq_false_iff.mp hreserved
  have hmarked : ∀ n, Marked n (piecesFrom 0 0 s) := fun n => by
    refine marked_of_unreserved hliteral (hsource.symm ▸ hmark) fun quote hquote => ?_
    obtain ⟨hone, htwo⟩ := hbehind quote hquote
    rw [hsource]
    exact ⟨Text.contains_eq_false_iff.mp hone, Text.contains_eq_false_iff.mp htwo⟩
  have hentry : ∀ entry ∈ tableOf (piecesFrom 0 0 s), ∃ n, entry.1 = token n ∧ entry.2 <:+: s := by
    intro entry hmem
    obtain ⟨piece, hpiece, hentry⟩ := List.mem_filterMap.mp hmem
    cases piece with
    | plain c => cases hentry
    | literal n text =>
      obtain rfl := Option.some.inj hentry
      have hinside : text <:+: sourceOf (piecesFrom 0 0 s) := List.infix_of_mem_flatten (List.mem_map_of_mem hpiece)
      exact ⟨n, rfl, hsource ▸ hinside⟩
  rw [Unambiguous, protectLiterals, protectFrom_eq]
  refine ⟨fun entry hmem => ?_, List.pairwise_iff_getElem.mpr fun i j hi hj _ => ?_⟩
  · obtain ⟨n, hn, -⟩ := hentry entry hmem
    rw [hn]
    exact Nat.le_trans (hmarked n) (hnumbered.placed_le_one n)
  · obtain ⟨n, hn, -⟩ := hentry _ (List.getElem_mem hj)
    obtain ⟨-, -, hinside⟩ := hentry _ (List.getElem_mem hi)
    refine Text.occurrences_of_not_infix fun h => hmark ?_
    have hbegins : '_' :: '_' :: mark <+: token n := by
      rw [token_eq, stem, List.append_assoc]
      exact List.prefix_append ('_' :: '_' :: mark) _
    exact hbegins.isInfix.trans ((hn ▸ h).trans hinside)

/-- **Literals are put back.**  A text is what its protected form is restored to, if the token of each literal stands in one
place only; and so it does unless the text itself holds what tokens are made of. -/
theorem restore_protectLiterals (s : Text) :
    (Unambiguous s → restore (protectLiterals s).2 (protectLiterals s).1 = s) ∧
    (Text.contains "vellum_lit_" s = false → Unambiguous s) := by
  refine ⟨Unambiguous.restored, fun h => ?_⟩
  have hmark : ¬ mark <:+: s := Text.contains_eq_false_iff.mp h
  refine unambiguous_of_unreserved (Text.contains_eq_false_iff.mpr fun hinside => hmark ?_) fun quote _ => ⟨?_, ?_⟩
  · exact (List.suffix_append ['_', '_'] mark).isInfix.trans hinside
  · exact Text.contains_eq_false_iff.mpr fun hinside => hmark ((List.suffix_cons quote mark).isInfix.trans hinside)
  · exact Text.contains_eq_false_iff.mpr fun hinside => hmark ((List.suffix_append [quote, '_'] mark).isInfix.trans hinside)

/-- Literals of two kinds, with a separator and an escaped quote inside. -/
theorem restore_protectLiterals_escaped :
    Text.contains "vellum_lit_" "'a|b' + \"\\\"\"" = false ∧ Unambiguous "'a|b' + \"\\\"\"" ∧
    restore (protectLiterals "'a|b' + \"\\\"\"").2 (protectLiterals "'a|b' + \"\\\"\"").1 =
      ("'a|b' + \"\\\"\"" : String).toList := by
  have hbare : Text.contains "vellum_lit_" "'a|b' + \"\\\"\"" = false := by decide +kernel
  have hunambiguous := (restore_protectLiterals _).2 hbare
  exact ⟨hbare, hunambiguous, (restore_protectLiterals _).1 hunambiguous⟩

/-- A name that is the token of the literal behind it is taken for that literal. -/
theorem token_taken : ¬ ∀ s : Text, restore (protectLiterals s).2 (protectLiterals s).1 = s := fun h =>
  absurd (h "__vellum_lit_0__ + 'a'") (by decide +kernel)

end Stencil.Filter
