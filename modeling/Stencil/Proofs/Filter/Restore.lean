import Stencil.Filter.Pipeline
import Stencil.Proofs.Text.Quoted
import Stencil.Proofs.Text.Split

/-!
# Literals are put back

Protecting a text reads it as *pieces*, characters and literals.  Each literal is shown as its token until the token is
replaced, one after the other from the first on.  A replacement puts one literal back and leaves everything else alone if
the token stands in one place only, which is for the text to see to: the characters of a token may stand in it as well.

* `Piece`, `piecesFrom` — a text as pieces; `sourceOf`, `shownAt`, `tableOf` — the text, what is shown of it when some of
  the literals are back, and what stands for each literal.
* `Marked` — the token of a literal stands only where the literal was.
* `replace_shown` — replacing such a token puts its literal back; `restore_part` — so all of them come back.
* `Unambiguous.restored` — a text whose tokens stand in one place each is restored.
-/

namespace Stencil.Filter

/-- A character outside literals, or a literal with its number. -/
inductive Piece where
  | plain (c : Char)
  | literal (n : Nat) (text : Text)

namespace Piece

/-- A piece as it was written. -/
def source : Piece → Text
  | .plain c => [c]
  | .literal _ text => text

/-- What is shown of a piece when the literals before the `k`-th are back. -/
def shown (k : Nat) : Piece → Text
  | .plain c => [c]
  | .literal n text => if n < k then text else token n

/-- The token of a literal and what it stands for. -/
def entry? : Piece → Option (Text × Text)
  | .plain _ => none
  | .literal n text => some (token n, text)

/-- A piece is the `k`-th literal. -/
def isLiteral (k : Nat) : Piece → Bool
  | .plain _ => false
  | .literal n _ => n == k

end Piece

/-- The text that pieces were read from. -/
def sourceOf (pieces : List Piece) : Text := pieces.flatMap Piece.source

/-- What is shown of pieces when the literals before the `k`-th are back. -/
def shownAt (k : Nat) (pieces : List Piece) : Text := pieces.flatMap (Piece.shown k)

/-- The tokens of the literals among pieces, with what they stand for. -/
def tableOf (pieces : List Piece) : List (Text × Text) := pieces.filterMap Piece.entry?

/-- The number of times that the `k`-th literal is among pieces. -/
def placed (k : Nat) (pieces : List Piece) : Nat := pieces.countP (Piece.isLiteral k)

/-- The pieces of a text, with `skip` characters left of the literal read last and `n` the number of the next one. -/
def piecesFrom (n : Nat) : Nat → Text → List Piece
  | _, [] => []
  | skip + 1, _ :: s => piecesFrom n skip s
  | 0, c :: s =>
    match if Argument.isQuote c then literalEnd? c s else none with
    | some (body, _) => .literal n (c :: body) :: piecesFrom (n + 1) body.length s
    | none => .plain c :: piecesFrom n 0 s

variable {c quote : Char} {k m n skip : Nat} {s body rest text new : Text} {pieces part more : List Piece}

/-! ## Reading pieces -/

/-- A quote, what stands behind it, and a quote of its kind. -/
def IsLiteral (text : Text) : Prop := ∃ quote inner, Argument.isQuote quote ∧ text = quote :: inner ++ [quote]

theorem literalEnd?_eq_some (h : literalEnd? quote s = some (body, rest)) :
    s = body ++ rest ∧ ∃ inner, body = inner ++ [quote] := by
  fun_induction literalEnd? quote s generalizing body with
  | case1 => cases h
  | case2 d s hmem ih =>
    obtain ⟨⟨body', rest'⟩, hend, hpair⟩ := Option.map_eq_some_iff.mp h
    obtain ⟨rfl, rfl⟩ := Prod.mk.inj hpair
    obtain ⟨rfl, inner, rfl⟩ := ih hend
    exact ⟨rfl, '\\' :: d :: inner, rfl⟩
  | case3 s hmem =>
    obtain ⟨rfl, rfl⟩ := Prod.mk.inj (Option.some.inj h)
    exact ⟨rfl, ['\\'], rfl⟩
  | case4 => cases h
  | case5 s =>
    obtain ⟨rfl, rfl⟩ := Prod.mk.inj (Option.some.inj h)
    exact ⟨rfl, [], rfl⟩
  | case6 c s hother _ ih =>
    obtain ⟨⟨body', rest'⟩, hend, hpair⟩ := Option.map_eq_some_iff.mp h
    obtain ⟨rfl, rfl⟩ := Prod.mk.inj hpair
    obtain ⟨rfl, inner, rfl⟩ := ih hend
    exact ⟨rfl, c :: inner, rfl⟩

theorem found_eq_some (h : (if Argument.isQuote c then literalEnd? c s else none) = some (body, rest)) :
    Argument.isQuote c ∧ literalEnd? c s = some (body, rest) := by
  split at h
  case isTrue hquote => exact ⟨hquote, h⟩
  case isFalse => cases h

theorem sourceOf_piecesFrom (n skip : Nat) (s : Text) : sourceOf (piecesFrom n skip s) = s.drop skip := by
  fun_induction piecesFrom n skip s with
  | case1 => simp [sourceOf]
  | case2 n skip c s ih => exact ih
  | case3 n c s body rest hfound ih =>
    obtain ⟨rfl, -⟩ := literalEnd?_eq_some (found_eq_some hfound).2
    rw [List.drop_left] at ih
    rw [sourceOf, List.flatMap_cons, ← sourceOf, ih]
    rfl
  | case4 n c s hnone ih =>
    rw [sourceOf, List.flatMap_cons, ← sourceOf, ih]
    rfl

/-- Protecting shows the pieces of a text as they are before any literal is back. -/
theorem protectFrom_eq (n skip : Nat) (s : Text) :
    protectFrom n skip s = (shownAt 0 (piecesFrom n skip s), tableOf (piecesFrom n skip s)) := by
  fun_induction piecesFrom n skip s with
  | case1 => rw [protectFrom]; rfl
  | case2 n skip c s ih => rw [protectFrom, ih]
  | case3 n c s body rest hfound ih =>
    rw [protectFrom, hfound]
    dsimp only
    rw [ih]
    rfl
  | case4 n c s hnone ih =>
    rw [protectFrom, hnone]
    dsimp only
    rw [ih]
    rfl

/-- Literals are numbered one after the other. -/
def Numbered : Nat → List Piece → Prop
  | _, [] => True
  | n, .plain _ :: pieces => Numbered n pieces
  | n, .literal m text :: pieces => m = n ∧ IsLiteral text ∧ Numbered (n + 1) pieces

theorem numbered_piecesFrom (n skip : Nat) (s : Text) : Numbered n (piecesFrom n skip s) := by
  fun_induction piecesFrom n skip s with
  | case1 => trivial
  | case2 n skip c s ih => exact ih
  | case3 n c s body rest hfound ih =>
    obtain ⟨hquote, hend⟩ := found_eq_some hfound
    obtain ⟨-, inner, rfl⟩ := literalEnd?_eq_some hend
    exact ⟨rfl, ⟨c, inner, hquote, rfl⟩, ih⟩
  | case4 n c s hnone ih => exact ih

theorem Numbered.get (h : Numbered m pieces) (hmem : .literal n text ∈ pieces) :
    IsLiteral text ∧ ∃ i, n = m + i ∧ (tableOf pieces)[i]? = some (token n, text) := by
  induction pieces generalizing m with
  | nil => cases hmem
  | cons piece pieces ih =>
    cases piece with
    | plain c =>
      rcases List.mem_cons.mp hmem with heq | hmem
      · cases heq
      · exact ih h hmem
    | literal m' text' =>
      obtain ⟨rfl, hliteral, hrest⟩ := h
      rcases List.mem_cons.mp hmem with heq | hmem
      · obtain ⟨rfl, rfl⟩ := Piece.literal.inj heq
        exact ⟨hliteral, 0, rfl, rfl⟩
      · obtain ⟨htext, i, rfl, hget⟩ := ih hrest hmem
        exact ⟨htext, i + 1, by omega, hget⟩

/-- A number stands for one literal. -/
theorem Numbered.unique {text' : Text} (h : Numbered m pieces) (hmem : .literal n text ∈ pieces)
    (hmem' : .literal n text' ∈ pieces) : text = text' := by
  obtain ⟨-, i, rfl, hget⟩ := h.get hmem
  obtain ⟨-, j, hsame, hget'⟩ := h.get hmem'
  obtain rfl : i = j := by omega
  rw [hget] at hget'
  exact (Prod.mk.inj (Option.some.inj hget')).2

theorem entry_mem (h : .literal n text ∈ pieces) : (token n, text) ∈ tableOf pieces :=
  List.mem_filterMap.mpr ⟨_, h, rfl⟩

theorem placed_pos (h : .literal n text ∈ pieces) : 1 ≤ placed n pieces :=
  List.countP_pos_iff.mpr ⟨_, h, beq_self_eq_true n⟩

/-! ## Tokens -/

theorem token_ne_nil (n : Nat) : token n ≠ [] := by
  unfold token
  intro h
  simp at h

/-- The characters of a token are those of a name. -/
theorem of_mem_token {p : Char → Bool} (hmark : ("__vellum_lit_" : String).toList.all p)
    (hdigit : ∀ d < 10, p (Nat.digitChar d)) (h : c ∈ token n) : p c := by
  obtain ⟨d, ds, hds, htext, -⟩ := Text.toDigits_eq_map (by omega : 1 < 10) n
  unfold token Text.ofNat at h
  rw [htext] at h
  rcases List.mem_append.mp h with h | h
  · rcases List.mem_append.mp h with h | h
    · exact List.all_eq_true.mp hmark c h
    · obtain ⟨e, he, rfl⟩ := List.mem_map.mp h
      exact hdigit e (hds e he)
  · obtain rfl : c = '_' := by simpa using h
    exact List.all_eq_true.mp hmark '_' (by decide)

theorem not_mem_token_of_isQuote (h : Argument.isQuote quote) : quote ∉ token n := by
  intro hmem
  have hplain : (!Argument.isQuote quote) = true :=
    of_mem_token (p := fun c => !Argument.isQuote c) (by decide) (by decide) hmem
  rw [h] at hplain
  cases hplain

/-! ## Putting one literal back -/

theorem shownAt_cons (k : Nat) (piece : Piece) (pieces : List Piece) :
    shownAt k (piece :: pieces) = piece.shown k ++ shownAt k pieces := rfl

theorem shown_zero (n : Nat) (text : Text) : (Piece.literal n text).shown 0 = token n := by simp [Piece.shown]

theorem placed_cons (k : Nat) (piece : Piece) (pieces : List Piece) :
    placed k (piece :: pieces) = placed k pieces + if piece.isLiteral k then 1 else 0 := List.countP_cons

/-- Until its literal is back, a token stands wherever the literal was. -/
theorem placed_le {j : Nat} (h : j ≤ k) (pieces : List Piece) :
    placed k pieces ≤ Text.occurrences (token k) (shownAt j pieces) := by
  induction pieces with
  | nil => exact Nat.zero_le _
  | cons piece pieces ih =>
    rw [shownAt_cons, placed_cons]
    split
    case isTrue hpiece =>
      cases piece with
      | plain c => cases hpiece
      | literal n text =>
        obtain rfl : n = k := by simpa [Piece.isLiteral] using hpiece
        have hone := Text.one_le_occurrences (token_ne_nil n) (shownAt j pieces)
        rw [Piece.shown, if_neg (Nat.not_lt.mpr h)]
        omega
    case isFalse => exact Nat.le_trans ih (Text.occurrences_le_append _ _ _)

/-- Replacing a token that stands nowhere else puts its literal back and leaves the rest alone. -/
theorem replace_shown (hall : ∀ text, .literal k text ∈ pieces → text = new)
    (h : Text.occurrences (token k) (shownAt k pieces) ≤ placed k pieces) :
    Text.replace (token k) new (shownAt k pieces) = shownAt (k + 1) pieces := by
  rw [Text.replace, if_neg (by simp [token_ne_nil])]
  induction pieces with
  | nil => rfl
  | cons piece pieces ih =>
    have hlater := ih fun text hmem => hall text (List.mem_cons_of_mem _ hmem)
    have hrest := placed_le (Nat.le_refl k) pieces
    rw [shownAt_cons, placed_cons] at h
    rw [shownAt_cons, shownAt_cons]
    cases hpiece : piece.isLiteral k with
    | true =>
      cases piece with
      | plain c => cases hpiece
      | literal n text =>
        obtain rfl : n = k := by simpa [Piece.isLiteral] using hpiece
        have hone := Text.one_le_occurrences (token_ne_nil n) (shownAt n pieces)
        simp only [Piece.shown, Nat.lt_irrefl, if_false, hpiece, if_true, Nat.lt_succ_self] at h ⊢
        rw [Text.replaceFrom_at (token_ne_nil n), hlater (by omega), hall text List.mem_cons_self]
    | false =>
      have hsame : piece.shown (k + 1) = piece.shown k := by
        cases piece with
        | plain c => rfl
        | literal n text =>
          have hne : n ≠ k := by simpa [Piece.isLiteral] using hpiece
          have hiff : n < k + 1 ↔ n < k := by omega
          simp only [Piece.shown, hiff]
      have hshort := Text.occurrences_le_append (token k) (piece.shown k) (shownAt k pieces)
      rw [hpiece] at h
      simp only [Bool.false_eq_true, if_false, Nat.add_zero] at h
      rw [Text.replaceFrom_over (by omega), hlater (by omega), hsame]

theorem Numbered.placed_eq_zero (h : Numbered m pieces) (hlt : n < m) : placed n pieces = 0 := by
  refine List.countP_eq_zero.mpr fun piece hmem => ?_
  cases piece with
  | plain c => exact Bool.false_ne_true
  | literal k text =>
    obtain ⟨-, i, rfl, -⟩ := h.get hmem
    have hne : m + i ≠ n := by omega
    simpa [Piece.isLiteral] using hne

/-- Every literal is there once. -/
theorem Numbered.placed_le_one (h : Numbered m pieces) (n : Nat) : placed n pieces ≤ 1 := by
  induction pieces generalizing m with
  | nil => exact Nat.zero_le _
  | cons piece pieces ih =>
    rw [placed_cons]
    cases piece with
    | plain c => exact ih h
    | literal k text =>
      obtain ⟨rfl, -, hrest⟩ := h
      by_cases hsame : k = n
      · subst hsame
        rw [hrest.placed_eq_zero (Nat.lt_succ_self k)]
        split <;> omega
      · rw [if_neg (by simpa [Piece.isLiteral] using hsame)]
        exact ih hrest

/-! ## Putting all literals back -/

/-- A text without quotes that begins where some literals are back begins there when none is. -/
theorem prefix_shown {inner : Text} (hinner : ∀ quote, Argument.isQuote quote → quote ∉ inner)
    (hliteral : ∀ n text, .literal n text ∈ pieces → IsLiteral text) {front : Text}
    (h : inner <+: front ++ shownAt k pieces) : inner <+: front ++ shownAt 0 pieces := by
  induction pieces generalizing front with
  | nil => exact h
  | cons piece pieces ih =>
    have hlater : ∀ front : Text, inner <+: front ++ shownAt k pieces → inner <+: front ++ shownAt 0 pieces := fun front =>
      ih fun n text hmem => hliteral n text (List.mem_cons_of_mem _ hmem)
    rw [shownAt_cons] at h ⊢
    by_cases hsame : piece.shown k = piece.shown 0
    · rw [hsame, ← List.append_assoc] at h
      rw [← List.append_assoc]
      exact hlater _ h
    · -- a literal that is back begins with a quote, in front of which the text ends
      cases piece with
      | plain c => exact absurd rfl hsame
      | literal n text =>
        obtain ⟨quote, body, hquote, rfl⟩ := hliteral n text List.mem_cons_self
        have hback : (Piece.literal n (quote :: body ++ [quote])).shown k = quote :: body ++ [quote] := by
          simp only [Piece.shown, Nat.not_lt_zero, if_false] at hsame ⊢
          split
          · rfl
          case isFalse hnot => exact absurd (if_neg hnot) hsame
        rw [hback, List.cons_append, List.cons_append] at h
        exact (Text.prefix_of_not_mem (hinner quote hquote) h).trans (List.prefix_append _ _)

/-- What occurs when some literals are back, but in none of these, occurs when none is. -/
theorem occurrences_shown {inner : Text} (hne : inner ≠ []) (hinner : ∀ quote, Argument.isQuote quote → quote ∉ inner)
    (hliteral : ∀ n text, .literal n text ∈ pieces → IsLiteral text)
    (hback : ∀ n text, .literal n text ∈ pieces → n < k → Text.occurrences inner text = 0) :
    Text.occurrences inner (shownAt k pieces) ≤ Text.occurrences inner (shownAt 0 pieces) := by
  induction pieces with
  | nil => exact Nat.le_refl _
  | cons piece pieces ih =>
    have hlater := ih (fun n text hmem => hliteral n text (List.mem_cons_of_mem _ hmem))
      fun n text hmem => hback n text (List.mem_cons_of_mem _ hmem)
    have hbegins : ∀ front : Text, inner <+: front ++ shownAt k pieces → inner <+: front ++ shownAt 0 pieces := fun front =>
      prefix_shown hinner fun n text hmem => hliteral n text (List.mem_cons_of_mem _ hmem)
    rw [shownAt_cons, shownAt_cons]
    by_cases hsame : piece.shown k = piece.shown 0
    · rw [hsame]
      exact Text.occurrences_append_mono hlater fun front _ => hbegins front
    · cases piece with
      | plain c => exact absurd rfl hsame
      | literal n text =>
        obtain ⟨quote, body, hquote, rfl⟩ := hliteral n text List.mem_cons_self
        have hlt : n < k := by
          by_contra hnot
          exact hsame (by simp [Piece.shown, hnot])
        have hnone := hback n _ List.mem_cons_self hlt
        have hbehind := Text.occurrences_append_of_last hne (hinner quote hquote) (quote :: body) (shownAt k pieces)
        have hwithin := Text.occurrences_append_of_last hne (hinner quote hquote) (quote :: body) []
        have hback' : (Piece.literal n (quote :: body ++ [quote])).shown k = quote :: body ++ [quote] := if_pos hlt
        rw [hback', List.append_assoc, List.singleton_append, hbehind]
        rw [hnone] at hwithin
        have hmore := Text.occurrences_le_append inner ((Piece.literal n (quote :: body ++ [quote])).shown 0)
          (shownAt 0 pieces)
        omega

/-- The token of the `n`-th literal stands only where the literal was. -/
def Marked (n : Nat) (pieces : List Piece) : Prop := Text.occurrences (token n) (shownAt 0 pieces) ≤ placed n pieces

theorem shownAt_eq_sourceOf (h : ∀ n text, .literal n text ∈ pieces → n < k) : shownAt k pieces = sourceOf pieces := by
  induction pieces with
  | nil => rfl
  | cons piece pieces ih =>
    have hrest := ih fun n text hmem => h n text (List.mem_cons_of_mem _ hmem)
    rw [shownAt_cons, hrest]
    cases piece with
    | plain c => rfl
    | literal n text =>
      rw [Piece.shown, if_pos (h n text List.mem_cons_self)]
      rfl

theorem restore_cons (entry : Text × Text) (literals : List (Text × Text)) (s : Text) :
    restore (entry :: literals) s = restore literals (Text.replace entry.1 entry.2 s) := rfl

/-- If each replacement puts its literal back, all of them do. -/
theorem restore_shown (hmore : Numbered k more)
    (hstep : ∀ n text, .literal n text ∈ more → Text.replace (token n) text (shownAt n part) = shownAt (n + 1) part)
    (hbound : ∀ n text, .literal n text ∈ part → n < k + (tableOf more).length) :
    restore (tableOf more) (shownAt k part) = sourceOf part := by
  induction more generalizing k with
  | nil => exact shownAt_eq_sourceOf hbound
  | cons piece more ih =>
    have hlater := fun n text hmem => hstep n text (List.mem_cons_of_mem piece hmem)
    cases piece with
    | plain c => exact ih hmore hlater hbound
    | literal n text =>
      obtain ⟨rfl, -, hrest⟩ := hmore
      have htable : tableOf (.literal n text :: more) = (token n, text) :: tableOf more := rfl
      rw [htable, List.length_cons] at hbound
      rw [htable, restore_cons, hstep n text List.mem_cons_self]
      exact ih hrest hlater fun n' text' hmem => by have := hbound n' text' hmem; omega

/-- Part of the pieces of a text is restored if the tokens stand only where the literals were, and in no literal that is
put back before them. -/
theorem restore_part (hpieces : Numbered 0 pieces) (hpart : part ⊆ pieces)
    (hmarked : ∀ n text, .literal n text ∈ pieces → Marked n part)
    (hapart : (tableOf pieces).Pairwise fun earlier later => Text.occurrences later.1 earlier.2 = 0) :
    restore (tableOf pieces) (shownAt 0 part) = sourceOf part := by
  refine restore_shown hpieces (fun n text hmem => ?_) fun n text hmem => ?_
  · refine replace_shown (fun text' hmem' => hpieces.unique (hpart hmem') hmem) (Nat.le_trans ?_ (hmarked n text hmem))
    refine occurrences_shown (token_ne_nil n) (fun quote => not_mem_token_of_isQuote) (fun n' text' hmem' => ?_)
      fun n' text' hmem' hlt => ?_
    · exact (hpieces.get (hpart hmem')).1
    · obtain ⟨-, i, rfl, hi⟩ := hpieces.get (hpart hmem')
      obtain ⟨-, j, rfl, hj⟩ := hpieces.get hmem
      obtain ⟨hi', hget⟩ := List.getElem?_eq_some_iff.mp hi
      obtain ⟨hj', hget'⟩ := List.getElem?_eq_some_iff.mp hj
      have hzero := List.pairwise_iff_getElem.mp hapart i j hi' hj' (by omega)
      rwa [hget, hget'] at hzero
  · obtain ⟨-, i, rfl, hi⟩ := hpieces.get (hpart hmem)
    have hlt := (List.getElem?_eq_some_iff.mp hi).1
    omega

/-! ## Texts -/

/-- The token of each literal stands in one place of the protected text only, and in no literal before its own. -/
def Unambiguous (s : Text) : Prop :=
  (∀ entry ∈ (protectLiterals s).2, Text.occurrences entry.1 (protectLiterals s).1 ≤ 1) ∧
  (protectLiterals s).2.Pairwise fun earlier later => Text.occurrences later.1 earlier.2 = 0

instance (s : Text) : Decidable (Unambiguous s) := inferInstanceAs (Decidable (_ ∧ _))

theorem Unambiguous.marked (h : Unambiguous s) (hmem : .literal n text ∈ piecesFrom 0 0 s) :
    Marked n (piecesFrom 0 0 s) := by
  have hone := h.1
  rw [protectLiterals, protectFrom_eq] at hone
  exact Nat.le_trans (hone _ (entry_mem hmem)) (placed_pos hmem)

theorem Unambiguous.apart (h : Unambiguous s) :
    (tableOf (piecesFrom 0 0 s)).Pairwise fun earlier later => Text.occurrences later.1 earlier.2 = 0 := by
  have hapart := h.2
  rwa [protectLiterals, protectFrom_eq] at hapart

theorem Unambiguous.restored (h : Unambiguous s) : restore (protectLiterals s).2 (protectLiterals s).1 = s := by
  have hrestored := restore_part (numbered_piecesFrom 0 0 s) (fun _ hpiece => hpiece) (fun n text => h.marked) h.apart
  rw [sourceOf_piecesFrom, List.drop_zero] at hrestored
  rwa [protectLiterals, protectFrom_eq]

end Stencil.Filter
