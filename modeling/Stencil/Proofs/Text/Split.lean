import Stencil.Text.Basic

/-!
# Taking texts apart and putting them together

* `after?_eq_some` — a text that follows a beginning.
* `splitOn_append`, `mem_of_splitOn` — the parts between separators; `join_splitOn` — joined again they are the text.
* `occurrences` — in how many places a text begins.
* `occurrences_append_le`, `occurrences_append_of_last` — what an occurrence across a border takes.
* `replaceFrom_over`, `replaceFrom_at` — replacing goes over what no occurrence begins in, and takes what stands at one.
* `contains_eq_false_iff` — a text that is not contained is no part.
-/

namespace Stencil.Text

/-- What follows a beginning is what the beginning is put in front of. -/
theorem after?_eq_some {p s rest : Text} : after? p s = some rest ↔ s = p ++ rest := by
  induction p generalizing s with
  | nil => exact Option.some_inj
  | cons d p ih =>
    cases s with
    | nil => simp [after?]
    | cons c s =>
      by_cases h : d = c
      · simp [after?, h, ih]
      · simp [after?, h, Ne.symm h]

theorem join_cons_cons (separator s t : Text) (rest : List Text) :
    join separator (s :: t :: rest) = s ++ (separator ++ join separator (t :: rest)) := rfl

theorem join_singleton (separator s : Text) : join separator [s] = s := List.append_nil s

/-- Without an inner text nothing in a text begins with it. -/
theorem contains_cons_eq_false {inner s : Text} {c : Char} :
    contains inner (c :: s) = false ↔ after? inner (c :: s) = none ∧ contains inner s = false := by
  unfold contains
  rw [cut?]
  cases after? inner (c :: s) <;> simp

/-- A beginning that ends before a character it does not hold is a beginning of what stands before that character. -/
theorem after?_before {p s t rest : Text} {c : Char} (hc : c ∉ p) (h : after? p (s ++ c :: t) = some rest) :
    ∃ rest', after? p s = some rest' := by
  induction p generalizing s with
  | nil => exact ⟨s, rfl⟩
  | cons d p ih =>
    rw [List.mem_cons, not_or] at hc
    cases s with
    | nil =>
      rw [List.nil_append, after?, if_neg (Ne.symm hc.1)] at h
      cases h
    | cons e s =>
      rw [List.cons_append, after?] at h
      rw [after?]
      by_cases hd : d = e
      · rw [if_pos hd] at h ⊢
        exact ih hc.2 h
      · rw [if_neg hd] at h
        cases h

theorem mem_join {c : Char} {separator : Text} (h : c ∉ separator) (parts : List Text) :
    c ∈ join separator parts ↔ ∃ part ∈ parts, c ∈ part := by
  rw [join]
  induction parts with
  | nil => simp
  | cons part parts ih =>
    cases parts with
    | nil => simp
    | cons next parts =>
      rw [List.intersperse_cons_cons]
      simp only [List.flatten_cons, List.mem_append, h, false_or, ih, List.mem_cons, exists_eq_or_imp]

theorem splitOn_ne_nil (separator : Char) (s : Text) : splitOn separator s ≠ [] := by
  cases s with
  | nil => exact List.cons_ne_nil _ _
  | cons c s =>
    rw [splitOn]
    split
    · exact List.cons_ne_nil _ _
    · split <;> exact List.cons_ne_nil _ _

theorem splitOn_cons_of_ne {separator c : Char} (h : c ≠ separator) {s part : Text} {parts : List Text}
    (hs : splitOn separator s = part :: parts) : splitOn separator (c :: s) = (c :: part) :: parts := by
  rw [splitOn, hs]
  exact if_neg h

/-- Without a separator a text is a single part. -/
theorem splitOn_of_not_mem {separator : Char} {s : Text} (h : separator ∉ s) : splitOn separator s = [s] := by
  induction s with
  | nil => rfl
  | cons c s ih =>
    rw [List.mem_cons, not_or] at h
    exact splitOn_cons_of_ne (Ne.symm h.1) (ih h.2)

/-- A part ends at the first separator. -/
theorem splitOn_append {separator : Char} {s : Text} (h : separator ∉ s) (rest : Text) :
    splitOn separator (s ++ separator :: rest) = s :: splitOn separator rest := by
  induction s with
  | nil =>
    obtain ⟨part, parts, hrest⟩ := List.exists_cons_of_ne_nil (splitOn_ne_nil separator rest)
    rw [List.nil_append, splitOn, hrest]
    exact if_pos rfl
  | cons c s ih =>
    rw [List.mem_cons, not_or] at h
    exact splitOn_cons_of_ne (Ne.symm h.1) (ih h.2)

/-- The parts of a text hold its characters other than the separator. -/
theorem mem_of_splitOn {separator : Char} {s part : Text} (h : part ∈ splitOn separator s) :
    ∀ c ∈ part, c ∈ s ∧ c ≠ separator := by
  induction s generalizing part with
  | nil =>
    rw [splitOn, List.mem_singleton] at h
    rw [h]
    exact fun c hc => absurd hc List.not_mem_nil
  | cons d s ih =>
    obtain ⟨first, rest, hs⟩ := List.exists_cons_of_ne_nil (splitOn_ne_nil separator s)
    rw [hs] at ih
    have hlater : ∀ q ∈ first :: rest, ∀ c ∈ q, c ∈ d :: s ∧ c ≠ separator := fun q hq c hc =>
      ⟨List.mem_cons_of_mem _ (ih hq c hc).1, (ih hq c hc).2⟩
    by_cases hd : d = separator
    · rw [splitOn, hs] at h
      simp only [hd, if_true] at h
      rcases List.mem_cons.mp h with rfl | h
      · exact fun c hc => absurd hc List.not_mem_nil
      · exact hlater part h
    · rw [splitOn_cons_of_ne hd hs] at h
      rcases List.mem_cons.mp h with rfl | h
      · intro c hc
        rcases List.mem_cons.mp hc with rfl | hc
        · exact ⟨List.mem_cons_self, hd⟩
        · exact hlater first List.mem_cons_self c hc
      · exact hlater part (List.mem_cons_of_mem _ h)

/-- The parts between separators, joined by the separator, are the text. -/
theorem join_splitOn (separator : Char) (s : Text) : join [separator] (splitOn separator s) = s := by
  induction s with
  | nil => rfl
  | cons c s ih =>
    obtain ⟨part, parts, hs⟩ := List.exists_cons_of_ne_nil (splitOn_ne_nil separator s)
    rw [hs] at ih
    by_cases hc : c = separator
    · have hsplit : splitOn separator (c :: s) = [] :: part :: parts := by
        rw [splitOn, hs]
        exact if_pos hc
      rw [hsplit, hc, ← ih]
      rfl
    · rw [splitOn_cons_of_ne hc hs, ← ih]
      cases parts <;> rfl

end Stencil.Text

/-! ## Where a text occurs -/

namespace Stencil.Text

variable {inner new front s t : Text} {c last : Char}

/-- In how many places of a text a nonempty one begins. -/
def occurrences (inner : Text) : Text → Nat
  | [] => 0
  | c :: s => (if inner.isPrefixOf (c :: s) then 1 else 0) + occurrences inner s

theorem occurrences_cons (inner : Text) (c : Char) (s : Text) :
    occurrences inner (c :: s) = (if inner <+: c :: s then 1 else 0) + occurrences inner s := by
  simp only [occurrences, List.isPrefixOf_iff_prefix]

theorem occurrences_append_le (inner s t : Text) : occurrences inner s + occurrences inner t ≤ occurrences inner (s ++ t) := by
  induction s with
  | nil => simp [occurrences]
  | cons c s ih =>
    rw [List.cons_append, occurrences_cons, occurrences_cons]
    have hmono : inner <+: c :: s → inner <+: c :: (s ++ t) := fun h => h.trans (List.prefix_append (c :: s) t)
    split
    case isTrue h =>
      rw [if_pos (hmono h)]
      omega
    case isFalse => omega

theorem occurrences_le_append (inner s t : Text) : occurrences inner t ≤ occurrences inner (s ++ t) :=
  Nat.le_trans (Nat.le_add_left _ _) (occurrences_append_le inner s t)

theorem one_le_occurrences (hne : inner ≠ []) (t : Text) : 1 + occurrences inner t ≤ occurrences inner (inner ++ t) := by
  obtain ⟨c, rest, rfl⟩ := List.exists_cons_of_ne_nil hne
  have hrest := occurrences_le_append (c :: rest) rest t
  have hhere : c :: rest <+: c :: (rest ++ t) := List.prefix_append (c :: rest) t
  rw [List.cons_append, occurrences_cons, if_pos hhere]
  omega

/-- A beginning that ends before a character it does not hold ends in front of it. -/
theorem prefix_of_not_mem (h : c ∉ inner) (hbegins : inner <+: front ++ c :: s) : inner <+: front := by
  rcases List.prefix_or_prefix_of_prefix hbegins (List.prefix_append front (c :: s)) with hfront | ⟨rest, rfl⟩
  · exact hfront
  · cases rest with
    | nil => simp
    | cons d rest =>
      obtain rfl : d = c := (List.cons_prefix_cons.mp ((List.prefix_append_right_inj front).mp hbegins)).1
      exact absurd (by simp) h

/-- Across a character that a text does not hold it does not occur. -/
theorem occurrences_append_of_last (hne : inner ≠ []) (hlast : last ∉ inner) (front s : Text) :
    occurrences inner (front ++ last :: s) = occurrences inner front + occurrences inner s := by
  induction front with
  | nil =>
    have hnot : ¬ inner <+: last :: s := by
      rw [← List.nil_append (last :: s)]
      exact fun h => hne (List.prefix_nil.mp (prefix_of_not_mem hlast h))
    rw [List.nil_append, occurrences_cons, if_neg hnot]
    rfl
  | cons c front ih =>
    have hiff : inner <+: c :: (front ++ last :: s) ↔ inner <+: c :: front :=
      ⟨fun h => prefix_of_not_mem hlast h, fun h => h.trans (List.prefix_append (c :: front) _)⟩
    rw [List.cons_append, occurrences_cons, occurrences_cons, ih]
    simp only [hiff]
    omega

/-- What begins in a stretch of text before one rest begins there before another rest, too, if all its beginnings do. -/
theorem occurrences_append_mono {r r' : Text} (hrest : occurrences inner r ≤ occurrences inner r')
    (h : ∀ part, part <:+ front → inner <+: part ++ r → inner <+: part ++ r') :
    occurrences inner (front ++ r) ≤ occurrences inner (front ++ r') := by
  induction front with
  | nil => exact hrest
  | cons c front ih =>
    have hlater := ih fun part hpart => h part (hpart.trans (List.suffix_cons c front))
    rw [List.cons_append, List.cons_append, occurrences_cons, occurrences_cons]
    split
    case isTrue hhere =>
      have hthere : inner <+: c :: (front ++ r') := h (c :: front) List.suffix_rfl hhere
      rw [if_pos hthere]
      omega
    case isFalse => omega

theorem occurrences_of_not_infix (h : ¬ inner <:+: s) : occurrences inner s = 0 := by
  induction s with
  | nil => rfl
  | cons c s ih =>
    rw [occurrences_cons, if_neg (fun hbegins => h hbegins.isInfix), ih fun hs => h (hs.trans (List.suffix_cons c s).isInfix)]

/-! ## Replacing -/

theorem replaceFrom_skip (inner new : Text) (skip : Nat) (s : Text) :
    replaceFrom inner new skip s = replaceFrom inner new 0 (s.drop skip) := by
  induction s generalizing skip with
  | nil => simp [replaceFrom]
  | cons c s ih =>
    cases skip with
    | zero => rfl
    | succ skip => exact ih skip

/-- Replacing goes over a stretch in which no occurrence begins. -/
theorem replaceFrom_over (h : occurrences inner (front ++ s) ≤ occurrences inner s) :
    replaceFrom inner new 0 (front ++ s) = front ++ replaceFrom inner new 0 s := by
  induction front with
  | nil => rfl
  | cons c front ih =>
    have hrest := occurrences_le_append inner front s
    rw [List.cons_append, occurrences_cons] at h
    have hnot : ¬ inner <+: c :: (front ++ s) := fun hhere => by
      rw [if_pos hhere] at h
      omega
    rw [if_neg hnot] at h
    rw [List.cons_append, replaceFrom, if_neg (by rwa [List.isPrefixOf_iff_prefix]), ih (by omega)]
    rfl

/-- An occurrence is replaced. -/
theorem replaceFrom_at (hne : inner ≠ []) (new s : Text) :
    replaceFrom inner new 0 (inner ++ s) = new ++ replaceFrom inner new 0 s := by
  obtain ⟨c, rest, rfl⟩ := List.exists_cons_of_ne_nil hne
  have hhere : (c :: rest).isPrefixOf (c :: (rest ++ s)) := List.isPrefixOf_iff_prefix.mpr (List.prefix_append (c :: rest) s)
  rw [List.cons_append, replaceFrom, if_pos hhere, replaceFrom_skip]
  simp

/-! ## Containing -/

theorem contains_eq_false_iff : contains inner s = false ↔ ¬ inner <:+: s := by
  have hbegins : ∀ t, after? inner t = none ↔ ¬ inner <+: t := by
    intro t
    rw [← Option.not_isSome_iff_eq_none, Option.isSome_iff_exists]
    exact not_congr ⟨fun ⟨rest, h⟩ => ⟨rest, (after?_eq_some.mp h).symm⟩, fun ⟨rest, h⟩ => ⟨rest, after?_eq_some.mpr h.symm⟩⟩
  induction s with
  | nil =>
    have hnil : contains inner [] = (after? inner []).isSome := by rw [contains, cut?, Option.isSome_map]
    rw [hnil, Option.isSome_eq_false_iff, Option.isNone_iff_eq_none, hbegins, List.prefix_nil, List.infix_nil]
  | cons c s ih =>
    rw [contains_cons_eq_false, List.infix_cons_iff, not_or]
    exact and_congr (hbegins _) ih

end Stencil.Text
