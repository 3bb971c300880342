import Stencil.Proofs.Markup.Sign

/-!
# Names are whole words

A directive stands where a single `@` is followed by a word that is one of the names.  A word has one beginning and one
end, so which names there are and in which order they are tried never makes one name a longer or a shorter one.

* `NamedAt` — a single `@` stands at an offset of a text, and the word behind it is one of the names.
* `endsWord_iff` — a word ends behind a name exactly if the name is the whole word there.
* `directiveAt?_eq_some_iff` — what is read at a place; `mem_directivesFrom` — what is found from a place on.
* `directives_whole` — what is found in a whole text.
-/

namespace Stencil.Markup

variable {names : List Text} {name rest before s t : Text} {previous : Option Char} {offset : Nat}

/-- At an offset of a text an `@` stands, no other one stands right before it, and the word behind it is one of the
names. -/
structure NamedAt (names : List Text) (t : Text) (offset : Nat) (name : Text) : Prop where
  sign : t[offset]? = some '@'
  single : ∀ i, i + 1 = offset → t[i]? ≠ some '@'
  word : (t.drop (offset + 1)).takeWhile Text.isWord = name
  known : name ∈ names

/-- Names that are words: they are not empty and have word characters only. -/
def Words (names : List Text) : Prop := ∀ name ∈ names, name ≠ [] ∧ IsWordName name

theorem Words.byLength (h : Words names) : Words (byLength names) := fun name hname => h name (mem_byLength.mp hname)

/-! ## At a place -/

/-- A word ends behind a name exactly if the name is the whole word there. -/
theorem endsWord_iff (hne : name ≠ []) (hname : IsWordName name) :
    EndsWord name rest ↔ (name ++ rest).takeWhile Text.isWord = name := by
  refine ⟨takeWhile_of_endsWord hname hne, fun h => ?_⟩
  rw [List.takeWhile_append_of_pos hname, List.append_right_eq_self] at h
  have hlast : Text.isWord? (name.getLast? <|> some '@') = true := by
    rw [List.getLast?_eq_some_getLast hne]
    exact hname _ (List.getLast_mem hne)
  have hhead : Text.isWord? rest.head? = false := by
    cases rest with
    | nil => rfl
    | cons c rest =>
      by_contra hword
      have hword : Text.isWord c = true := by simpa [Text.isWord?] using hword
      rw [List.takeWhile_cons_of_pos hword] at h
      cases h
  unfold EndsWord Text.boundary
  rw [hlast, hhead]
  rfl

/-- The directive at a place: in whatever order names are tried, the name that is found is the whole word there. -/
theorem directiveAt?_eq_some_iff (hnames : Words names) :
    directiveAt? names previous s = some (name, rest) ↔
      previous ≠ some '@' ∧ s = '@' :: name ++ rest ∧ (name ++ rest).takeWhile Text.isWord = name ∧ name ∈ names := by
  constructor
  · intro h
    obtain ⟨hname, hs, hprevious, hends⟩ := directiveAt?_eq_some' h
    obtain ⟨hne, hword⟩ := hnames name hname
    exact ⟨hprevious, hs, takeWhile_of_endsWord hword hne hends, hname⟩
  · rintro ⟨hprevious, rfl, hwhole, hname⟩
    obtain ⟨hne, hword⟩ := hnames name hname
    have hends := (endsWord_iff hne hword).mpr hwhole
    obtain ⟨⟨name', rest'⟩, hfound⟩ := exists_directiveAt? hname hprevious hends
    obtain ⟨hname', hs, -, hends'⟩ := directiveAt?_eq_some' hfound
    obtain ⟨hne', hword'⟩ := hnames name' hname'
    obtain ⟨rfl, rfl⟩ := name_unique hword hword' hne hne' hends hends' (List.cons.inj hs).2
    exact hfound

/-- What is read behind a beginning of a text is what stands at this offset of it. -/
theorem directiveAt?_iff_namedAt (hnames : Words names) (before s : Text) :
    directiveAt? names before.getLast? s = some (name, rest) ↔
      NamedAt names (before ++ s) before.length name ∧ rest = s.drop (name.length + 1) := by
  have hbefore : (∀ i, i + 1 = before.length → (before ++ s)[i]? ≠ some '@') ↔ before.getLast? ≠ some '@' := by
    rw [List.getLast?_eq_getElem?]
    constructor
    · intro h hlast
      have hpos : before.length - 1 + 1 = before.length := by
        have := (List.getElem?_eq_some_iff.mp hlast).1
        omega
      refine h _ hpos ?_
      rwa [List.getElem?_append_left (by omega)]
    · rintro h i hi hat
      rw [List.getElem?_append_left (by omega)] at hat
      exact h (by rwa [← hi])
  rw [directiveAt?_eq_some_iff hnames]
  constructor
  · rintro ⟨hprevious, rfl, hword, hname⟩
    refine ⟨⟨?_, hbefore.mpr hprevious, ?_, hname⟩, by simp⟩
    · simp
    · simpa using hword
  · rintro ⟨⟨hsign, hsingle, hword, hname⟩, rfl⟩
    refine ⟨hbefore.mp hsingle, ?_⟩
    rw [List.getElem?_append_right (Nat.le_refl _), Nat.sub_self] at hsign
    obtain ⟨c, s, rfl⟩ := List.exists_cons_of_ne_nil (l := s) (by rintro rfl; cases hsign)
    obtain rfl : c = '@' := by simpa using hsign
    have hword : s.takeWhile Text.isWord = name := by simpa using hword
    have hs : s = name ++ s.drop name.length := by
      have hprefix : name <+: s := hword ▸ List.takeWhile_prefix _
      exact (List.prefix_append_drop hprefix)
    rw [List.drop_succ_cons, List.cons_append, ← hs]
    exact ⟨rfl, hword, hname⟩

/-! ## In a text -/

/-- No sign stands among the characters of a directive behind its own. -/
theorem Words.no_sign (h : Words names) {c : Char} (hfound : directiveAt? names previous (c :: s) = some (name, rest)) :
    ∀ d ∈ s.take name.length, d ≠ '@' := by
  obtain ⟨hname, hs, -, -⟩ := directiveAt?_eq_some' hfound
  obtain rfl : s = name ++ rest := (List.cons.inj hs).2
  rw [List.take_left]
  rintro d hd rfl
  exact absurd ((h name hname).2 _ hd) (by decide)

/-- From a place on, behind characters that belong to the directive before, everything is found that stands there. -/
theorem mem_directivesFrom (hnames : Words names) (before : Text) {skip i n : Nat} (hskip : ∀ c ∈ s.take skip, c ≠ '@') :
    (i, n, name) ∈ directivesFrom names before.length skip before.getLast? s ↔
      before.length ≤ i ∧ NamedAt names (before ++ s) i name ∧ n = name.length + 1 := by
  induction s generalizing before skip with
  | nil =>
    simp only [directivesFrom, List.not_mem_nil, false_iff, List.append_nil]
    rintro ⟨hle, hnamed, -⟩
    have := (List.getElem?_eq_some_iff.mp hnamed.sign).1
    omega
  | cons c s ih =>
    -- behind `c` the text before is one character longer
    have hbehind : ∀ {skip}, (∀ d ∈ s.take skip, d ≠ '@') →
        ((i, n, name) ∈ directivesFrom names (before.length + 1) skip (some c) s ↔
          before.length + 1 ≤ i ∧ NamedAt names (before ++ c :: s) i name ∧ n = name.length + 1) := by
      intro skip hskip
      have h := ih (before ++ [c]) hskip
      rwa [List.length_append, List.length_singleton, List.getLast?_concat, List.append_assoc] at h
    cases skip with
    | succ skip =>
      rw [directivesFrom, hbehind fun d hd => hskip d (by simp [hd])]
      refine ⟨fun ⟨hle, h⟩ => ⟨by omega, h⟩, fun ⟨hle, hnamed, hn⟩ => ⟨?_, hnamed, hn⟩⟩
      have hne : before.length ≠ i := by
        rintro rfl
        have hc : some c = some '@' := by simpa using hnamed.sign
        exact hskip c (by simp) (Option.some.inj hc)
      omega
    | zero =>
      have hhere : ∀ {name rest}, directiveAt? names before.getLast? (c :: s) = some (name, rest) ↔ _ :=
        directiveAt?_iff_namedAt hnames before (c :: s)
      rw [directivesFrom]
      cases hfound : directiveAt? names before.getLast? (c :: s) with
      | none =>
        simp only
        rw [hbehind (by simp)]
        refine ⟨fun ⟨hle, h⟩ => ⟨by omega, h⟩, fun ⟨hle, hnamed, hn⟩ => ⟨?_, hnamed, hn⟩⟩
        have hne : before.length ≠ i := by
          rintro rfl
          rw [hhere.mpr ⟨hnamed, rfl⟩] at hfound
          cases hfound
        omega
      | some found =>
        obtain ⟨name', rest'⟩ := found
        obtain ⟨hnamed', -⟩ := hhere.mp hfound
        simp only
        rw [List.mem_cons, hbehind (hnames.no_sign hfound)]
        constructor
        · rintro (heq | ⟨hle, h⟩)
          · obtain ⟨rfl, rfl, rfl⟩ : i = before.length ∧ n = name'.length + 1 ∧ name = name' := by simpa using heq
            exact ⟨Nat.le_refl _, hnamed', rfl⟩
          · exact ⟨by omega, h⟩
        · rintro ⟨hle, hnamed, hn⟩
          rcases Nat.eq_or_lt_of_le hle with rfl | hlt
          · obtain rfl : name' = name := hnamed'.word.symm.trans hnamed.word
            exact .inl (by rw [hn])
          · exact .inr ⟨hlt, hnamed, hn⟩

/-- Directives are found one behind the other. -/
theorem pairwise_directivesFrom (hnames : Words names) (before : Text) {skip : Nat} (hskip : ∀ c ∈ s.take skip, c ≠ '@') :
    (directivesFrom names before.length skip before.getLast? s).Pairwise fun x y => x.1 < y.1 := by
  induction s generalizing before skip with
  | nil => exact .nil
  | cons c s ih =>
    have hbehind : ∀ {skip}, (∀ d ∈ s.take skip, d ≠ '@') →
        (directivesFrom names (before.length + 1) skip (some c) s).Pairwise (fun x y => x.1 < y.1) ∧
          ∀ x ∈ directivesFrom names (before.length + 1) skip (some c) s, before.length < x.1 := by
      intro skip hskip
      have h := ih (before ++ [c]) hskip
      have hmem : ∀ x : Nat × Nat × Text, x ∈ directivesFrom names _ skip _ s ↔ _ := fun x =>
        mem_directivesFrom hnames (before ++ [c]) hskip
      simp only [List.length_append, List.length_singleton, List.getLast?_concat] at h hmem
      exact ⟨h, fun x hx => ((hmem x).mp hx).1⟩
    cases skip with
    | succ skip => exact (hbehind fun d hd => hskip d (by simp [hd])).1
    | zero =>
      rw [directivesFrom]
      cases hfound : directiveAt? names before.getLast? (c :: s) with
      | none => exact (hbehind (by simp)).1
      | some found =>
        obtain ⟨hpairwise, hlater⟩ := hbehind (hnames.no_sign hfound)
        exact List.pairwise_cons.mpr ⟨hlater, hpairwise⟩

/-- **Names are whole words.**  At every offset of every text a directive of some names is read exactly if a single `@`
stands there and the word behind it is one of the names; it is read up to the end of this word.  Going over the whole text
finds all of them, each once and in the order in which they stand. -/
theorem directives_whole (names : List Text) (hne : names ≠ []) (hnames : ∀ name ∈ names, name ≠ [] ∧ IsWordName name)
    (t : Text) :
    (∀ offset name rest, directiveAt? (byLength names) (t.take offset).getLast? (t.drop offset) = some (name, rest) ↔
      NamedAt names t offset name ∧ rest = t.drop (offset + 1 + name.length)) ∧
    (∀ offset length name, (offset, length, name) ∈ directives names t ↔
      NamedAt names t offset name ∧ length = name.length + 1) ∧
    (directives names t).Pairwise fun x y => x.1 < y.1 := by
  have hwords : Words (byLength names) := Words.byLength hnames
  have hknown : ∀ {offset name}, NamedAt (byLength names) t offset name ↔ NamedAt names t offset name := fun {_ _} =>
    ⟨fun h => { h with known := mem_byLength.mp h.known }, fun h => { h with known := mem_byLength.mpr h.known }⟩
  have hwhole : directives names t = directivesFrom (byLength names) 0 0 none t := by
    rw [directives, if_neg (by simpa using hne)]
  refine ⟨fun offset name rest => ?_, fun offset length name => ?_, ?_⟩
  · by_cases hle : offset ≤ t.length
    · have h : directiveAt? (byLength names) (t.take offset).getLast? (t.drop offset) = some (name, rest) ↔ _ :=
        directiveAt?_iff_namedAt hwords (t.take offset) (t.drop offset)
      rwa [List.take_append_drop, List.length_take_of_le hle, hknown, List.drop_drop,
        show offset + (name.length + 1) = offset + 1 + name.length by omega] at h
    · rw [List.drop_eq_nil_of_le (by omega)]
      refine ⟨nofun, fun ⟨hnamed, _⟩ => ?_⟩
      have := (List.getElem?_eq_some_iff.mp hnamed.sign).1
      omega
  · rw [hwhole]
    have h : (offset, length, name) ∈ directivesFrom (byLength names) 0 0 none t ↔ _ :=
      mem_directivesFrom hwords [] (by simp)
    rw [List.nil_append, hknown] at h
    exact h.trans ⟨fun h => h.2, fun h => ⟨Nat.zero_le _, h⟩⟩
  · rw [hwhole]
    exact pairwise_directivesFrom hwords [] (by simp)

/-- Names of which one begins with another. -/
def nestedNames : List Text := ["if", "component", "componentSlot"]

/-- Each name is found only where it is the whole word, and not behind a doubled `@`. -/
theorem directives_whole_nested :
    (nestedNames ≠ [] ∧ ∀ name ∈ nestedNames, name ≠ [] ∧ IsWordName name) ∧
      ∀ offset length name, (offset, length, name) ∈ [(0, 14, "componentSlot".toList), (26, 3, "if".toList)] ↔
        NamedAt nestedNames "@componentSlot @@if @@@if @if @ifs" offset name ∧ length = name.length + 1 := by
  have hnames : ∀ name ∈ nestedNames, name ≠ [] ∧ IsWordName name := by
    have hall : (nestedNames.all fun name => !name.isEmpty && name.all Text.isWord) = true := by decide
    intro name hname
    have hname := List.all_eq_true.mp hall name hname
    simp only [Bool.and_eq_true, Bool.not_eq_true', List.isEmpty_eq_false_iff] at hname
    exact ⟨hname.1, List.all_eq_true.mp hname.2⟩
  have hne : nestedNames ≠ [] := List.cons_ne_nil _ _
  have hfound : directives nestedNames "@componentSlot @@if @@@if @if @ifs" =
      [(0, 14, "componentSlot".toList), (26, 3, "if".toList)] := by cbv
  have hwhole := (directives_whole nestedNames hne hnames "@componentSlot @@if @@@if @if @ifs").2.1
  rw [hfound] at hwhole
  exact ⟨⟨hne, hnames⟩, hwhole⟩

end Stencil.Markup
