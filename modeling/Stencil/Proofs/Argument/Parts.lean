import Stencil.Argument.Split
import Stencil.Proofs.Argument.Group
import Stencil.Proofs.Markup.Grammar
import Stencil.Proofs.Text.Split

/-!
# The parts of arguments

Splitting takes nothing but separators out of a text, so every argument is part of the group it stands in.  It cuts
between items only: a part is read as it was read in its place, and what is balanced falls into parts that are.

* `join_split` — the parts between separators, joined again, are the text.
* `isInfix_of_arguments` — an argument is part of the group; `after_inner` — where the group stands behind a name.
* `Balanced` — between parentheses a text is one whole group; `balanced_iff` — it is so exactly if it is items.
* `splitFrom_quote`, … — what splitting does with one character.
* `Single`, `single_splitFrom` — a part, split again from where it begins, is a single part.
* `splitFrom_literal`, `splitFrom_bracketed` — nothing is cut inside literals and brackets.
* `Items.of_split` — the parts of items are items; `Items.strip` — without the blanks around them they still are.
* `split_whole` — the parts are the text, each of them is a single part, and those of a balanced text are balanced.
-/

namespace Stencil

theorem Text.strip_isInfix (s : Text) : Text.strip s <:+: s := by
  have hleft : Text.stripLeft s <:+ s := List.dropWhile_suffix _
  have hright : Text.strip s <+: Text.stripLeft s := by
    have hsuffix := List.dropWhile_suffix Text.isBlank (l := (Text.stripLeft s).reverse)
    have hprefix := List.reverse_prefix.mpr hsuffix
    rwa [List.reverse_reverse] at hprefix
  exact hright.isInfix.trans hleft.isInfix

/-- Each of several texts is part of what they are joined to. -/
theorem Text.isInfix_join {separator part : Text} {parts : List Text} (h : part ∈ parts) :
    part <:+: Text.join separator parts := by
  induction parts with
  | nil => cases h
  | cons first rest ih =>
    cases rest with
    | nil =>
      obtain rfl := List.mem_singleton.mp h
      exact (Text.join_singleton separator part).symm ▸ List.infix_rfl
    | cons second rest =>
      rw [Text.join_cons_cons]
      rcases List.mem_cons.mp h with rfl | h
      · exact ⟨[], _, rfl⟩
      · exact (ih h).trans ⟨first ++ separator, [], by simp⟩

namespace Argument

variable {separator : Char} {s part inner rest : Text}

theorem glue_ne_nil (c : Char) (parts : List Text) : glue c parts ≠ [] := by
  cases parts <;> exact List.cons_ne_nil _ _

theorem splitFrom_ne_nil (separator : Char) (mode : Mode) (depth : Nat) (s : Text) :
    splitFrom separator mode depth s ≠ [] := by
  fun_cases splitFrom separator mode depth s <;> first | exact glue_ne_nil _ _ | exact List.cons_ne_nil _ _

theorem join_glue {c : Char} {parts : List Text} (h : Text.join [separator] parts = s) :
    Text.join [separator] (glue c parts) = c :: s := by
  subst h
  cases parts with
  | nil => rfl
  | cons part parts => cases parts <;> rfl

theorem join_splitFrom (separator : Char) (mode : Mode) (depth : Nat) (s : Text) :
    Text.join [separator] (splitFrom separator mode depth s) = s := by
  fun_induction splitFrom separator mode depth s with
  | case1 => rfl
  | case2 _ _ _ _ ih | case3 _ _ _ _ ih | case4 _ _ _ _ _ ih => exact join_glue ih
  | case5 => exact Text.join_singleton _ _
  | case6 _ _ _ _ _ ih | case7 _ _ _ _ _ _ ih => exact join_glue ih
  | case8 => exact join_glue (join_glue ‹_›)
  | case9 depth c _ _ _ hsame d s' _ ih =>
    obtain ⟨first, rest, hparts⟩ := List.exists_cons_of_ne_nil (splitFrom_ne_nil separator .outside 0 (d :: s'))
    rw [hparts] at ih ⊢
    rw [Text.join_cons_cons, ih, hsame.1]
    rfl
  | case10 _ c _ _ _ hsame => rw [hsame.1]; rfl
  | case11 _ _ _ _ _ _ _ ih => exact join_glue ih

/-- **Splitting.**  The parts of a text between separators, joined by the separator, are the text. -/
theorem join_split (separator : Char) (s : Text) : Text.join [separator] (split separator s) = s :=
  join_splitFrom separator .outside 0 s

theorem isInfix_of_split (h : part ∈ split separator s) : part <:+: s := by
  have hjoin : part <:+: Text.join [separator] (split separator s) := Text.isInfix_join h
  rwa [join_split] at hjoin

theorem isInfix_of_arguments (h : part ∈ arguments (some s)) : part <:+: s := by
  unfold arguments at h
  simp only at h
  split at h
  · cases h
  · obtain ⟨whole, hwhole, rfl⟩ := List.mem_map.mp h
    exact (Text.strip_isInfix whole).trans (isInfix_of_split hwhole)

/-- A group behind a name stands behind nothing but spaces and tabs. -/
theorem after_inner {use : Use} (h : after use s = .ok (some inner, rest)) :
    ∃ gap, (∀ c ∈ gap, isGap c) ∧ s = gap ++ '(' :: inner ++ ')' :: rest := by
  unfold after at h
  split at h
  · cases h
  · split at h
    case h_1 behind hdrop =>
      obtain ⟨⟨inner', rest'⟩, hgroup, hpair⟩ := map_eq_ok.mp h
      obtain ⟨hinner, rfl⟩ := Prod.mk.inj hpair
      obtain rfl := Option.some.inj hinner
      obtain ⟨rfl, -⟩ := Markup.group?_eq_ok hgroup
      refine ⟨s.takeWhile isGap, fun c hc => List.all_eq_true.mp List.all_takeWhile c hc, ?_⟩
      rw [List.append_assoc, List.cons_append, ← hdrop, List.takeWhile_append_dropWhile]
    · cases h

end Argument
end Stencil

/-! # Parts are whole -/

namespace Stencil.Argument

variable {separator quote c opener closer : Char} {mode : Mode} {depth : Nat} {s t part body inside : Text}
  {parts : List Text}

/-- Between parentheses a text is one whole group. -/
def Balanced (s : Text) : Prop := groupAt ('(' :: s ++ [')']) 0 = .ok (s, s.length + 2)

theorem balanced_iff : Balanced s ↔ Items s := by
  have hgroup : groupAt ('(' :: s ++ [')']) 0 = groupIn ('(' :: s ++ [')']) ('(' :: s ++ [')']) := groupAt_eq _ 0
  rw [Balanced, hgroup, groupIn]
  constructor
  · intro h
    split at h
    · cases h
    case h_2 inner rest hread =>
      obtain ⟨-, hbehind⟩ := Prod.mk.inj (Except.ok.inj h)
      simp only [List.length_append, List.length_cons, List.length_nil] at hbehind
      obtain rfl : rest = [] := List.eq_nil_of_length_eq_zero (by omega)
      obtain ⟨hinner, hwhole⟩ := group?_isGroup hread
      have hsame : s = inner := by simpa using hwhole
      exact hsame ▸ hinner
  · intro h
    have hbetween : Text.between ('(' :: s ++ [')']) ((1 : Nat) : Int) ((s.length + 1 : Nat) : Int) = s := by
      rw [between_eq (by omega) (by simp)]
      simp
    have hread := IsGroup.reads h []
    rw [hread]
    have hstart : (('(' :: s ++ [')']).length : Int) - ('(' :: s ++ [')']).length + 1 = ((1 : Nat) : Int) := by omega
    have hend : (('(' :: s ++ [')']).length : Int) - ([] : Text).length - 1 = ((s.length + 1 : Nat) : Int) := by
      simp
    have hbehind : (('(' :: s ++ [')']).length : Int) - ([] : Text).length = s.length + 2 := by
      simp
      omega
    dsimp only
    rw [hstart, hend, hbehind, hbetween]

/-! ## Steps of splitting -/

theorem splitFrom_nil : splitFrom separator mode depth [] = [[]] := by cases mode <;> rfl

theorem splitFrom_escaped : splitFrom separator (.escaped quote) depth (c :: s) =
    glue c (splitFrom separator (.inside quote) depth s) := rfl

theorem splitFrom_inside : splitFrom separator (.inside quote) depth (c :: s) =
    glue c (splitFrom separator (Mode.next quote c) depth s) := rfl

theorem splitFrom_outside : splitFrom separator .outside depth (c :: s) =
    if isQuote c then
      if closes c s then glue c (splitFrom separator (.inside c) depth s) else [c :: s]
    else if (closerOf? c).isSome then glue c (splitFrom separator .outside (depth + 1) s)
    else if isCloser c then glue c (splitFrom separator .outside (depth - 1) s)
    else if c = separator ∧ depth = 0 then
      match s with
      | d :: s' =>
        if c = '|' ∧ d = '|' then glue c (glue d (splitFrom separator .outside 0 s'))
        else [] :: splitFrom separator .outside 0 (d :: s')
      | [] => [[], []]
    else glue c (splitFrom separator .outside depth s) := by
  cases s <;> rfl

theorem splitFrom_quote (hquote : isQuote c) (h : closes c s) :
    splitFrom separator .outside depth (c :: s) = glue c (splitFrom separator (.inside c) depth s) := by
  rw [splitFrom_outside]
  simp [hquote, h]

/-- A quote that nothing closes swallows the rest of the text. -/
theorem splitFrom_unclosed (hquote : isQuote c) (h : ¬ closes c s) :
    splitFrom separator .outside depth (c :: s) = [c :: s] := by
  rw [splitFrom_outside]
  simp [hquote, h]

theorem splitFrom_opener (h : closerOf? opener = some closer) :
    splitFrom separator .outside depth (opener :: s) = glue opener (splitFrom separator .outside (depth + 1) s) := by
  rw [splitFrom_outside]
  simp [not_isQuote_of_closerOf? h, h]

theorem splitFrom_closer (hquote : isQuote c = false) (hopens : closerOf? c = none) (hcloses : isCloser c) :
    splitFrom separator .outside depth (c :: s) = glue c (splitFrom separator .outside (depth - 1) s) := by
  rw [splitFrom_outside]
  simp [hquote, hopens, hcloses]

theorem splitFrom_plain (hquote : isQuote c = false) (hopens : closerOf? c = none) (hcloses : isCloser c = false)
    (hother : ¬(c = separator ∧ depth = 0)) :
    splitFrom separator .outside depth (c :: s) = glue c (splitFrom separator .outside depth s) := by
  rw [splitFrom_outside]
  simp [hquote, hopens, hcloses, hother]

theorem splitFrom_doubled (s : Text) :
    splitFrom '|' .outside 0 ('|' :: '|' :: s) = glue '|' (glue '|' (splitFrom '|' .outside 0 s)) := rfl

/-- A separator cuts, unless it is the first half of a doubled one. -/
theorem splitFrom_cut (hquote : isQuote c = false) (hopens : closerOf? c = none) (hcloses : isCloser c = false)
    (h : ¬(c = '|' ∧ s.head? = some '|')) :
    splitFrom c .outside 0 (c :: s) = [] :: splitFrom c .outside 0 s := by
  rw [splitFrom_outside]
  cases s with
  | nil => simp [hquote, hopens, hcloses, splitFrom_nil]
  | cons d s =>
    rw [List.head?_cons, Option.some_inj] at h
    simp [hquote, hopens, hcloses, h]

/-! ## A part is a single part -/

theorem glue_eq_cons {parts' : List Text} (hparts : parts ≠ []) (h : glue c parts = part :: parts') :
    ∃ rest, part = c :: rest ∧ parts = rest :: parts' := by
  obtain ⟨first, more, rfl⟩ := List.exists_cons_of_ne_nil hparts
  obtain ⟨rfl, rfl⟩ := List.cons.inj h
  exact ⟨first, rfl, rfl⟩

theorem closes_cons (h : c ≠ '\\') : closes quote (c :: s) = (c == quote || closes quote s) := by
  rw [closes]
  · exact fun hslash _ => h hslash
  · exact fun _ _ hslash _ => h hslash

/-- A literal that is closed is closed in the part in which it was opened. -/
theorem closes_part (hcloses : closes quote s) (h : splitFrom separator (.inside quote) depth s = part :: parts) :
    closes quote part := by
  fun_induction closes quote s generalizing part parts with
  | case1 => cases hcloses
  | case2 => cases hcloses
  | case3 d s ih =>
    have hslash : Mode.next quote '\\' = .escaped quote := if_pos rfl
    rw [splitFrom_inside, hslash] at h
    obtain ⟨behind, rfl, hbehind⟩ := glue_eq_cons (splitFrom_ne_nil _ _ _ _) h
    rw [splitFrom_escaped] at hbehind
    obtain ⟨rest, rfl, hrest⟩ := glue_eq_cons (splitFrom_ne_nil _ _ _ _) hbehind
    have hclosed : closes quote rest := ih hcloses hrest
    exact hclosed
  | case4 c s hlone hescaped ih =>
    have hslash : c ≠ '\\' := by
      rintro rfl
      cases s with
      | nil => exact hlone rfl rfl
      | cons d s => exact hescaped d s rfl rfl
    rw [splitFrom_inside] at h
    obtain ⟨rest, rfl, hrest⟩ := glue_eq_cons (splitFrom_ne_nil _ _ _ _) h
    rw [closes_cons hslash]
    by_cases hsame : c = quote
    · simp [hsame]
    · rw [Mode.next, if_neg hslash, if_neg hsame] at hrest
      simp only [hsame, beq_iff_eq, Bool.or_eq_true, false_or] at hcloses ⊢
      exact ih hcloses hrest

/-- Of parts that begin in the given mode the first, read from where it is, and every other one are single parts. -/
def Single (separator : Char) (mode : Mode) (depth : Nat) (parts : List Text) : Prop :=
  ∀ first more, parts = first :: more →
    splitFrom separator mode depth first = [first] ∧ ∀ other ∈ more, split separator other = [other]

/-- A step that puts its character before the first part does so in this part as well. -/
theorem Single.glue {mode' : Mode} {depth' : Nat} (hs : parts ≠ []) (h : Single separator mode' depth' parts)
    (hstep : ∀ first more, parts = first :: more →
      splitFrom separator mode depth (c :: first) = glue c (splitFrom separator mode' depth' first)) :
    Single separator mode depth (glue c parts) := by
  intro part more hglue
  obtain ⟨first, rfl, hparts⟩ := glue_eq_cons hs hglue
  obtain ⟨hfirst, hmore⟩ := h first more hparts
  refine ⟨?_, hmore⟩
  rw [hstep first more hparts, hfirst]
  rfl

/-- The first part, read from where the text is, and every other part are single parts. -/
theorem single_splitFrom (separator : Char) (mode : Mode) (depth : Nat) (s : Text) :
    Single separator mode depth (splitFrom separator mode depth s) := by
  -- the recursion of the splitter
  fun_induction splitFrom separator mode depth s with
  | case1 mode depth =>
    rintro _ _ ⟨⟩
    exact ⟨splitFrom_nil, List.forall_mem_nil _⟩
  | case2 q depth c s ih => exact ih.glue (splitFrom_ne_nil _ _ _ _) fun _ _ _ => splitFrom_escaped
  | case3 q depth c s ih => exact ih.glue (splitFrom_ne_nil _ _ _ _) fun _ _ _ => splitFrom_inside
  | case4 depth c s hquote hcloses ih =>
    exact ih.glue (splitFrom_ne_nil _ _ _ _) fun _ _ hparts => splitFrom_quote hquote (closes_part hcloses hparts)
  | case5 depth c s hquote hopen =>
    rintro _ _ ⟨⟩
    exact ⟨splitFrom_unclosed hquote hopen, List.forall_mem_nil _⟩
  | case6 depth c s hquote hopener ih =>
    obtain ⟨closer, hopener⟩ := Option.isSome_iff_exists.mp hopener
    exact ih.glue (splitFrom_ne_nil _ _ _ _) fun _ _ _ => splitFrom_opener hopener
  | case7 depth c s hquote hopener hcloser ih =>
    exact ih.glue (splitFrom_ne_nil _ _ _ _) fun _ _ _ =>
      splitFrom_closer (by simpa using hquote) (by simpa using hopener) hcloser
  | case8 depth c _ _ _ hsame d s hdoubled ih =>
    -- two characters at once: the first part begins with both
    obtain ⟨⟨rfl, rfl⟩, rfl, rfl⟩ := hsame, hdoubled
    intro part more hglue
    obtain ⟨behind, rfl, hbehind⟩ := glue_eq_cons (glue_ne_nil _ _) hglue
    obtain ⟨first, rfl, hparts⟩ := glue_eq_cons (splitFrom_ne_nil _ _ _ _) hbehind
    obtain ⟨hfirst, hmore⟩ := ih first more hparts
    refine ⟨?_, hmore⟩
    rw [splitFrom_doubled, hfirst]
    rfl
  | case9 depth c _ _ _ _ d s _ ih =>
    rintro _ _ ⟨⟩
    obtain ⟨first, more, hparts⟩ := List.exists_cons_of_ne_nil (splitFrom_ne_nil separator .outside 0 (d :: s))
    refine ⟨splitFrom_nil, ?_⟩
    rw [hparts]
    exact List.forall_mem_cons.mpr (ih first more hparts)
  | case10 depth c =>
    rintro _ _ ⟨⟩
    exact ⟨splitFrom_nil, List.forall_mem_singleton.mpr rfl⟩
  | case11 depth c s hquote hopener hcloser hother ih =>
    exact ih.glue (splitFrom_ne_nil _ _ _ _) fun _ _ _ =>
      splitFrom_plain (by simpa using hquote) (by simpa using hopener) (by simpa using hcloser) hother

theorem split_part (h : part ∈ split separator s) : split separator part = [part] := by
  obtain ⟨first, more, hparts⟩ := List.exists_cons_of_ne_nil (splitFrom_ne_nil separator .outside 0 s)
  obtain ⟨hfirst, hmore⟩ := single_splitFrom separator .outside 0 s first more hparts
  rw [split, hparts] at h
  rcases List.mem_cons.mp h with rfl | h
  · exact hfirst
  · exact hmore part h

/-! ## Parts of items -/

theorem foldr_glue (t part : Text) (parts : List Text) : t.foldr glue (part :: parts) = (t ++ part) :: parts := by
  induction t with
  | nil => rfl
  | cons c t ih =>
    rw [List.foldr_cons, ih]
    rfl

/-- What is put in front of parts changes the first one only. -/
theorem forall_mem_foldr_glue {P : Text → Prop} (hparts : parts ≠ []) (hfirst : ∀ part, P part → P (t ++ part))
    (h : ∀ part ∈ parts, P part) : ∀ part ∈ t.foldr glue parts, P part := by
  obtain ⟨first, more, rfl⟩ := List.exists_cons_of_ne_nil hparts
  obtain ⟨hone, hmore⟩ := List.forall_mem_cons.mp h
  rw [foldr_glue]
  exact List.forall_mem_cons.mpr ⟨hfirst first hone, hmore⟩

theorem LiteralBody.closes (hslash : quote ≠ '\\') (h : LiteralBody quote body) : closes quote (body ++ quote :: s) := by
  induction h with
  | nil => simp [closes_cons hslash]
  | escaped _ ih => exact ih
  | plain _ hplain _ ih => simp [closes_cons hplain, ih]

/-- Nothing is cut inside a literal. -/
theorem splitFrom_literal (hquote : isQuote quote) (hbody : LiteralBody quote body) :
    splitFrom separator .outside depth (quote :: body ++ quote :: s) =
      (quote :: body ++ [quote]).foldr glue (splitFrom separator .outside depth s) := by
  have hslash := ne_backslash_of_isQuote hquote
  have hcloses : closes quote (body ++ quote :: s) := hbody.closes hslash
  have hinside : splitFrom separator (.inside quote) depth (body ++ quote :: s) =
      (body ++ [quote]).foldr glue (splitFrom separator .outside depth s) := by
    clear hcloses
    induction hbody with
    | nil => simp [splitFrom_inside, Mode.next, hslash]
    | escaped _ ih => simp [splitFrom_inside, splitFrom_escaped, Mode.next, ih]
    | plain hother hplain _ ih => simp [splitFrom_inside, Mode.next, hother, hplain, ih]
  rw [List.cons_append, splitFrom_quote hquote hcloses, hinside]
  rfl

/-- Nothing is cut inside brackets. -/
theorem Items.splitFrom_nested (ht : Items t) :
    splitFrom separator .outside (depth + 1) (t ++ s) = t.foldr glue (splitFrom separator .outside (depth + 1) s) := by
  induction ht generalizing depth s with
  | nil => rfl
  | @literal quote body t hquote hbody _ ih =>
    have hwhole : quote :: body ++ quote :: t ++ s = quote :: body ++ quote :: (t ++ s) := by simp
    rw [hwhole, splitFrom_literal hquote hbody, ih]
    simp
  | @bracketed opener closer inside t hopener _ _ ihInside ih =>
    have hwhole : opener :: inside ++ closer :: t ++ s = opener :: (inside ++ closer :: (t ++ s)) := by simp
    obtain ⟨hquote, hopens, hcloses⟩ := closer_of_closerOf? hopener
    rw [hwhole, splitFrom_opener hopener, ihInside, splitFrom_closer hquote hopens hcloses, Nat.add_sub_cancel, ih]
    simp
  | plain hquote hopens hcloses _ ih =>
    rw [List.cons_append, splitFrom_plain hquote hopens hcloses (fun h => Nat.succ_ne_zero _ h.2), ih]
    rfl

theorem splitFrom_bracketed (h : closerOf? opener = some closer) (hinside : Items inside) :
    splitFrom separator .outside depth (opener :: inside ++ closer :: s) =
      (opener :: inside ++ [closer]).foldr glue (splitFrom separator .outside depth s) := by
  obtain ⟨hquote, hopens, hcloses⟩ := closer_of_closerOf? h
  rw [List.cons_append, splitFrom_opener h, hinside.splitFrom_nested, splitFrom_closer hquote hopens hcloses]
  simp

theorem Items.of_plain (hquote : isQuote c = false) (hopens : closerOf? c = none) (h : Items (c :: s)) : Items s := by
  cases h with
  | literal hq => rw [hquote] at hq; cases hq
  | bracketed ho => rw [hopens] at ho; cases ho
  | plain _ _ _ hs => exact hs

/-- The parts of items between separators that are neither quotes nor brackets are items. -/
theorem Items.of_split (hquote : isQuote separator = false) (hopens : closerOf? separator = none)
    (hcloses : isCloser separator = false) (hs : Items s) : ∀ part ∈ split separator s, Items part := by
  unfold split
  -- on the length, since a doubled `|` takes two characters at once
  induction hlength : s.length using Nat.strongRecOn generalizing s with
  | _ n ih =>
    subst hlength
    cases hs with
    | nil =>
      rw [splitFrom_nil]
      exact List.forall_mem_singleton.mpr .nil
    | @literal q body t hq hbody ht =>
      rw [splitFrom_literal hq hbody]
      refine forall_mem_foldr_glue (splitFrom_ne_nil _ _ _ _) (fun part hpart => ?_) (ih _ (by simp; omega) ht rfl)
      simpa using Items.literal hq hbody hpart
    | @bracketed opener closer inside t hopener hinside ht =>
      rw [splitFrom_bracketed hopener hinside]
      refine forall_mem_foldr_glue (splitFrom_ne_nil _ _ _ _) (fun part hpart => ?_) (ih _ (by simp; omega) ht rfl)
      simpa using Items.bracketed hopener hinside hpart
    | @plain c t hq ho hc ht =>
      have hplain : ∀ part, Items part → Items ([c] ++ part) := fun part => .plain hq ho hc
      by_cases hsame : c = separator
      · subst hsame
        by_cases hdoubled : c = '|' ∧ t.head? = some '|'
        · obtain ⟨rfl, hhead⟩ := hdoubled
          obtain ⟨t, rfl⟩ := List.head?_eq_some_iff.mp hhead
          rw [splitFrom_doubled]
          exact forall_mem_foldr_glue (t := ['|', '|']) (splitFrom_ne_nil _ _ _ _)
            (fun part hpart => hplain _ (hplain _ hpart)) (ih _ (by simp only [List.length_cons]; omega) (ht.of_plain hq ho) rfl)
        · rw [splitFrom_cut hq ho hc hdoubled]
          exact List.forall_mem_cons.mpr ⟨.nil, ih _ (by simp) ht rfl⟩
      · rw [splitFrom_plain hq ho hc (fun h => hsame h.1)]
        exact forall_mem_foldr_glue (t := [c]) (splitFrom_ne_nil _ _ _ _) hplain (ih _ (by simp) ht rfl)

/-! ## Items without the blanks around them -/

/-- A blank is neither a quote nor a bracket. -/
theorem plain_of_isBlank (h : Text.isBlank c) : isQuote c = false ∧ closerOf? c = none ∧ isCloser c = false := by
  have hother : ∀ d, Text.isBlank d = false → c ≠ d := by
    rintro d hd rfl
    rw [hd] at h
    cases h
  refine ⟨?_, ?_, ?_⟩
  · simp [isQuote, hother '\'' (by decide), hother '"' (by decide), hother '`' (by decide)]
  · have hround := hother '(' (by decide)
    have hsquare := hother '[' (by decide)
    have hcurly := hother '{' (by decide)
    unfold closerOf?
    split
    iterate 3 contradiction
    rfl
  · simp [isCloser, hother ')' (by decide), hother ']' (by decide), hother '}' (by decide)]

/-- What ends a text ends the rest of it, too, if it does not end what stands in front of the rest. -/
theorem exists_concat_of_append {front : Text} (h : s ++ [c] = front ++ t) (hfront : front.getLast? ≠ some c) :
    ∃ rest, t = rest ++ [c] ∧ s = front ++ rest := by
  rcases List.append_eq_append_iff.mp h with ⟨more, rfl, hmore⟩ | ⟨rest, rfl, rfl⟩
  · rcases List.singleton_eq_append_iff.mp hmore with ⟨rfl, rfl⟩ | ⟨rfl, rfl⟩
    · exact ⟨[], rfl, by simp⟩
    · exact absurd (by simp) hfront
  · exact ⟨rest, rfl, rfl⟩

theorem Items.of_append_blank (hblank : Text.isBlank c) (h : Items (s ++ [c])) : Items s := by
  obtain ⟨hquote, hopens, hcloses⟩ := plain_of_isBlank hblank
  generalize hwhole : s ++ [c] = whole at h
  -- neither a literal nor a bracketed item ends with the blank
  induction h generalizing s with
  | nil => cases s <;> cases hwhole
  | @literal q body t hq hbody ht ih =>
    have hsplit : s ++ [c] = (q :: body ++ [q]) ++ t := by simp [hwhole]
    have hends : (q :: body ++ [q]).getLast? ≠ some c := by
      rw [List.getLast?_concat]
      rintro ⟨rfl⟩
      rw [hq] at hquote
      cases hquote
    obtain ⟨rest, rfl, rfl⟩ := exists_concat_of_append hsplit hends
    simpa using Items.literal hq hbody (ih rfl)
  | @bracketed opener closer inside t hopener hinside ht _ ih =>
    have hsplit : s ++ [c] = (opener :: inside ++ [closer]) ++ t := by simp [hwhole]
    have hends : (opener :: inside ++ [closer]).getLast? ≠ some c := by
      rw [List.getLast?_concat]
      rintro ⟨rfl⟩
      rw [(closer_of_closerOf? hopener).2.2] at hcloses
      cases hcloses
    obtain ⟨rest, rfl, rfl⟩ := exists_concat_of_append hsplit hends
    simpa using Items.bracketed hopener hinside (ih rfl)
  | @plain d t hq ho hc ht ih =>
    cases s with
    | nil => exact .nil
    | cons e s =>
      obtain ⟨rfl, hrest⟩ := List.cons.inj hwhole
      exact .plain hq ho hc (ih hrest)

theorem Items.strip (h : Items s) : Items (Text.strip s) := by
  have hleft : ∀ {s : Text}, Items s → Items (Text.stripLeft s) := by
    intro s hs
    unfold Text.stripLeft
    induction s with
    | nil => exact hs
    | cons c s ih =>
      rw [List.dropWhile_cons]
      split
      case isTrue hblank =>
        obtain ⟨hquote, hopens, -⟩ := plain_of_isBlank hblank
        exact ih (hs.of_plain hquote hopens)
      case isFalse => exact hs
  have hright : ∀ {t : Text}, Items t.reverse → Items (t.dropWhile Text.isBlank).reverse := by
    intro t ht
    induction t with
    | nil => exact ht
    | cons c t ih =>
      rw [List.dropWhile_cons]
      split
      case isTrue hblank =>
        rw [List.reverse_cons] at ht
        exact ih (ht.of_append_blank hblank)
      case isFalse => exact ht
  rw [Text.strip, Text.stripRight]
  refine hright ?_
  rw [List.reverse_reverse]
  exact hleft h

/-! ## Arguments -/

/-- The arguments of a balanced text are balanced. -/
theorem Items.of_arguments (hs : Items s) : ∀ argument ∈ arguments (some s), Items argument := by
  intro argument hargument
  unfold arguments at hargument
  dsimp only at hargument
  split at hargument
  · cases hargument
  · obtain ⟨part, hpart, rfl⟩ := List.mem_map.mp hargument
    exact (hs.of_split (by decide) (by decide) (by decide) part hpart).strip

theorem after_items {use : Use} {inner rest : Text} (h : after use s = .ok (some inner, rest)) : Items inner := by
  unfold after at h
  split at h
  · cases h
  · split at h
    case h_1 =>
      obtain ⟨⟨inner', rest'⟩, hgroup, hpair⟩ := map_eq_ok.mp h
      obtain ⟨hinner, -⟩ := Prod.mk.inj hpair
      obtain rfl := Option.some.inj hinner
      exact (group?_isGroup hgroup).1
    · cases h

/-- **Parts.**  The parts of a text, joined by the separator, are the text, and each of them, split again, is a single
part.  A separator that is neither a quote nor a bracket takes a balanced text apart into balanced ones; so every argument
in the group of a directive is balanced. -/
theorem split_whole (separator : Char) (s : Text) :
    Text.join [separator] (split separator s) = s ∧
    (∀ part ∈ split separator s, split separator part = [part]) ∧
    (isQuote separator = false → closerOf? separator = none → isCloser separator = false → Balanced s →
      ∀ part ∈ split separator s, Balanced part) ∧
    (∀ use behind rest, after use behind = .ok (some s, rest) → ∀ argument ∈ arguments (some s), Balanced argument) := by
  refine ⟨join_split separator s, fun part hpart => split_part hpart, ?_, ?_⟩
  · intro hquote hopens hcloses hs part hpart
    exact balanced_iff.mpr ((balanced_iff.mp hs).of_split hquote hopens hcloses part hpart)
  · intro use behind rest hafter argument hargument
    exact balanced_iff.mpr ((after_items hafter).of_arguments argument hargument)

/-- A comma inside a bracket and inside a literal, and blanks around the arguments. -/
theorem split_whole_call :
    split ',' "f(1, 2), [','] " = ["f(1, 2)".toList, " [','] ".toList] ∧
    Balanced "f(1, 2)" ∧
    arguments (some "f(1, 2), [','] ") = ["f(1, 2)".toList, "[',']".toList] ∧
    Balanced "[',']" := by
  have hsplit : split ',' "f(1, 2), [','] " = ["f(1, 2)".toList, " [','] ".toList] := by cbv
  have harguments : arguments (some "f(1, 2), [','] ") = ["f(1, 2)".toList, "[',']".toList] := by cbv
  have hafter : after .required "(f(1, 2), [','] )" = .ok (some "f(1, 2), [','] ".toList, []) := rfl
  have hwhole : Balanced "f(1, 2), [','] " := balanced_iff.mpr (after_items hafter)
  obtain ⟨-, -, hparts, hdirective⟩ := split_whole ',' "f(1, 2), [','] "
  refine ⟨hsplit, hparts rfl rfl rfl hwhole _ ?_, harguments, hdirective _ _ _ hafter _ ?_⟩
  · rw [hsplit]
    exact List.mem_cons_self
  · rw [harguments]
    exact List.mem_cons_of_mem _ List.mem_cons_self

end Stencil.Argument
