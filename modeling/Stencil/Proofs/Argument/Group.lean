import Stencil.Argument.Position
import Stencil.Proofs.Markup.Grammar

/-!
# The grammar of groups

* `LiteralBody`, `Items`, `IsGroup` — what stands inside a literal, between two brackets, and a whole group.
* `Items.reads` — the reader goes through whole items; `items_closes` — what it goes through is items, up to the
  closers that it waited for.
* `group?_isGroup`, `IsGroup.reads` — the reader takes groups, and it takes every group.
* `groupAt_takes_group` — at every position of every text it takes the one group that begins there, if there is one.
-/

namespace Stencil.Argument

/-! ## The grammar -/

/-- What stands between the quotes of a literal: escaped pairs, and characters that are neither the quote nor a
backslash. -/
inductive LiteralBody (quote : Char) : Text → Prop
  | nil : LiteralBody quote []
  | escaped {c : Char} {s : Text} : LiteralBody quote s → LiteralBody quote ('\\' :: c :: s)
  | plain {c : Char} {s : Text} : c ≠ quote → c ≠ '\\' → LiteralBody quote s → LiteralBody quote (c :: s)

/-- Items, one behind the other: literals, bracketed items, and single characters. -/
inductive Items : Text → Prop
  | nil : Items []
  | literal {quote : Char} {body s : Text} : isQuote quote → LiteralBody quote body → Items s →
    Items (quote :: body ++ quote :: s)
  | bracketed {opener closer : Char} {inner s : Text} : closerOf? opener = some closer → Items inner → Items s →
    Items (opener :: inner ++ closer :: s)
  | plain {c : Char} {s : Text} : isQuote c = false → closerOf? c = none → isCloser c = false → Items s →
    Items (c :: s)

/-- Items between parentheses. -/
inductive IsGroup : Text → Prop
  | intro {inner : Text} : Items inner → IsGroup ('(' :: inner ++ [')'])

variable {quote c last opener closer : Char} {closers : List Char} {s t body inner rest : Text}

/-! ## Every group is read -/

theorem ne_backslash_of_isQuote (h : isQuote quote) : quote ≠ '\\' := by
  rintro rfl
  exact absurd h (by decide)

/-- A bracket that closes another one is neither a quote nor does it open anything. -/
theorem closer_of_closerOf? (h : closerOf? opener = some closer) :
    isQuote closer = false ∧ closerOf? closer = none ∧ isCloser closer := by
  unfold closerOf? at h
  split at h <;> cases h <;> decide

theorem not_isQuote_of_closerOf? (h : closerOf? opener = some closer) : isQuote opener = false := by
  unfold closerOf? at h
  split at h
  iterate 3 decide
  cases h

theorem items_quote (h : isQuote quote) :
    items .outside closers (quote :: s) = before quote (items (.inside quote) closers s) := by
  simp only [items, h, if_true]

theorem items_opener (h : closerOf? opener = some closer) :
    items .outside closers (opener :: s) = before opener (items .outside (closer :: closers) s) := by
  simp [items, not_isQuote_of_closerOf? h, h]

theorem items_closer (h : closerOf? opener = some closer) (hopen : closers ≠ []) :
    items .outside (closer :: closers) (closer :: s) = before closer (items .outside closers s) := by
  obtain ⟨hquote, hopens, hcloses⟩ := closer_of_closerOf? h
  simp [items, hquote, hopens, hcloses, hopen]

theorem items_plain (hquote : isQuote c = false) (hopens : closerOf? c = none) (hcloses : isCloser c = false) :
    items .outside closers (c :: s) = before c (items .outside closers s) := by
  simp [items, hquote, hopens, hcloses]

/-- A literal is read to its end. -/
theorem LiteralBody.reads (hquote : isQuote quote) (hbody : LiteralBody quote body)
    (h : items .outside closers s = .ok (inner, rest)) :
    items (.inside quote) closers (body ++ quote :: s) = .ok (body ++ quote :: inner, rest) := by
  induction hbody with
  | nil => simp [items, Mode.next, ne_backslash_of_isQuote hquote, h, before, Except.map]
  | escaped _ ih => simp [items, Mode.next, ih, before, Except.map]
  | plain hother hslash _ ih => simp [items, Mode.next, hother, hslash, ih, before, Except.map]

/-- Whole items are read through, whatever brackets are open around them. -/
theorem Items.reads (ht : Items t) (hopen : closers ≠ []) (h : items .outside closers s = .ok (inner, rest)) :
    items .outside closers (t ++ s) = .ok (t ++ inner, rest) := by
  induction ht generalizing closers s inner with
  | nil => exact h
  | @literal quote body t hquote hbody _ ih =>
    have hread := hbody.reads hquote (ih hopen h)
    rw [List.cons_append, List.cons_append, List.append_assoc, List.cons_append, items_quote hquote, hread]
    simp [before, Except.map]
  | @bracketed opener closer inside t hopener _ _ ihInside ih =>
    have hbehind : items .outside (closer :: closers) (closer :: (t ++ s)) = .ok (closer :: (t ++ inner), rest) := by
      rw [items_closer hopener hopen, ih hopen h]
      rfl
    have hread := ihInside (List.cons_ne_nil _ _) hbehind
    rw [List.cons_append, List.cons_append, List.append_assoc, List.cons_append, items_opener hopener, hread]
    simp [before, Except.map]
  | plain hquote hopens hcloses _ ih =>
    rw [List.cons_append, items_plain hquote hopens hcloses, ih hopen h]
    rfl

/-- A group is taken as a whole, and what follows it is left. -/
theorem IsGroup.reads (h : Items inner) (rest : Text) : group? ('(' :: inner ++ ')' :: rest) = .ok (inner, rest) := by
  have hlast : items .outside [')'] (')' :: rest) = .ok ([], rest) := rfl
  have hread := h.reads (List.cons_ne_nil _ _) hlast
  rwa [List.append_nil] at hread

/-! ## Nothing else is read -/

/-- What closes the open brackets, innermost first: items before each closer; the last closer is left out. -/
inductive Closes : List Char → Text → Prop
  | last {closer : Char} {s : Text} : Items s → Closes [closer] s
  | outer {closer : Char} {closers : List Char} {s t : Text} : Items s → Closes closers t →
    Closes (closer :: closers) (s ++ closer :: t)

/-- What may stand before items may stand before what closes the open brackets. -/
theorem Closes.prepend {p : Text} (hp : ∀ s, Items s → Items (p ++ s)) (h : Closes closers t) :
    Closes closers (p ++ t) := by
  cases h with
  | last hs => exact .last (hp _ hs)
  | outer hs ht =>
    rw [← List.append_assoc]
    exact .outer (hp _ hs) ht

theorem Closes.opened (hopener : closerOf? opener = some closer) (hopen : closers ≠ [])
    (h : Closes (closer :: closers) t) : Closes closers (opener :: t) := by
  cases h with
  | last => exact absurd rfl hopen
  | @outer _ _ inside t hinside ht =>
    have hitem : ∀ s, Items s → Items ((opener :: inside ++ [closer]) ++ s) := fun s hs => by
      rw [List.append_assoc]
      exact .bracketed hopener hinside hs
    simpa using ht.prepend hitem

/-- What closes the open brackets from where a reader stands: inside a literal, the rest of it comes first. -/
def ClosesFrom (closers : List Char) : Mode → Text → Prop
  | .outside, t => Closes closers t
  | .inside quote, t => ∃ body t', t = body ++ quote :: t' ∧ LiteralBody quote body ∧ Closes closers t'
  | .escaped quote, t => ∃ c body t', t = c :: body ++ quote :: t' ∧ LiteralBody quote body ∧ Closes closers t'

theorem ClosesFrom.step (h : ClosesFrom closers (Mode.next quote c) t) :
    ClosesFrom closers (.inside quote) (c :: t) := by
  unfold Mode.next at h
  split at h
  case isTrue hslash =>
    obtain ⟨d, body, t', rfl, hbody, ht⟩ := h
    exact ⟨c :: d :: body, t', rfl, hslash ▸ .escaped hbody, ht⟩
  case isFalse hslash =>
    split at h
    case isTrue hsame => exact ⟨[], t, by rw [hsame]; rfl, .nil, h⟩
    case isFalse hother =>
      obtain ⟨body, t', rfl, hbody, ht⟩ := h
      exact ⟨c :: body, t', rfl, .plain hother hslash hbody, ht⟩

theorem Closes.quoted (hquote : isQuote quote) (h : ClosesFrom closers (.inside quote) t) :
    Closes closers (quote :: t) := by
  obtain ⟨body, t, rfl, hbody, ht⟩ := h
  have hitem : ∀ s, Items s → Items ((quote :: body ++ [quote]) ++ s) := fun s hs => by
    rw [List.append_assoc]
    exact .literal hquote hbody hs
  simpa using ht.prepend hitem

/-- What the reader goes through closes the brackets that were open. -/
theorem items_closes {mode : Mode} (hopen : closers ≠ []) (h : items mode closers s = .ok (inner, rest)) :
    ClosesFrom closers mode inner := by
  -- the recursion of the reader; a step puts its character before what the rest of the reading closes
  fun_induction items mode closers s generalizing inner with
  | case1 => cases h
  | case2 => cases h
  | case3 quote closers c s ih =>
    obtain ⟨inner', h', rfl⟩ := Markup.before_eq_ok.mp h
    obtain ⟨body, t, rfl, hbody, ht⟩ := ih hopen h'
    exact ⟨c, body, t, rfl, hbody, ht⟩
  | case4 quote closers c s ih =>
    obtain ⟨inner', h', rfl⟩ := Markup.before_eq_ok.mp h
    exact (ih hopen h').step
  | case5 closers c s hquote ih =>
    obtain ⟨inner', h', rfl⟩ := Markup.before_eq_ok.mp h
    exact Closes.quoted hquote (ih hopen h')
  | case6 closers c s hquote closer hopener ih =>
    obtain ⟨inner', h', rfl⟩ := Markup.before_eq_ok.mp h
    exact Closes.opened hopener hopen (ih (List.cons_ne_nil _ _) h')
  | case7 => cases h
  | case8 => cases h
  | case9 c s hquote hopener hcloser closer outer hsame hempty =>
    obtain rfl : outer = [] := List.isEmpty_iff.mp hempty
    obtain ⟨rfl, -⟩ := Prod.mk.inj (Except.ok.inj h)
    exact .last .nil
  | case10 c s hquote hopener hcloser closer outer hsame hempty ih =>
    obtain rfl : c = closer := by simpa using hsame
    obtain ⟨inner', h', rfl⟩ := Markup.before_eq_ok.mp h
    have houter : outer ≠ [] := fun hnil => hempty (List.isEmpty_iff.mpr hnil)
    exact .outer .nil (ih houter h')
  | case11 closers c s hquote hopener hcloser ih =>
    obtain ⟨inner', h', rfl⟩ := Markup.before_eq_ok.mp h
    have hplain : ∀ s, Items s → Items ([c] ++ s) := fun s hs =>
      .plain (by simpa using hquote) hopener (by simpa using hcloser) hs
    exact (ih hopen h').prepend hplain

/-- The reader takes a group from the head of a text. -/
theorem group?_isGroup (h : group? s = .ok (inner, rest)) : Items inner ∧ s = '(' :: inner ++ ')' :: rest := by
  unfold group? at h
  split at h
  · refine ⟨?_, congrArg _ (Markup.group?_eq_ok h).1⟩
    cases items_closes (List.cons_ne_nil _ _) h with
    | last hs => exact hs
    | outer _ hnone => cases hnone
  · cases h

/-! ## Groups at positions -/

/-- A group stands in a text from one position to another. -/
def Encloses (s : Text) (start stop : Nat) : Prop := stop ≤ s.length ∧ IsGroup (s.between start stop)

theorem between_eq {start stop : Nat} (h : start ≤ stop) (hstop : stop ≤ s.length) :
    s.between start stop = (s.take stop).drop start := by
  have hplace : ∀ p : Nat, p ≤ s.length → s.place p = p := fun p hp => by
    simp only [Text.place, Int.not_lt.mpr (Int.natCast_nonneg p), if_false, Int.toNat_natCast, Nat.min_eq_left hp]
  rw [Text.between, hplace start (Nat.le_trans h hstop), hplace stop hstop]

/-- A position from which a group stands, and what stands from there on: the group and what follows it. -/
theorem Encloses.split {start stop : Nat} (h : Encloses s start stop) :
    ∃ inner, Items inner ∧ start + inner.length + 2 = stop ∧ s.between start stop = '(' :: inner ++ [')'] ∧
      s.drop start = '(' :: inner ++ ')' :: s.drop stop := by
  obtain ⟨hstop, hgroup⟩ := h
  have hle : start ≤ stop := by
    rcases Nat.le_total start stop with hle | hge
    · exact hle
    · have hplace : s.place stop ≤ s.place start := by simp only [Text.place]; omega
      have hnil : s.between start stop = [] :=
        List.drop_eq_nil_of_le (Nat.le_trans (List.length_take_le _ _) hplace)
      rw [hnil] at hgroup
      cases hgroup
  have hbetween := between_eq hle hstop
  generalize hpart : s.between start stop = part at hgroup
  obtain ⟨hinner⟩ := hgroup
  rename_i inner
  rw [hpart] at hbetween
  have hlength := congrArg List.length hbetween
  simp only [List.length_append, List.length_cons, List.length_nil, List.length_drop, List.length_take] at hlength
  refine ⟨inner, hinner, by omega, rfl, ?_⟩
  have hsplit : (s.take stop ++ s.drop stop).drop start = (s.take stop).drop start ++ s.drop stop :=
    List.drop_append_of_le_length (by simp only [List.length_take]; omega)
  rw [List.take_append_drop, ← hbetween] at hsplit
  rw [hsplit]
  simp

theorem groupAt_eq (s : Text) (start : Nat) : groupAt s start = groupIn s (s.drop start) := by
  have hstart : (0 : Int) ≤ start := Int.natCast_nonneg start
  simp only [groupAt, viewAt, Text.viewFrom, hstart, if_true, Int.toNat_natCast]
  rfl

/-- At a position from which a group stands the reader takes it. -/
theorem groupAt_of_encloses {start stop : Nat} (h : Encloses s start stop) :
    groupAt s start = .ok (s.between (start + 1) (stop - 1), stop) := by
  obtain ⟨inner, hinner, hlength, -, hdrop⟩ := h.split
  have hstart : start ≤ s.length := by have := h.1; omega
  have hview : ((s.drop start).length : Int) = s.length - start := by
    rw [List.length_drop]
    omega
  have hrest : ((s.drop stop).length : Int) = s.length - stop := by
    have := h.1
    rw [List.length_drop]
    omega
  have hread := IsGroup.reads hinner (s.drop stop)
  rw [← hdrop] at hread
  rw [groupAt_eq, groupIn, hread]
  simp only [hview, hrest, Int.sub_sub_self]

theorem encloses_of_group? {start : Nat} (h : group? (s.drop start) = .ok (inner, rest)) :
    ∃ stop, Encloses s start stop := by
  obtain ⟨hinner, hdrop⟩ := group?_isGroup h
  have hlength := congrArg List.length hdrop
  simp only [List.length_drop, List.length_append, List.length_cons] at hlength
  have hstop : start + inner.length + 2 ≤ s.length := by omega
  refine ⟨start + inner.length + 2, hstop, ?_⟩
  rw [between_eq (by omega) hstop, List.drop_take, hdrop]
  have htake : start + inner.length + 2 - start = ('(' :: inner ++ [')']).length := by simp; omega
  have hgroup : '(' :: inner ++ ')' :: rest = '(' :: inner ++ [')'] ++ rest := by simp
  rw [htake, hgroup, List.take_left]
  exact .intro hinner

theorem Encloses.of_take {start stop : Nat} (h : Encloses s start stop) (t : Text) :
    Encloses (s.take stop ++ t) start stop := by
  obtain ⟨inner, hinner, hlength, hbetween, -⟩ := h.split
  have htake : (s.take stop).length = stop := by simp [h.1]
  refine ⟨by simp [htake], ?_⟩
  rw [between_eq (by omega) (by simp [htake]), List.take_append_of_le_length (Nat.le_of_eq htake.symm),
    List.take_of_length_le (Nat.le_of_eq htake), ← between_eq (by omega) h.1]
  exact h.2

/-- From every position of every text at most one group stands.  The reader takes it, gives its inside and the position
behind it, and what follows the group does not matter; where no group stands it fails with a scanning error. -/
theorem groupAt_takes_group (s : Text) (start : Nat) :
    (∀ stop stop', Encloses s start stop → Encloses s start stop' → stop = stop') ∧
    (∀ stop, Encloses s start stop → groupAt s start = .ok (s.between (start + 1) (stop - 1), stop) ∧
      ∀ t, groupAt (s.take stop ++ t) start = groupAt s start) ∧
    ((¬∃ stop, Encloses s start stop) → ∃ f : Fault, groupAt s start = .error (.raised "ScanError" f.message)) := by
  refine ⟨fun stop stop' h h' => ?_, fun stop h => ⟨groupAt_of_encloses h, fun t => ?_⟩, fun hnone => ?_⟩
  · have hsame := (groupAt_of_encloses h).symm.trans (groupAt_of_encloses h')
    exact Int.natCast_inj.mp (Prod.mk.inj (Except.ok.inj hsame)).2
  · obtain ⟨inner, -, hlength, -, -⟩ := h.split
    have hstop := h.1
    have htake : (s.take stop).length = stop := by simp [hstop]
    rw [groupAt_of_encloses (h.of_take t), groupAt_of_encloses h]
    -- both insides end before `stop`, where the two texts still agree
    have hstart : (start : Int) + 1 = ((start + 1 : Nat) : Int) := rfl
    have hend : (stop : Int) - 1 = ((stop - 1 : Nat) : Int) := by omega
    rw [hstart, hend, between_eq (by omega) (by simp [htake]; omega), between_eq (by omega) (by omega),
      List.take_append_of_le_length (by omega), List.take_take, Nat.min_eq_left (by omega)]
  · rw [groupAt_eq, groupIn]
    split
    case h_1 f _ => exact ⟨f, rfl⟩
    case h_2 h => exact absurd (encloses_of_group? h) hnone

/-- A closing parenthesis and an escaped quote inside a literal inside brackets, and no group where brackets cross. -/
theorem groupAt_takes_group_nested :
    Encloses "f([')\\''])]" 1 10 ∧
    groupAt "f([')\\''])]" 1 = .ok ("[')\\'']", 10) ∧
    ∃ f : Fault, groupAt "f([)])" 1 = .error (.raised "ScanError" f.message) := by
  have hbody : LiteralBody '\'' ")\\'" := .plain (by decide) (by decide) (.escaped .nil)
  have hinner : Items "[')\\'']" := .bracketed rfl (.literal rfl hbody .nil) .nil
  have hstands : Encloses "f([')\\''])]" 1 10 := ⟨by decide, .intro hinner⟩
  have hnone : ¬∃ stop, Encloses "f([)])" 1 stop := fun ⟨_, h⟩ => nomatch groupAt_of_encloses h
  exact ⟨hstands, ((groupAt_takes_group _ 1).2.1 10 hstands).1, (groupAt_takes_group _ 1).2.2 hnone⟩

end Stencil.Argument
