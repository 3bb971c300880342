import Mathlib.Data.Bool.AllAny
import Mathlib.Data.List.Forall2
import Mathlib.Data.List.TakeDrop
import Mathlib.Data.List.TakeWhile
import Stencil.Json.Printer
import Stencil.Json.Reader
import Stencil.Proofs.Table
import Stencil.Proofs.Text.Quoted
import Stencil.Proofs.Text.Split

/-!
# Documents read back

A document that is written and read again is the same document, if its objects name each member once and its numbers are
whole and of a length that is read.  Fractions are left out: a fraction is written by the digits that tell it from its
neighbours, and reading them is another matter.

* `stringFrom_char` — a character is read back however it was written; `stringFrom_string` — so is a string.
* `number?_ofInt` — so is a whole number, if no more digits follow.
* `ReadsAs` — a document is read as another one inside a longer text; one lemma for each kind of document.
* `Plain` — the documents that are read back: `readsAs`, by induction, and `read_print` for a whole text.
-/

namespace Stencil.Json

variable {c : Char} {s rest tail : Text} {left : Nat}

/-! ## Strings -/

/-- What an escape takes is skipped. -/
theorem stringFrom_length (left : Nat) (text rest : Text) :
    stringFrom left text.length (text ++ rest) = stringFrom left 0 rest := by
  induction text with
  | nil => rfl
  | cons c text ih => exact ih

/-- Four digits are read as the unit that they write, unless the text ends behind them. -/
theorem unit?_hex {n : Nat} (hn : n < 0x10000) (hrest : rest ≠ []) : unit? (Text.hex 4 n ++ rest) = some n := by
  obtain ⟨ds, hlength, hds, htext, hvalue⟩ := Text.hex_eq_map (by omega : 0 < 4) hn
  have htake : (ds.map Nat.digitChar ++ rest).take 4 = ds.map Nat.digitChar := by
    simp [← hlength]
  have hlong : (ds.map Nat.digitChar ++ rest).length > 4 := by
    rw [List.length_append, List.length_map, hlength]
    exact Nat.lt_add_of_pos_right (List.length_pos_iff.mpr hrest)
  unfold unit?
  rw [htext, htake, Text.filterMap_hexDigit? hds]
  dsimp only
  rw [if_pos ⟨hlength, hlong⟩, hvalue]

theorem length_hex {n : Nat} (hn : n < 0x10000) : (Text.hex 4 n).length = 4 := by
  obtain ⟨ds, hlength, -, htext, -⟩ := Text.hex_eq_map (by omega : 0 < 4) hn
  rw [htext, List.length_map, hlength]

/-- The units of a character are read back as the character, the two surrogates together. -/
theorem escape_unitsOf (left : Nat) (c : Char) (hrest : rest ≠ []) :
    ∃ text, unitsOf c = '\\' :: text ∧ escape left (text ++ rest) = .ok (c, text.length) := by
  obtain ⟨hrange, hsurrogate⟩ := Text.toNat_valid c
  unfold unitsOf unitEscape
  dsimp only
  by_cases hsmall : c.toNat < 0x10000
  · rw [if_pos hsmall]
    refine ⟨_, rfl, ?_⟩
    have hhigh : ¬ (0xD800 ≤ c.toNat ∧ c.toNat < 0xDC00) := by omega
    rw [List.cons_append, escape, if_pos rfl, unicodeEscape, unit?_hex hsmall hrest]
    dsimp only
    rw [if_neg hhigh, Char.ofNat_toNat, List.length_cons, length_hex hsmall]
  · rw [if_neg hsmall]
    obtain ⟨high, hhigh⟩ : ∃ high, high = (c.toNat - 0x10000) / 0x400 := ⟨_, rfl⟩
    obtain ⟨low, hlow⟩ : ∃ low, low = (c.toNat - 0x10000) % 0x400 := ⟨_, rfl⟩
    rw [← hhigh, ← hlow]
    refine ⟨'u' :: Text.hex 4 (0xD800 + high) ++ '\\' :: 'u' :: Text.hex 4 (0xDC00 + low), rfl, ?_⟩
    have hvalue : 0x10000 + (0xD800 + high - 0xD800) * 0x400 + (0xDC00 + low - 0xDC00) = c.toNat := by omega
    have hbound : high < 0x400 ∧ low < 0x400 := by omega
    have hfirst : Text.hex 4 (0xD800 + high) ++ '\\' :: 'u' :: Text.hex 4 (0xDC00 + low) ++ rest =
        Text.hex 4 (0xD800 + high) ++ ('\\' :: 'u' :: (Text.hex 4 (0xDC00 + low) ++ rest)) := by simp
    have hsecond : lowUnit? ('\\' :: 'u' :: (Text.hex 4 (0xDC00 + low) ++ rest)) = some (0xDC00 + low) := by
      have hafter : Text.after? "\\u" ('\\' :: 'u' :: (Text.hex 4 (0xDC00 + low) ++ rest)) =
          some (Text.hex 4 (0xDC00 + low) ++ rest) := rfl
      rw [lowUnit?, hafter]
      dsimp only
      rw [unit?_hex (by omega) hrest]
      dsimp only
      rw [if_pos (by omega)]
    rw [List.cons_append, List.cons_append, escape, if_pos rfl, unicodeEscape, hfirst,
      unit?_hex (by omega) (List.cons_ne_nil _ _)]
    dsimp only
    rw [if_pos (by omega), List.drop_left' (length_hex (by omega)), hsecond]
    dsimp only
    rw [hvalue, Char.ofNat_toNat]
    simp [length_hex (show 0xD800 + high < 0x10000 by omega), length_hex (show 0xDC00 + low < 0x10000 by omega)]

/-- An escape is read as the character that it stands for. -/
theorem stringFrom_escape {text : Text} (h : escape left (text ++ rest) = .ok (c, text.length)) :
    stringFrom left 0 ('\\' :: text ++ rest) = (stringFrom left 0 rest).map fun (t, r) => (c :: t, r) := by
  rw [List.cons_append, stringFrom, if_neg (by decide), if_pos rfl, h]
  dsimp only
  rw [stringFrom_length]

/-- However a character is written, it is read as itself. -/
theorem stringFrom_char (left : Nat) (ascii : Bool) (c : Char) (hrest : rest ≠ []) :
    stringFrom left 0 (stringChar ascii c ++ rest) = (stringFrom left 0 rest).map fun (t, r) => (c :: t, r) := by
  unfold stringChar
  -- one case for each way of writing a character
  by_cases hquote : c = '"'
  · rw [if_pos hquote, hquote]
    exact stringFrom_escape rfl
  rw [if_neg hquote]
  by_cases hbackslash : c = '\\'
  · rw [if_pos hbackslash, hbackslash]
    exact stringFrom_escape rfl
  rw [if_neg hbackslash]
  by_cases hbreak : c = '\n'
  · rw [if_pos hbreak, hbreak]
    exact stringFrom_escape rfl
  rw [if_neg hbreak]
  by_cases hreturn : c = '\r'
  · rw [if_pos hreturn, hreturn]
    exact stringFrom_escape rfl
  rw [if_neg hreturn]
  by_cases htab : c = '\t'
  · rw [if_pos htab, htab]
    exact stringFrom_escape rfl
  rw [if_neg htab]
  by_cases hback : c = '\x08'
  · rw [if_pos hback, hback]
    exact stringFrom_escape rfl
  rw [if_neg hback]
  by_cases hfeed : c = '\x0c'
  · rw [if_pos hfeed, hfeed]
    exact stringFrom_escape rfl
  rw [if_neg hfeed]
  by_cases hunits : c.toNat < 32 ∨ (ascii ∧ 127 ≤ c.toNat)
  · rw [if_pos hunits]
    obtain ⟨text, htext, hread⟩ := escape_unitsOf left c hrest
    rw [htext]
    exact stringFrom_escape hread
  · rw [if_neg hunits, List.singleton_append, stringFrom, if_neg hquote, if_neg hbackslash,
      if_neg fun hcontrol => hunits (.inl hcontrol)]

/-- A string is read back up to its closing quote. -/
theorem stringFrom_string (left : Nat) (ascii : Bool) (s tail : Text) :
    stringFrom left 0 (s.flatMap (stringChar ascii) ++ '"' :: tail) = .ok (s, tail) := by
  induction s with
  | nil => rfl
  | cons c s ih =>
    have hrest : s.flatMap (stringChar ascii) ++ '"' :: tail ≠ [] := by simp
    rw [List.flatMap_cons, List.append_assoc, stringFrom_char left ascii c hrest, ih]
    rfl

/-! ## Whole numbers -/

/-- No text that a number could go on with. -/
def Stops (s : Text) : Prop := ∀ c ∈ s.head?, ¬ ('0' ≤ c ∧ c ≤ '9') ∧ c ≠ '.' ∧ c ≠ 'e' ∧ c ≠ 'E'

/-- A decimal digit is one, and read as its value. -/
theorem digitChar_decimal {d : Nat} (hd : d < 10) :
    ('0' ≤ Nat.digitChar d ∧ Nat.digitChar d ≤ '9') ∧ Text.digit? (Nat.digitChar d) = some d ∧
      (Nat.digitChar d = '0' → d = 0) := by
  have hall : ∀ d : Fin 10, ('0' ≤ Nat.digitChar d ∧ Nat.digitChar d ≤ '9') ∧
      Text.digit? (Nat.digitChar d) = some d.val ∧ (Nat.digitChar d = '0' → d.val = 0) := by decide
  exact hall ⟨d, hd⟩

/-- Decimal digits are read as their values. -/
theorem filterMap_digit? {ds : List Nat} (hds : ∀ d ∈ ds, d < 10) :
    (ds.map Nat.digitChar).filterMap Text.digit? = ds := by
  have hdigit : ∀ d ∈ ds, (Text.digit? ∘ Nat.digitChar) d = some d := fun d hd => (digitChar_decimal (hds d hd)).2.1
  rw [List.filterMap_map, List.filterMap_congr hdigit, List.filterMap_some]

/-- Digits are taken up to where they end. -/
theorem digits_of_decimal (hs : ∀ c ∈ s, '0' ≤ c ∧ c ≤ '9') (hrest : ∀ c ∈ rest.head?, ¬ ('0' ≤ c ∧ c ≤ '9')) :
    digits (s ++ rest) = (s, rest) := by
  have hall : ∀ c ∈ s, (decide ('0' ≤ c) && decide (c ≤ '9')) = true := by simpa using hs
  rw [digits, List.span_eq_takeWhile_dropWhile, List.takeWhile_append_of_pos hall, List.dropWhile_append_of_pos hall]
  cases rest with
  | nil => simp
  | cons c rest =>
    have hc : (decide ('0' ≤ c) && decide (c ≤ '9')) = false := by
      simpa using hrest c rfl
    rw [List.takeWhile_cons, List.dropWhile_cons, hc]
    simp

/-- Digits are taken up to where they stop. -/
theorem digits_append {ds : List Nat} (hds : ∀ d ∈ ds, d < 10) (h : Stops tail) :
    digits (ds.map Nat.digitChar ++ tail) = (ds.map Nat.digitChar, tail) := by
  refine digits_of_decimal (fun c hc => ?_) fun c hc => (h c hc).1
  obtain ⟨d, hd, rfl⟩ := List.mem_map.mp hc
  exact (digitChar_decimal (hds d hd)).1

theorem places_of_stops (h : Stops s) : places s = (none, s) := by
  unfold places
  split
  case h_1 rest => exact absurd rfl (h '.' rfl).2.1
  case h_2 => rfl

theorem exponent_of_stops (h : Stops s) : exponent s = (none, s) := by
  unfold exponent
  split
  case h_1 c rest =>
    obtain ⟨-, -, hsmall, hlarge⟩ := h c rfl
    rw [if_neg fun he => he.elim hsmall hlarge]
  case h_2 => rfl

/-- Digits are read as a whole number, if the first is zero only where it is the only one and nothing follows that the
number could go on with; a minus sign may stand before them. -/
theorem number?_digits {d : Nat} {ds : List Nat} (hds : ∀ e ∈ d :: ds, e < 10) (hfirst : d = 0 → ds = [])
    (h : Stops tail) (negative : Bool) :
    number? ((if negative then ['-'] else []) ++ ((d :: ds).map Nat.digitChar ++ tail)) =
      some (.int (if negative then -(Text.ofDigits 10 (d :: ds) : Int) else Text.ofDigits 10 (d :: ds)), tail) := by
  obtain ⟨hdigit, -, hzero⟩ := digitChar_decimal (hds d List.mem_cons_self)
  unfold number?
  split
  case h_1 sign body hsign =>
  obtain ⟨rfl, rfl⟩ : sign = negative ∧ body = (d :: ds).map Nat.digitChar ++ tail := by
    cases negative with
    | true =>
      obtain ⟨hs, hb⟩ := Prod.mk.inj hsign
      exact ⟨hs.symm, hb.symm⟩
    | false =>
      split at hsign
      case h_1 r heq =>
        rw [(List.cons.inj heq).1] at hdigit
        exact absurd hdigit (by decide)
      case h_2 =>
        obtain ⟨hs, hb⟩ := Prod.mk.inj hsign
        exact ⟨hs.symm, hb.symm⟩
  split
  case h_1 whole rest hwhole =>
  obtain ⟨rfl, rfl⟩ : whole = (d :: ds).map Nat.digitChar ∧ rest = tail := by
    split at hwhole
    case h_1 r heq =>
      obtain ⟨hc, hr⟩ := List.cons.inj heq
      obtain ⟨hw, hrest⟩ := Prod.mk.inj hwhole
      rw [← hw, ← hrest, ← hr, hfirst (hzero hc), hzero hc]
      exact ⟨rfl, rfl⟩
    case h_2 =>
      rw [digits_append hds h] at hwhole
      obtain ⟨hw, hrest⟩ := Prod.mk.inj hwhole
      exact ⟨hw.symm, hrest.symm⟩
  rw [if_neg (by simp), places_of_stops h]
  dsimp only
  rw [exponent_of_stops h]
  dsimp only
  rw [if_pos ⟨rfl, rfl⟩, Option.getD_none, List.append_nil, filterMap_digit? hds]

/-- A whole number is read back, if nothing follows that it could go on with. -/
theorem number?_ofInt (n : Int) (h : Stops tail) : number? (Text.ofInt n ++ tail) = some (.int n, tail) := by
  cases n with
  | ofNat n =>
    obtain ⟨d, ds, hds, htext, hvalue, hfirst⟩ := Text.toDigits_eq_map (by omega : 1 < 10) n
    have hread := number?_digits hds hfirst h false
    rw [hvalue] at hread
    rw [Text.ofInt, Text.ofNat, htext]
    exact hread
  | negSucc n =>
    obtain ⟨d, ds, hds, htext, hvalue, hfirst⟩ := Text.toDigits_eq_map (by omega : 1 < 10) (n + 1)
    have hread := number?_digits hds hfirst h true
    rw [hvalue] at hread
    rw [Text.ofInt, Text.ofNat, htext]
    exact hread

/-- A whole number that is written has no more digits than are read. -/
theorem checkedNumber_ofInt {n : Int} (hn : Number.isOverlong n = false) (tail : Text) :
    checkedNumber (Text.ofInt n ++ tail) (.int n) tail = .ok (.int n, tail) := by
  have hlength : (Nat.toDigits 10 n.natAbs).length ≤ Number.digitLimit := by
    rw [Number.isOverlong, decide_eq_false_iff_not] at hn
    -- the limit stays a variable, so that its power is not computed
    have hpos : 0 < Number.digitLimit := by decide
    generalize Number.digitLimit = limit at hn hpos
    exact (Nat.length_toDigits_le_iff (by decide) hpos).mpr (Nat.not_le.mp hn)
  have hcount : (Text.ofInt n ++ tail).length - tail.length -
      (if (Text.ofInt n ++ tail).head? = some '-' then 1 else 0) ≤ Number.digitLimit := by
    rw [List.length_append, Nat.add_sub_cancel]
    cases n with
    | ofNat n => exact Nat.le_trans (Nat.sub_le _ _) hlength
    | negSucc n => exact hlength
  unfold checkedNumber
  dsimp only
  rw [if_neg (Nat.not_lt.mpr hcount)]

/-- No digit is one of the characters that begin or end something else. -/
theorem ne_of_decimal (hc : '0' ≤ c ∧ c ≤ '9') {d : Char}
    (hd : d ∈ ['n', 't', 'f', 'N', 'I', '-', '"', '[', '\x7b', ']', '\x7d', '\ufeff', ' ', '\t', '\n', '\r']) :
    d ≠ c := by
  have hnone : ∀ l : List Char, l.all (fun d => ¬ ('0' ≤ d ∧ d ≤ '9')) → d ∈ l → d ≠ c := by
    rintro l hl hd rfl
    exact List.all_iff_forall_prop.mp hl d hd hc
  exact hnone _ (by decide) hd

/-- A digit is no blank, no closing bracket and no byte order mark. -/
theorem opens_decimal (hc : '0' ≤ c ∧ c ≤ '9') : isSpace c = false ∧ c ∉ [']', '\x7d', '\ufeff'] := by
  have hne : c ∉ _ := fun h => ne_of_decimal hc h rfl
  simp only [List.mem_cons, List.not_mem_nil, not_or] at hne
  simp [isSpace, hne]

/-- No word begins with a digit or with a minus sign before a digit. -/
theorem word?_decimal (hc : '0' ≤ c ∧ c ≤ '9') (s : Text) : word? (c :: s) = none ∧ word? ('-' :: c :: s) = none := by
  constructor
  · simp [word?, Text.after?, ne_of_decimal hc]
  · simp [word?, Text.after?, ne_of_decimal hc]

/-- A whole number begins with a digit, or with a minus sign before a digit. -/
theorem ofInt_cases (n : Int) :
    ∃ c s, ('0' ≤ c ∧ c ≤ '9') ∧ (Text.ofInt n = c :: s ∨ Text.ofInt n = '-' :: c :: s) := by
  have hfirst : ∀ m : Nat, ∃ c s, ('0' ≤ c ∧ c ≤ '9') ∧ Text.ofNat m = c :: s := by
    intro m
    obtain ⟨d, ds, hds, htext, -⟩ := Text.toDigits_eq_map (by omega : 1 < 10) m
    exact ⟨_, _, (digitChar_decimal (hds d List.mem_cons_self)).1, htext⟩
  cases n with
  | ofNat n =>
    obtain ⟨c, s, hc, htext⟩ := hfirst n
    exact ⟨c, s, hc, .inl htext⟩
  | negSucc n =>
    obtain ⟨c, s, hc, htext⟩ := hfirst (n + 1)
    exact ⟨c, s, hc, .inr (congrArg _ htext)⟩

/-! ## Blanks -/

/-- A text of blanks. -/
def Blank (s : Text) : Prop := ∀ c ∈ s, isSpace c

instance (s : Text) : Decidable (Blank s) := decidable_of_iff (s.all isSpace = true) List.all_eq_true

theorem skip_blank {blank : Text} (h : Blank blank) (s : Text) : skip (blank ++ s) = skip s :=
  List.dropWhile_append_of_pos h

theorem skip_cons (h : isSpace c = false) (s : Text) : skip (c :: s) = c :: s := by
  rw [skip, List.dropWhile_cons_of_neg (by simp [h])]

/-- A blank, a comma or a closing bracket stops a number. -/
theorem stops_cons (h : isSpace c ∨ c ∈ [',', ']', '\x7d']) (s : Text) : Stops (c :: s) := by
  have hall : ∀ c ∈ [' ', '\t', '\n', '\r', ',', ']', '\x7d'],
      ¬ ('0' ≤ c ∧ c ≤ '9') ∧ c ≠ '.' ∧ c ≠ 'e' ∧ c ≠ 'E' := List.all_iff_forall_prop.mp (by decide)
  have hmem : c ∈ [' ', '\t', '\n', '\r', ',', ']', '\x7d'] := by
    rcases h with h | h
    · simp only [isSpace, Bool.or_eq_true, beq_iff_eq] at h
      rcases h with ((rfl | rfl) | rfl) | rfl <;> simp
    · exact List.mem_append_right [' ', '\t', '\n', '\r'] h
  intro d hd
  obtain rfl := Option.some.inj hd
  exact hall c hmem

theorem Blank.stops {blank : Text} (h : Blank blank) (hs : Stops s) : Stops (blank ++ s) := by
  cases blank with
  | nil => exact hs
  | cons c blank => exact stops_cons (.inl (h c List.mem_cons_self)) _

/-- The indentation of a layout is blank. -/
def Layout.Spaced (layout : Layout) : Prop := ∀ step ∈ layout.step, Blank step

theorem bracketed_cons (layout : Layout) (level : Nat) (opener closer : Char) (items : List Text) :
    ∃ s, bracketed layout level opener closer items = opener :: s := by
  unfold bracketed
  split
  · exact ⟨_, rfl⟩
  · split <;> exact ⟨_, rfl⟩

/-- Whatever the layout, items stand between brackets with commas and blanks. -/
theorem bracketed_eq {layout : Layout} (h : layout.Spaced) (level : Nat) (opener closer : Char) (items : List Text)
    (hne : items ≠ []) : ∃ before between after, Blank before ∧ Blank between ∧ Blank after ∧
      bracketed layout level opener closer items =
        opener :: (before ++ (Text.join (',' :: between) items ++ (after ++ [closer]))) := by
  have hempty : items.isEmpty = false := by
    cases items with
    | nil => exact absurd rfl hne
    | cons => rfl
  unfold bracketed
  rw [hempty, if_neg Bool.false_ne_true]
  cases hstep : layout.step with
  | none => exact ⟨[], [' '], [], by simp [Blank], by simp [Blank, isSpace], by simp [Blank], rfl⟩
  | some step =>
    have hmargin : ∀ n, Blank ('\n' :: (List.replicate n step).flatten) := by
      intro n c hc
      rcases List.mem_cons.mp hc with rfl | hc
      · rfl
      · obtain ⟨s, hs, hc⟩ := List.mem_flatten.mp hc
        rw [List.eq_of_mem_replicate hs] at hc
        exact h step hstep c hc
    exact ⟨_, _, _, hmargin (level + 1), hmargin (level + 1), hmargin level, by simp⟩

/-! ## Documents -/

/-- The text of a document is read as another one where it stands before something else. -/
structure ReadsAs (layout : Layout) (j j' : Json) : Prop where
  /-- Its text begins neither with a blank nor with a closing bracket nor with a byte order mark. -/
  opens : ∀ level, ∃ c s, printAt layout level j = c :: s ∧ isSpace c = false ∧ c ∉ [']', '\x7d', '\ufeff']
  reads : ∀ level rounds tail, Stops tail → (printAt layout level j).length ≤ rounds →
    valueFrom rounds (printAt layout level j ++ tail) = .ok (j', tail)

variable {layout : Layout}

/-- What begins neither a string nor a list nor an object is a word or a number. -/
theorem valueFrom_cons {c : Char} (hc : c ≠ '"' ∧ c ≠ '[' ∧ c ≠ '\x7b') (rounds : Nat) (s : Text) :
    valueFrom (rounds + 1) (c :: s) =
      match word? (c :: s) with
      | some found => .ok found
      | none =>
        match number? (c :: s) with
        | some (value, rest) => checkedNumber (c :: s) value rest
        | none => .error ⟨.value, (c :: s).length⟩ := by
  rw [valueFrom]
  all_goals first | rfl | simp_all

theorem readsAs_word {j j' : Json} {word : Text} (hword : ∀ level, printAt layout level j = word)
    (hopens : ∃ c s, word = c :: s ∧ isSpace c = false ∧ c ∉ ['"', '[', '\x7b'] ∧ c ∉ [']', '\x7d', '\ufeff'])
    (h : ∀ tail, word? (word ++ tail) = some (j', tail)) : ReadsAs layout j j' where
  opens level := by
    obtain ⟨c, s, rfl, hspace, -, hc⟩ := hopens
    rw [hword]
    exact ⟨c, s, rfl, hspace, hc⟩
  reads level rounds tail _ hrounds := by
    have hread := h tail
    obtain ⟨c, s, rfl, -, hc, -⟩ := hopens
    simp only [List.mem_cons, List.not_mem_nil, or_false, not_or] at hc
    rw [hword] at hrounds ⊢
    cases rounds with
    | zero => exact absurd hrounds (by simp)
    | succ rounds => rw [List.cons_append, valueFrom_cons hc, ← List.cons_append, hread]

/-- A number is read as what stands for it, if its text begins with a digit or with a minus sign before a digit. -/
theorem readsAs_number {j j' : Json} {text : Text} (htext : ∀ level, printAt layout level j = text)
    (hfirst : ∃ c s, ('0' ≤ c ∧ c ≤ '9') ∧ (text = c :: s ∨ text = '-' :: c :: s))
    (hnumber : ∀ tail, Stops tail → number? (text ++ tail) = some (j', tail))
    (hchecked : ∀ tail, checkedNumber (text ++ tail) j' tail = .ok (j', tail)) : ReadsAs layout j j' where
  opens level := by
    obtain ⟨c, s, hc, h | h⟩ := hfirst
    · exact ⟨c, s, (htext level).trans h, opens_decimal hc⟩
    · exact ⟨'-', c :: s, (htext level).trans h, rfl, by decide⟩
  reads level rounds tail htail hrounds := by
    have hword : word? (text ++ tail) = none := by
      obtain ⟨c, s, hc, rfl | rfl⟩ := hfirst
      · exact (word?_decimal hc _).1
      · exact (word?_decimal hc _).2
    obtain ⟨d, s, hd, hplain⟩ : ∃ d s, text = d :: s ∧ d ≠ '"' ∧ d ≠ '[' ∧ d ≠ '\x7b' := by
      obtain ⟨c, s, hc, h | h⟩ := hfirst
      · exact ⟨c, s, h, Ne.symm (ne_of_decimal hc (by simp)), Ne.symm (ne_of_decimal hc (by simp)),
          Ne.symm (ne_of_decimal hc (by simp))⟩
      · exact ⟨'-', c :: s, h, by decide⟩
    have hread := hnumber tail htail
    have hkept := hchecked tail
    rw [htext] at hrounds ⊢
    subst hd
    cases rounds with
    | zero => exact absurd hrounds (by simp)
    | succ rounds =>
      rw [List.cons_append] at hword hread hkept ⊢
      rw [valueFrom_cons hplain, hword]
      dsimp only
      rw [hread]
      exact hkept

theorem readsAs_int {n : Int} (hn : Number.isOverlong n = false) : ReadsAs layout (.int n) (.int n) :=
  readsAs_number (fun _ => rfl) (ofInt_cases n) (fun _ htail => number?_ofInt n htail) (checkedNumber_ofInt hn)

/-- A string with its quotes is read back. -/
theorem readsAs_str (s : Text) : ReadsAs layout (.str s) (.str s) where
  opens level := ⟨'"', _, rfl, rfl, by decide⟩
  reads level rounds tail _ hrounds := by
    cases rounds with
    | zero => exact absurd hrounds (by simp [printAt, string])
    | succ rounds =>
      rw [printAt, string, List.cons_append, List.cons_append, List.append_assoc, valueFrom, List.singleton_append,
        stringFrom_string]
      rfl

/-! ## Lists -/

/-- Joined texts begin as the first one does. -/
theorem head_join (separator : Text) {t s : Text} (rest : List Text) (h : t = c :: s) :
    ∃ more, Text.join separator (t :: rest) = c :: more := by
  subst h
  cases rest with
  | nil => exact ⟨s, Text.join_singleton _ _⟩
  | cons u rest => exact ⟨_, Text.join_cons_cons _ _ _ _⟩

/-- The items of a list are read behind those already read. -/
theorem itemsFrom_join {between after : Text} (hbetween : Blank between) (hafter : Blank after) (level : Nat)
    (tail : Text) {item : Json} {items items' : List Json} (h : List.Forall₂ (ReadsAs layout) (item :: items) items')
    (done : List Json) {rounds : Nat} (hrounds : (Text.join (',' :: between) (printItems layout level (item :: items))).length < rounds) :
    valueFrom.itemsFrom rounds done
      (Text.join (',' :: between) (printItems layout level (item :: items)) ++ (after ++ ']' :: tail)) =
        .ok (.arr (done ++ items'), tail) := by
  induction items generalizing item items' done rounds with
  | nil =>
    obtain ⟨rounds, rfl⟩ : ∃ n, rounds = n + 1 := ⟨rounds - 1, by omega⟩
    obtain ⟨item', rest', hitem, hrest', rfl⟩ := List.forall₂_cons_left_iff.mp h
    obtain rfl := List.forall₂_nil_left_iff.mp hrest'
    rw [printItems, printItems, Text.join_singleton] at hrounds ⊢
    have hread := hitem.reads level rounds (after ++ ']' :: tail)
      (hafter.stops (stops_cons (.inr (by simp)) _)) (by omega)
    rw [valueFrom.itemsFrom, hread]
    simp only [bind, Except.bind]
    rw [skip_blank hafter, skip_cons rfl]
    rfl
  | cons next items ih =>
    obtain ⟨rounds, rfl⟩ : ∃ n, rounds = n + 1 := ⟨rounds - 1, by omega⟩
    obtain ⟨item', items', hitem, hitems, rfl⟩ := List.forall₂_cons_left_iff.mp h
    obtain ⟨next', _, hnext, -, -⟩ := List.forall₂_cons_left_iff.mp hitems
    rw [printItems, printItems, Text.join_cons_cons, ← printItems] at hrounds ⊢
    simp only [List.length_append, List.length_cons] at hrounds
    obtain ⟨rest, hrest⟩ : ∃ rest, rest =
      Text.join (',' :: between) (printItems layout level (next :: items)) ++ (after ++ ']' :: tail) := ⟨_, rfl⟩
    have hskip : skip rest = rest := by
      obtain ⟨c, s, hopen, hspace, -⟩ := hnext.opens level
      obtain ⟨more, hmore⟩ := head_join (',' :: between) (printItems layout level items) hopen
      rw [hrest, printItems, hmore, List.cons_append, skip_cons hspace]
    have hread := hitem.reads level rounds (',' :: (between ++ rest))
      (stops_cons (.inr (by simp)) _) (by omega)
    rw [List.append_assoc, List.append_assoc, List.cons_append, ← hrest, valueFrom.itemsFrom, hread]
    simp only [bind, Except.bind]
    rw [skip_cons rfl]
    change valueFrom.itemsFrom rounds (done ++ [item']) (skip (between ++ rest)) = _
    rw [skip_blank hbetween, hskip, hrest, ih hitems (done ++ [item']) (by omega), List.append_assoc,
      List.singleton_append]

/-- A list is read as what its items are read as. -/
theorem readsAs_arr (hlayout : layout.Spaced) {items items' : List Json} (h : List.Forall₂ (ReadsAs layout) items items') :
    ReadsAs layout (.arr items) (.arr items') where
  opens level := by
    obtain ⟨s, hs⟩ := bracketed_cons layout level '[' ']' (printItems layout (level + 1) items)
    exact ⟨'[', s, hs, rfl, by decide⟩
  reads level rounds tail _ hrounds := by
    rw [printAt] at hrounds ⊢
    cases items with
    | nil =>
      obtain rfl := List.forall₂_nil_left_iff.mp h
      change 2 ≤ rounds at hrounds
      obtain ⟨rounds, rfl⟩ : ∃ n, rounds = n + 1 := ⟨rounds - 1, by omega⟩
      rfl
    | cons item items =>
      obtain ⟨before, between, after, hbefore, hbetween, hafter, htext⟩ :=
        bracketed_eq hlayout level '[' ']' (printItems layout (level + 1) (item :: items)) (by simp [printItems])
      rw [htext] at hrounds ⊢
      simp only [List.length_cons, List.length_append, List.length_nil] at hrounds
      obtain ⟨rounds, rfl⟩ : ∃ n, rounds = n + 1 := ⟨rounds - 1, by omega⟩
      obtain ⟨item', items', hitem, -, rfl⟩ := List.forall₂_cons_left_iff.mp h
      obtain ⟨c, s, hopen, hspace, hc⟩ := hitem.opens (level + 1)
      obtain ⟨more, hmore⟩ := head_join (',' :: between) (printItems layout (level + 1) items) hopen
      have hlength : (Text.join (',' :: between) (printItems layout (level + 1) (item :: items))).length < rounds := by
        omega
      have hinner := itemsFrom_join hbetween hafter (level + 1) tail h [] hlength
      rw [printItems, hmore] at hinner ⊢
      simp only [List.cons_append, List.append_assoc, List.nil_append] at hinner ⊢
      rw [valueFrom, skip_blank hbefore, skip_cons hspace]
      split
      case h_1 heq => exact absurd (by simp [(List.cons.inj heq).1]) hc
      case h_2 => exact hinner

/-! ## Objects -/

/-- The text of a member is read as another member with the same name. -/
def MemberAs (layout : Layout) (m m' : Text × Json) : Prop := m.1 = m'.1 ∧ ReadsAs layout m.2 m'.2

/-- Members behind those already there; a name that is there keeps its place and takes the last value. -/
def gathered (done : Table Json) (members : List (Text × Json)) : Table Json :=
  members.foldl (fun t m => t.put m.1 m.2) done

/-- Members whose names all differ are only appended. -/
theorem gathered_of_nodup {done : Table Json} {members : List (Text × Json)}
    (h : ((done ++ members).map Prod.fst).Nodup) : gathered done members = done ++ members := by
  induction members generalizing done with
  | nil => exact (List.append_nil done).symm
  | cons m members ih =>
    have hput : done.put m.1 m.2 = done ++ [m] := by
      rw [List.map_append] at h
      exact Table.put_of_not_mem fun hmem => (List.nodup_append.mp h).2.2 m.1 hmem m.1 (by simp) rfl
    have hmore : ((done ++ [m] ++ members).map Prod.fst).Nodup := by
      rwa [List.append_assoc, List.singleton_append]
    rw [gathered, List.foldl_cons, hput, ← gathered, ih hmore, List.append_assoc, List.singleton_append]

/-- One member is read; what follows tells whether it is the last. -/
theorem membersFrom_member {value value' : Json} (hvalue : ReadsAs layout value value') (key : Text) (level : Nat)
    (done : Table Json) {rounds : Nat} (hrounds : (printAt layout level value).length ≤ rounds) (hrest : Stops rest) :
    valueFrom.membersFrom (rounds + 1) done
      (string layout.ascii key ++ ": " ++ printAt layout level value ++ rest) =
        match skip rest with
        | '\x7d' :: tail => .ok (.obj (done.put key value'), tail)
        | ',' :: tail => valueFrom.membersFrom rounds (done.put key value') (skip tail)
        | tail => .error ⟨.comma, tail.length⟩ := by
  have htext : string layout.ascii key ++ ": " ++ printAt layout level value ++ rest =
      '"' :: (key.flatMap (stringChar layout.ascii) ++ '"' :: ':' :: ' ' :: (printAt layout level value ++ rest)) := by
    simp [string]
  have hskip : skip (' ' :: (printAt layout level value ++ rest)) = printAt layout level value ++ rest := by
    obtain ⟨c, s, hopen, hspace, -⟩ := hvalue.opens level
    rw [hopen, List.cons_append]
    exact skip_cons hspace _
  rw [htext, valueFrom.membersFrom, stringFrom_string]
  change (valueFrom rounds (skip (' ' :: (printAt layout level value ++ rest))) >>= _) = _
  rw [hskip, hvalue.reads level rounds rest hrest hrounds]
  rfl

/-- The members of an object are read behind those already read. -/
theorem membersFrom_join {between after : Text} (hbetween : Blank between) (hafter : Blank after) (level : Nat)
    (tail : Text) {member : Text × Json} {members members' : List (Text × Json)}
    (h : List.Forall₂ (MemberAs layout) (member :: members) members') (done : Table Json) {rounds : Nat}
    (hrounds : (Text.join (',' :: between) (printMembers layout level (member :: members))).length < rounds) :
    valueFrom.membersFrom rounds done
      (Text.join (',' :: between) (printMembers layout level (member :: members)) ++ (after ++ '\x7d' :: tail)) =
        .ok (.obj (gathered done members'), tail) := by
  induction members generalizing member members' done rounds with
  | nil =>
    obtain ⟨rounds, rfl⟩ : ∃ n, rounds = n + 1 := ⟨rounds - 1, by omega⟩
    obtain ⟨key, value⟩ := member
    obtain ⟨⟨_, value'⟩, rest', ⟨rfl, hvalue⟩, hrest', rfl⟩ := List.forall₂_cons_left_iff.mp h
    obtain rfl := List.forall₂_nil_left_iff.mp hrest'
    dsimp only at hvalue
    rw [printMembers, printMembers, Text.join_singleton] at hrounds ⊢
    simp only [List.length_append] at hrounds
    rw [membersFrom_member hvalue key level done (by omega) (hafter.stops (stops_cons (.inr (by simp)) _)),
      skip_blank hafter, skip_cons rfl]
    rfl
  | cons next members ih =>
    obtain ⟨rounds, rfl⟩ : ∃ n, rounds = n + 1 := ⟨rounds - 1, by omega⟩
    obtain ⟨key, value⟩ := member
    obtain ⟨nextKey, nextValue⟩ := next
    obtain ⟨⟨_, value'⟩, members', ⟨rfl, hvalue⟩, hmembers, rfl⟩ := List.forall₂_cons_left_iff.mp h
    dsimp only at hvalue
    rw [printMembers, printMembers, Text.join_cons_cons, ← printMembers] at hrounds ⊢
    simp only [List.length_append, List.length_cons] at hrounds
    obtain ⟨rest, hrest⟩ : ∃ rest, rest =
      Text.join (',' :: between) (printMembers layout level ((nextKey, nextValue) :: members)) ++
        (after ++ '\x7d' :: tail) := ⟨_, rfl⟩
    have hskip : skip rest = rest := by
      obtain ⟨s, hopen⟩ : ∃ s, string layout.ascii nextKey ++ ": " ++ printAt layout level nextValue = '"' :: s :=
        ⟨_, rfl⟩
      obtain ⟨more, hmore⟩ := head_join (',' :: between) (printMembers layout level members) hopen
      rw [hrest, printMembers, hmore, List.cons_append, skip_cons rfl]
    have hsplit : ∀ s : Text, (',' :: between ++ s) ++ (after ++ '\x7d' :: tail) =
        ',' :: (between ++ (s ++ (after ++ '\x7d' :: tail))) := fun s => by simp
    rw [List.append_assoc (_ ++ _), hsplit, ← hrest,
      membersFrom_member hvalue key level done (by omega) (stops_cons (.inr (by simp)) _), skip_cons rfl]
    change valueFrom.membersFrom rounds (done.put key value') (skip (between ++ rest)) = _
    rw [skip_blank hbetween, hskip, hrest, ih hmembers _ (by omega)]
    rfl

/-- An object is read as what its members are read as. -/
theorem readsAs_obj (hlayout : layout.Spaced) {members members' : List (Text × Json)}
    (h : List.Forall₂ (MemberAs layout) members members') :
    ReadsAs layout (.obj members) (.obj (gathered [] members')) where
  opens level := by
    obtain ⟨s, hs⟩ := bracketed_cons layout level '\x7b' '\x7d' (printMembers layout (level + 1) members)
    exact ⟨'\x7b', s, hs, rfl, by decide⟩
  reads level rounds tail _ hrounds := by
    rw [printAt] at hrounds ⊢
    cases members with
    | nil =>
      obtain rfl := List.forall₂_nil_left_iff.mp h
      change 2 ≤ rounds at hrounds
      obtain ⟨rounds, rfl⟩ : ∃ n, rounds = n + 1 := ⟨rounds - 1, by omega⟩
      rfl
    | cons member members =>
      obtain ⟨before, between, after, hbefore, hbetween, hafter, htext⟩ :=
        bracketed_eq hlayout level '\x7b' '\x7d' (printMembers layout (level + 1) (member :: members))
          (by simp [printMembers])
      rw [htext] at hrounds ⊢
      simp only [List.length_cons, List.length_append, List.length_nil] at hrounds
      obtain ⟨rounds, rfl⟩ : ∃ n, rounds = n + 1 := ⟨rounds - 1, by omega⟩
      obtain ⟨s, hopen⟩ : ∃ s, string layout.ascii member.1 ++ ": " ++ printAt layout (level + 1) member.2 = '"' :: s :=
        ⟨_, rfl⟩
      obtain ⟨more, hmore⟩ := head_join (',' :: between) (printMembers layout (level + 1) members) hopen
      have hlength : (Text.join (',' :: between) (printMembers layout (level + 1) (member :: members))).length <
          rounds := by omega
      have hinner := membersFrom_join hbetween hafter (level + 1) tail h [] hlength
      rw [printMembers, hmore] at hinner ⊢
      simp only [List.cons_append, List.append_assoc, List.nil_append] at hinner ⊢
      rw [valueFrom, skip_blank hbefore, skip_cons rfl]
      exact hinner

/-! ## What is read back -/

/-- The documents that are read back: without fractions, with whole numbers of a length that is read, and with objects
that name each member once. -/
inductive Plain : Json → Prop
  | null : Plain .null
  | bool (b : Bool) : Plain (.bool b)
  | int {n : Int} : Number.isOverlong n = false → Plain (.int n)
  | str (s : Text) : Plain (.str s)
  | arr {items : List Json} : (∀ j ∈ items, Plain j) → Plain (.arr items)
  | obj {members : List (Text × Json)} : (members.map Prod.fst).Nodup → (∀ m ∈ members, Plain m.2) →
    Plain (.obj members)

/-- Inside a longer text a plain document is read back. -/
theorem Plain.readsAs (hlayout : layout.Spaced) {j : Json} (h : Plain j) : ReadsAs layout j j := by
  induction h with
  | null => exact readsAs_word (fun _ => rfl) ⟨'n', _, rfl, by decide⟩ fun _ => rfl
  | bool b =>
    cases b with
    | true => exact readsAs_word (fun _ => rfl) ⟨'t', _, rfl, by decide⟩ fun _ => rfl
    | false => exact readsAs_word (fun _ => rfl) ⟨'f', _, rfl, by decide⟩ fun _ => rfl
  | int hn => exact readsAs_int hn
  | str s => exact readsAs_str s
  | arr _ ih => exact readsAs_arr hlayout (List.forall₂_same.mpr ih)
  | obj hnames _ ih =>
    have hobj := readsAs_obj hlayout (List.forall₂_same.mpr fun m hm => (⟨rfl, ih m hm⟩ : MemberAs layout m m))
    have hsame : gathered [] _ = [] ++ _ := gathered_of_nodup hnames
    rwa [hsame] at hobj

/-- The text of a document is read as what it is read as inside a longer one, whatever blanks stand behind it. -/
theorem ReadsAs.read_print {j j' : Json} (h : ReadsAs layout j j') {blank : Text} (hblank : Blank blank) :
    read (print layout j ++ blank) = .ok j' := by
  obtain ⟨c, s, hopen, hspace, hc⟩ := h.opens 0
  have hmark : (print layout j ++ blank).head? ≠ some '\ufeff' := by
    rw [print, hopen]
    intro heq
    exact hc (by simp [Option.some.inj heq])
  have hskip : skip (print layout j ++ blank) = print layout j ++ blank := by
    rw [print, hopen, List.cons_append, skip_cons hspace]
  have hstops : Stops blank := by
    cases blank with
    | nil => exact fun _ hc => by cases hc
    | cons c blank => exact stops_cons (.inl (hblank c List.mem_cons_self)) blank
  have hrounds : (print layout j).length ≤ (print layout j ++ blank).length + 1 := by
    rw [List.length_append]
    omega
  have hend : skip blank = [] := List.dropWhile_eq_nil_iff.mpr fun c hc => hblank c hc
  have hread : valueFrom ((print layout j ++ blank).length + 1) (print layout j ++ blank) = .ok (j', blank) :=
    h.reads 0 _ blank hstops hrounds
  rw [read, if_neg hmark]
  dsimp only
  rw [hskip, hread]
  simp only [bind, Except.bind]
  rw [hend]
  rfl

/-- The text of a plain document is read as the document. -/
theorem read_print (hlayout : layout.Spaced) {j : Json} (h : Plain j) {blank : Text} (hblank : Blank blank) :
    read (print layout j ++ blank) = .ok j := (h.readsAs hlayout).read_print hblank

/-! ## Line breaks -/

/-- The escape of a unit holds no line break. -/
theorem return_not_mem_unitEscape {n : Nat} (hn : n < 0x10000) : '\r' ∉ unitEscape n := by
  obtain ⟨ds, -, hds, htext, -⟩ := Text.hex_eq_map (by omega : 0 < 4) hn
  intro hmem
  rw [unitEscape, htext, List.mem_cons, List.mem_cons, or_iff_right (by decide), or_iff_right (by decide)] at hmem
  obtain ⟨d, hd, hd'⟩ := List.mem_map.mp hmem
  have hplain := (Text.digitChar_plain (hds d hd)).1
  rw [hd'] at hplain
  exact absurd hplain (by decide)

theorem return_not_mem_unitsOf (c : Char) : '\r' ∉ unitsOf c := by
  have hrange := (Text.toNat_valid c).1
  unfold unitsOf
  dsimp only
  split
  · exact return_not_mem_unitEscape ‹_›
  · have hhigh : 0xD800 + (c.toNat - 0x10000) / 0x400 < 0x10000 := by omega
    have hlow : 0xDC00 + (c.toNat - 0x10000) % 0x400 < 0x10000 := by omega
    rw [List.mem_append, not_or]
    exact ⟨return_not_mem_unitEscape hhigh, return_not_mem_unitEscape hlow⟩

/-- A carriage return is always written as an escape. -/
theorem return_not_mem_stringChar (ascii : Bool) (c : Char) : '\r' ∉ stringChar ascii c := by
  unfold stringChar
  by_cases hreturn : c = '\r'
  · rw [hreturn, if_neg (by decide), if_neg (by decide), if_neg (by decide), if_pos rfl]
    decide
  · rw [if_neg hreturn]
    repeat' split
    all_goals first
      | decide
      | exact return_not_mem_unitsOf c
      | simp [Ne.symm hreturn]

theorem return_not_mem_string (ascii : Bool) (s : Text) : '\r' ∉ string ascii s := by
  unfold string
  simp [return_not_mem_stringChar]

theorem return_not_mem_ofInt (n : Int) : '\r' ∉ Text.ofInt n := by
  have hdigits : ∀ m, '\r' ∉ Text.ofNat m := by
    intro m hmem
    obtain ⟨d, ds, hds, htext, -⟩ := Text.toDigits_eq_map (by omega : 1 < 10) m
    rw [Text.ofNat, htext] at hmem
    obtain ⟨e, he, heq⟩ := List.mem_map.mp hmem
    exact ne_of_decimal (digitChar_decimal (hds e he)).1 (by simp) heq.symm
  cases n with
  | ofNat n => exact hdigits n
  | negSucc n =>
    rw [Text.ofInt, List.mem_cons, or_iff_right (by decide)]
    exact hdigits (n + 1)

theorem return_not_mem_bracketed (hstep : ∀ step ∈ layout.step, '\r' ∉ step) (level : Nat) {opener closer : Char}
    (hends : '\r' ≠ opener ∧ '\r' ≠ closer) {items : List Text} (h : ∀ item ∈ items, '\r' ∉ item) :
    '\r' ∉ bracketed layout level opener closer items := by
  have hjoin : ∀ separator : Text, '\r' ∉ separator → '\r' ∉ Text.join separator items := by
    intro separator hseparator hmem
    obtain ⟨item, hitem, hc⟩ := (Text.mem_join hseparator items).mp hmem
    exact h item hitem hc
  unfold bracketed
  split
  · simp [hends]
  · split
    · simp [hends, hjoin]
    case h_2 step hlayout =>
      have hmargin : ∀ n, '\r' ∉ (List.replicate n step).flatten := by
        intro n hmem
        obtain ⟨s, hs, hc⟩ := List.mem_flatten.mp hmem
        rw [List.eq_of_mem_replicate hs] at hc
        exact hstep step hlayout hc
      simp [hends, hjoin, hmargin]

theorem printItems_eq_map (level : Nat) (items : List Json) :
    printItems layout level items = items.map (printAt layout level) := by
  induction items with
  | nil => rfl
  | cons item items ih => rw [printItems, ih, List.map_cons]

theorem printMembers_eq_map (level : Nat) (members : List (Text × Json)) :
    printMembers layout level members =
      members.map fun m => string layout.ascii m.1 ++ ": " ++ printAt layout level m.2 := by
  induction members with
  | nil => rfl
  | cons m members ih => rw [printMembers, ih, List.map_cons]

/-- Without carriage returns in its indentation a plain document is written without them. -/
theorem Plain.return_not_mem (hstep : ∀ step ∈ layout.step, '\r' ∉ step) {j : Json} (h : Plain j) (level : Nat) :
    '\r' ∉ printAt layout level j := by
  induction h generalizing level with
  | null => rw [printAt]; decide
  | bool b => cases b <;> rw [printAt] <;> decide
  | int _ => rw [printAt]; exact return_not_mem_ofInt _
  | str s => rw [printAt]; exact return_not_mem_string _ s
  | @arr items _ ih =>
    have hitems : ∀ item ∈ printItems layout (level + 1) items, '\r' ∉ item := by
      rw [printItems_eq_map, List.forall_mem_map]
      exact fun item hitem => ih item hitem _
    rw [printAt]
    exact return_not_mem_bracketed hstep level (by decide) hitems
  | @obj members _ _ ih =>
    have hitems : ∀ item ∈ printMembers layout (level + 1) members, '\r' ∉ item := by
      rw [printMembers_eq_map, List.forall_mem_map]
      intro m hm
      rw [List.mem_append, List.mem_append, not_or, not_or]
      exact ⟨⟨return_not_mem_string _ _, by decide⟩, ih m hm _⟩
    rw [printAt]
    exact return_not_mem_bracketed hstep level (by decide) hitems

end Stencil.Json
