import Mathlib.Data.List.Basic
import Stencil.Argument.Constant
import Stencil.Text.Blank
import Stencil.Text.Quoted

/-!
# Quoted texts read back

What a quoted text holds between its quotes is taken apart again character by character: a plain character stands for
itself, and an escape for the one character it was written for.

* `Escaped` — how a character may stand between quotes; `escapeChar_escaped` — each one stands so.
* `isPrintable_of_mem_quoted` — a quoted text is made of printable characters, so nothing in it ends a line.
* `shortBody?_escaped`, `decode_escaped` — the inside is found up to the closing quote and decoded.
* `literal?_quoted` — as an argument, the quoted form of a text is a literal that stands for the text.
-/

namespace Stencil.Text

/-! ## Numbers in hexadecimal -/

/-- A hexadecimal digit is read as its value. -/
theorem hexDigit?_digitChar {d : Nat} (hd : d < 16) : hexDigit? (Nat.digitChar d) = some d := by
  have hall : ∀ d : Fin 16, hexDigit? (Nat.digitChar d) = some d.val := by decide
  exact hall ⟨d, hd⟩

/-- Hexadecimal digits are read as their values. -/
theorem filterMap_hexDigit? {ds : List Nat} (hds : ∀ d ∈ ds, d < 16) :
    (ds.map Nat.digitChar).filterMap hexDigit? = ds := by
  have hdigit : ∀ d ∈ ds, (hexDigit? ∘ Nat.digitChar) d = some d := fun d hd => hexDigit?_digitChar (hds d hd)
  rw [List.filterMap_map, List.filterMap_congr hdigit, List.filterMap_some]

/-- A hexadecimal digit is a printable character and no backslash or quote. -/
theorem digitChar_plain {d : Nat} (hd : d < 16) :
    isPrintable (Nat.digitChar d) ∧ Nat.digitChar d ≠ '\\' ∧ Nat.digitChar d ≠ '\'' ∧ Nat.digitChar d ≠ '"' := by
  have hall : ∀ d : Fin 16, isPrintable (Nat.digitChar d) ∧ Nat.digitChar d ≠ '\\' ∧ Nat.digitChar d ≠ '\'' ∧
      Nat.digitChar d ≠ '"' := by decide
  exact hall ⟨d, hd⟩

theorem ofDigits_append (base : Nat) (ds : List Nat) (d : Nat) :
    ofDigits base (ds ++ [d]) = ofDigits base ds * base + d := by
  simp [ofDigits]

/-- Zeros in front leave a number as it is. -/
theorem ofDigits_replicate_append (base k : Nat) (ds : List Nat) :
    ofDigits base (List.replicate k 0 ++ ds) = ofDigits base ds := by
  induction k with
  | zero => rfl
  | succ k ih =>
    rw [← ih]
    simp [ofDigits, List.replicate_succ]

/-- The digits of a number; the first one is zero only if it is the only one. -/
theorem toDigits_eq_map {base : Nat} (hbase : 1 < base) (n : Nat) :
    ∃ d ds, (∀ e ∈ d :: ds, e < base) ∧ Nat.toDigits base n = (d :: ds).map Nat.digitChar ∧
      ofDigits base (d :: ds) = n ∧ (d = 0 → ds = []) := by
  induction n using Nat.strongRecOn with
  | _ n ih =>
    by_cases hn : n < base
    · refine ⟨n, [], by simpa using hn, by simp [Nat.toDigits_of_lt_base hn], ?_, fun _ => rfl⟩
      simp [ofDigits]
    · have hle : base ≤ n := Nat.le_of_not_lt hn
      have hlt : n / base < n := Nat.div_lt_self (by omega) hbase
      obtain ⟨d, ds, hds, htext, hvalue, hfirst⟩ := ih (n / base) hlt
      refine ⟨d, ds ++ [n % base], ?_, ?_, ?_, fun hd => ?_⟩
      · intro e he
        rw [← List.cons_append] at he
        rcases List.mem_append.mp he with he | he
        · exact hds e he
        · rw [List.mem_singleton.mp he]
          exact Nat.mod_lt n (by omega)
      · rw [Nat.toDigits_of_base_le hbase hle, htext, ← List.cons_append, List.map_append]
        rfl
      · rw [← List.cons_append, ofDigits_append, hvalue, Nat.mul_comm]
        exact Nat.div_add_mod n base
      · -- a number of several digits is at least the base, so what stands before the last is not zero
        have hzero : n / base = 0 := by
          rw [← hvalue, hfirst hd, hd]
          simp [ofDigits]
        have hpos := Nat.div_pos hle (by omega)
        omega

/-- A number that has room is filled with zeros to its width, digit by digit. -/
theorem hex_eq_map {width n : Nat} (hw : 0 < width) (hn : n < Nat.pow 16 width) :
    ∃ ds : List Nat, ds.length = width ∧ (∀ d ∈ ds, d < 16) ∧ hex width n = ds.map Nat.digitChar ∧
      ofDigits 16 ds = n := by
  obtain ⟨d, ds, hds, htext, hvalue, -⟩ := toDigits_eq_map (by omega : 1 < 16) n
  generalize d :: ds = ds at hds htext hvalue
  have hlength : ds.length ≤ width := by
    have hle := (Nat.length_toDigits_le_iff (by omega) hw).mpr hn
    rwa [htext, List.length_map] at hle
  refine ⟨List.replicate (width - ds.length) 0 ++ ds, ?_, ?_, ?_, ?_⟩
  · rw [List.length_append, List.length_replicate]
    omega
  · intro d hd
    rcases List.mem_append.mp hd with hd | hd
    · rw [List.eq_of_mem_replicate hd]
      omega
    · exact hds d hd
  · unfold hex padLeft
    rw [htext, List.length_map, List.map_append, List.map_replicate]
    rfl
  · rw [ofDigits_replicate_append, hvalue]

/-! ## Single characters -/

/-- A number escape takes as many digits as its letter says. -/
theorem escape?_of_hexWidth {letter : Char} {width : Nat} (h : Script.hexWidth? letter = some width) (s : Text) :
    Script.escape? letter s =
      if ((s.take width).filterMap hexDigit?).length = width then
        (Script.charOf? (ofDigits 16 ((s.take width).filterMap hexDigit?))).map fun d => ([d], width + 1)
      else none := by
  unfold Script.hexWidth? at h
  split at h
  · cases h
    rfl
  · cases h
    rfl
  · cases h
    rfl
  · cases h

/-- The code points of characters leave out the surrogates. -/
theorem toNat_valid (c : Char) : c.toNat < 0x110000 ∧ ¬ (0xD800 ≤ c.toNat ∧ c.toNat < 0xE000) := by
  have h := c.valid
  simp only [UInt32.isValidChar, Nat.isValidChar] at h
  show c.val.toNat < 0x110000 ∧ ¬ (0xD800 ≤ c.val.toNat ∧ c.val.toNat < 0xE000)
  omega

/-- Every character has a code point that a number escape may name. -/
theorem charOf?_toNat (c : Char) : Script.charOf? c.toNat = some c := by
  unfold Script.charOf?
  rw [if_pos (toNat_valid c), Char.ofNat_toNat]

/-- A number escape is read back: its digits are taken, and their number is that of the character. -/
theorem escape?_hex {letter : Char} {width : Nat} {c : Char} (hletter : Script.hexWidth? letter = some width)
    (hwidth : 0 < width) (hc : c.toNat < Nat.pow 16 width) (more : Text) :
    Script.escape? letter (hex width c.toNat ++ more) = some ([c], (hex width c.toNat).length + 1) := by
  obtain ⟨ds, hlength, hds, htext, hvalue⟩ := hex_eq_map hwidth hc
  have htake : (ds.map Nat.digitChar ++ more).take width = ds.map Nat.digitChar := by
    simp [← hlength]
  rw [escape?_of_hexWidth hletter, htext, htake, filterMap_hexDigit? hds, if_pos hlength, hvalue, charOf?_toNat, List.length_map, hlength]
  rfl

/-- How a character stands between quotes: as itself, or as an escape that is read back as it and whose characters behind
the first one are plain. -/
inductive Escaped (quote c : Char) : Text → Prop
  | plain : c ≠ quote → c ≠ '\\' → isPrintable c → Escaped quote c [c]
  | escape {letter : Char} {rest : Text} : isPrintable letter →
    (∀ more, Script.escape? letter (rest ++ more) = some ([c], rest.length + 1)) →
    (∀ d ∈ rest, d ≠ quote ∧ d ≠ '\\' ∧ isPrintable d) → Escaped quote c ('\\' :: letter :: rest)

theorem quoteFor_cases (s : Text) : quoteFor s = '\'' ∨ quoteFor s = '"' := by
  unfold quoteFor
  split
  · exact .inr rfl
  · exact .inl rfl

variable {quote c : Char}

/-- A number escape stands for its character. -/
theorem escaped_hex {letter : Char} {width : Nat} (hquote : quote = '\'' ∨ quote = '"')
    (hletter : Script.hexWidth? letter = some width) (hprintable : isPrintable letter) (hwidth : 0 < width)
    (hc : c.toNat < Nat.pow 16 width) : Escaped quote c ('\\' :: letter :: hex width c.toNat) := by
  refine .escape hprintable (escape?_hex hletter hwidth hc) ?_
  obtain ⟨ds, -, hds, htext, -⟩ := hex_eq_map hwidth hc
  intro d hd
  rw [htext] at hd
  obtain ⟨n, hn, rfl⟩ := List.mem_map.mp hd
  obtain ⟨hshown, hbackslash, hsingle, hdouble⟩ := digitChar_plain (hds n hn)
  refine ⟨?_, hbackslash, hshown⟩
  rcases hquote with rfl | rfl
  · exact hsingle
  · exact hdouble

/-- Every character stands between quotes so that it is read back. -/
theorem escapeChar_escaped (hquote : quote = '\'' ∨ quote = '"') (c : Char) : Escaped quote c (escapeChar quote c) := by
  unfold escapeChar
  -- one case for each way of writing a character; the number escapes are chosen by size
  by_cases hself : c = quote ∨ c = '\\'
  · rw [if_pos hself]
    have hcases : c = '\'' ∨ c = '"' ∨ c = '\\' := by
      rcases hself with rfl | rfl
      · exact hquote.imp_right .inl
      · exact .inr (.inr rfl)
    rcases hcases with rfl | rfl | rfl <;> exact .escape (by decide) (fun _ => rfl) (by simp)
  rw [if_neg hself]
  rw [not_or] at hself
  by_cases htab : c = '\t'
  · rw [if_pos htab, htab]
    exact .escape (by decide) (fun _ => rfl) (by simp)
  rw [if_neg htab]
  by_cases hbreak : c = '\n'
  · rw [if_pos hbreak, hbreak]
    exact .escape (by decide) (fun _ => rfl) (by simp)
  rw [if_neg hbreak]
  by_cases hreturn : c = '\r'
  · rw [if_pos hreturn, hreturn]
    exact .escape (by decide) (fun _ => rfl) (by simp)
  rw [if_neg hreturn]
  by_cases hshown : isPrintable c
  · rw [if_pos hshown]
    exact .plain hself.1 hself.2 hshown
  rw [if_neg hshown]
  unfold numberEscape
  by_cases hsmall : c.toNat ≤ 0xFF
  · rw [if_pos hsmall]
    have hroom : c.toNat < 0x100 := by omega
    exact escaped_hex hquote rfl (by decide) (by omega) hroom
  rw [if_neg hsmall]
  by_cases hmiddle : c.toNat ≤ 0xFFFF
  · rw [if_pos hmiddle]
    have hroom : c.toNat < 0x10000 := by omega
    exact escaped_hex hquote rfl (by decide) (by omega) hroom
  rw [if_neg hmiddle]
  have hrange : c.toNat < 0x110000 := (toNat_valid c).1
  have hroom : c.toNat < 0x100000000 := by omega
  exact escaped_hex hquote rfl (by decide) (by omega) hroom

/-! ## Printable characters -/

/-- No printable character ends a line. -/
theorem isLineEnd_of_isPrintable (h : isPrintable c) : isLineEnd c = false := by
  have hnone : ['\n', '\r', '\x0b', '\x0c', '\x1c', '\x1d', '\x1e', '\u0085', '\u2028', '\u2029'].any isPrintable =
      false := by decide +kernel
  unfold isLineEnd
  rw [decide_eq_false_iff_not]
  intro hmem
  exact List.any_eq_false.mp hnone c hmem h

/-- The characters that a character becomes between quotes are printable. -/
theorem Escaped.isPrintable {text : Text} (h : Escaped quote c text) : ∀ d ∈ text, isPrintable d := by
  intro d hd
  cases h with
  | plain _ _ hshown =>
    rw [List.mem_singleton.mp hd]
    exact hshown
  | escape hletter _ hrest =>
    rcases List.mem_cons.mp hd with rfl | hd
    · decide
    · rcases List.mem_cons.mp hd with rfl | hd
      · exact hletter
      · exact (hrest d hd).2.2

/-- A quoted text is made of printable characters. -/
theorem isPrintable_of_mem_quoted {s : Text} {d : Char} (hd : d ∈ quoted s) : isPrintable d := by
  have hquote := quoteFor_cases s
  have hends : isPrintable (quoteFor s) := by
    rcases hquote with h | h <;> rw [h] <;> decide
  unfold quoted at hd
  rcases List.mem_append.mp hd with hd | hd
  · rcases List.mem_cons.mp hd with rfl | hd
    · exact hends
    · obtain ⟨c, -, hc⟩ := List.mem_flatMap.mp hd
      exact (escapeChar_escaped hquote c).isPrintable d hc
  · rw [List.mem_singleton.mp hd]
    exact hends

/-! ## The inside of a literal -/

variable {s body rest text : Text}

/-- A character that is neither the quote nor a backslash belongs to the inside of a literal. -/
theorem shortBody?_cons (hquote : c ≠ quote) (hbackslash : c ≠ '\\') (hshown : isPrintable c)
    (h : Script.shortBody? quote s = some (body, rest)) : Script.shortBody? quote (c :: s) = some (c :: body, rest) := by
  have hbreak : c ≠ '\n' := by
    rintro rfl
    exact absurd hshown (by decide)
  rw [Script.shortBody?, if_neg hquote, if_neg hbreak, h]
  · rfl
  · exact fun hc _ => hbackslash hc
  · exact fun _ _ hc _ => hbackslash hc

theorem shortBody?_append (htext : ∀ d ∈ text, d ≠ quote ∧ d ≠ '\\' ∧ isPrintable d)
    (h : Script.shortBody? quote s = some (body, rest)) :
    Script.shortBody? quote (text ++ s) = some (text ++ body, rest) := by
  induction text with
  | nil => exact h
  | cons d text ih =>
    obtain ⟨hquote, hbackslash, hshown⟩ := htext d (by simp)
    exact shortBody?_cons hquote hbackslash hshown (ih fun e he => htext e (by simp [he]))

/-- A character belongs to the inside of a literal, however it is written there. -/
theorem Escaped.shortBody? (hc : Escaped quote c text) (h : Script.shortBody? quote s = some (body, rest)) :
    Script.shortBody? quote (text ++ s) = some (text ++ body, rest) := by
  cases hc with
  | plain hquote hbackslash hshown => exact shortBody?_cons hquote hbackslash hshown h
  | escape _ _ hrest =>
    rw [List.cons_append, List.cons_append, Script.shortBody?, shortBody?_append hrest h]
    rfl

/-- The inside of a quoted text ends at its closing quote. -/
theorem shortBody?_escaped (hquote : quote = '\'' ∨ quote = '"') (s rest : Text) :
    Script.shortBody? quote (s.flatMap (escapeChar quote) ++ quote :: rest) =
      some (s.flatMap (escapeChar quote), rest) := by
  induction s with
  | nil =>
    rcases hquote with rfl | rfl <;> simp [Script.shortBody?]
  | cons c s ih =>
    rw [List.flatMap_cons, List.append_assoc]
    exact (escapeChar_escaped hquote c).shortBody? ih

/-- What an escape takes is skipped. -/
theorem decodeFrom_length (text s : Text) : Script.decodeFrom text.length (text ++ s) = Script.decodeFrom 0 s := by
  induction text with
  | nil => rfl
  | cons c text ih => exact ih

/-- However a character is written, it is decoded to itself. -/
theorem Escaped.decodeFrom (hc : Escaped quote c text) (h : Script.decodeFrom 0 s = some body) :
    Script.decodeFrom 0 (text ++ s) = some (c :: body) := by
  cases hc with
  | plain _ hbackslash _ =>
    rw [List.singleton_append]
    cases s <;> rw [Script.decodeFrom, if_neg hbackslash, h] <;> rfl
  | @escape letter more _ hread _ =>
    have hskip : Script.decodeFrom (more.length + 1) (letter :: (more ++ s)) = some body := by
      rw [← h]
      exact decodeFrom_length (letter :: more) s
    rw [List.cons_append, List.cons_append, Script.decodeFrom, if_pos rfl]
    simp only [hread]
    rw [hskip]
    rfl

/-- The inside of a quoted text is decoded to the text. -/
theorem decode_escaped (hquote : quote = '\'' ∨ quote = '"') (s : Text) :
    Script.decode (s.flatMap (escapeChar quote)) = some s := by
  unfold Script.decode
  induction s with
  | nil => rfl
  | cons c s ih =>
    rw [List.flatMap_cons]
    exact (escapeChar_escaped hquote c).decodeFrom ih

/-! ## The quoted text as an argument -/

/-- The second character of a quoted text is no quote, unless the text is empty. -/
theorem Escaped.head_ne (hquote : quote = '\'' ∨ quote = '"') (hc : Escaped quote c text) :
    ∃ d more, text = d :: more ∧ d ≠ quote := by
  cases hc with
  | plain hne _ _ => exact ⟨c, [], rfl, hne⟩
  | @escape letter more _ _ _ =>
    refine ⟨'\\', letter :: more, rfl, ?_⟩
    rcases hquote with rfl | rfl <;> decide

/-- A quoted text is one literal. -/
theorem body?_quoted (s : Text) :
    Script.body? (quoteFor s) (quoted s) = some (s.flatMap (escapeChar (quoteFor s)), []) := by
  have hquote := quoteFor_cases s
  have hshort := shortBody?_escaped hquote s []
  unfold quoted
  generalize quoteFor s = quote at hquote hshort
  cases s with
  | nil => exact hshort
  | cons c s =>
    -- three quotes would open a literal of many lines, but behind the first stands the text
    obtain ⟨d, more, htext, hne⟩ := (escapeChar_escaped hquote c).head_ne hquote
    rw [List.flatMap_cons, htext] at hshort ⊢
    obtain ⟨e, tail, htail⟩ : ∃ e tail, (more ++ s.flatMap (escapeChar quote)) ++ [quote] = e :: tail := by
      cases h : (more ++ s.flatMap (escapeChar quote)) ++ [quote] with
      | nil => simp at h
      | cons e tail => exact ⟨e, tail, rfl⟩
    simp only [List.cons_append] at hshort ⊢
    rw [htail] at hshort ⊢
    unfold Script.body?
    simp only
    rw [if_neg fun h => hne h.2.1]
    exact hshort

/-- At a quote without letters before it, the literal is what stands between the quotes. -/
theorem literal?_cons (hquote : quote = '\'' ∨ quote = '"') (s : Text) :
    Script.literal? (quote :: s) =
      some ((Script.body? quote (quote :: s)).map fun (body, rest) => (Script.literalOf {} body, rest)) := by
  have hflags : Script.flags? {} (quote :: s) = some ({}, quote :: s) := if_pos hquote
  unfold Script.literal?
  rw [hflags]

/-- A quoted text is a literal that stands for the text, and nothing follows it. -/
theorem literal?_eq_quoted (s : Text) : Script.literal? (quoted s) = some (some (.str s, [])) := by
  have hquote := quoteFor_cases s
  have hvalue : Script.literalOf {} (s.flatMap (escapeChar (quoteFor s))) = .str s := by
    unfold Script.literalOf
    rw [decode_escaped hquote]
    rfl
  have hbody := body?_quoted s
  unfold quoted at hbody ⊢
  rw [List.cons_append] at hbody ⊢
  rw [literal?_cons hquote, hbody, Option.map_some]
  simp only [hvalue]

/-- Without carriage returns there are no line ends to unify. -/
theorem unifyBreaks_eq_self (h : '\r' ∉ s) : Script.unifyBreaks s = s := by
  induction s with
  | nil => rfl
  | cons c s ih =>
    rw [List.mem_cons, not_or] at h
    rw [Script.unifyBreaks, ih h.2]
    · exact fun _ hc _ => h.1 hc.symm
    · exact fun hc => h.1 hc.symm

/-- A line that begins with a quote has no margin. -/
theorem cut_margin (hquote : quote = '\'' ∨ quote = '"') (rounds line : Nat) (s : Text) :
    Script.cut (rounds + 1) line true [] [] (quote :: s) = Script.cut rounds line false [] [] (quote :: s) := by
  rcases hquote with rfl | rfl <;> rfl

/-- At a quote a literal is cut off. -/
theorem cut_literal (hquote : quote = '\'' ∨ quote = '"') {lexeme : Script.Lexeme}
    (h : Script.literal? (quote :: s) = some (some (lexeme, rest))) (rounds line : Nat) :
    Script.cut (rounds + 1) line false [] [] (quote :: s) =
      (Script.cut rounds (line + Script.passed (quote :: s) rest) false [] [] rest).prepend [⟨lexeme, line⟩] := by
  rw [Script.cut.eq_def]
  rcases hquote with rfl | rfl <;> simp [h]

/-- A quoted text is one token, behind which the script ends. -/
theorem tokens_quoted (s : Text) : ∃ line, Script.tokens (quoted s) =
    ⟨[⟨.str s, 1⟩, ⟨.newline, line⟩, ⟨.finish, line⟩], none⟩ := by
  have hunify : Script.unifyBreaks (quoted s) = quoted s := by
    apply unifyBreaks_eq_self
    intro hmem
    exact absurd (isPrintable_of_mem_quoted hmem) (by decide)
  have hquote := quoteFor_cases s
  have hliteral := literal?_eq_quoted s
  obtain ⟨rest, hrest⟩ : ∃ rest, quoted s = quoteFor s :: rest := ⟨_, rfl⟩
  have htokens : Script.tokens (quoted s) = Script.cut (2 * rest.length + 1 + 3) 1 true [] [] (quoted s) := by
    unfold Script.tokens
    simp only [hunify]
    rw [hrest, List.length_cons]
    rfl
  rw [hrest] at hliteral
  rw [htokens, hrest, cut_margin hquote, cut_literal hquote hliteral]
  exact ⟨1 + Script.passed (quoteFor s :: rest) [], rfl⟩

/-- Nothing is stripped from a quoted text. -/
theorem strip_quoted (s : Text) : strip (quoted s) = quoted s := by
  have hblank : isBlank (quoteFor s) = false := by
    rcases quoteFor_cases s with h | h <;> rw [h] <;> decide
  unfold strip stripRight stripLeft quoted
  rw [List.cons_append, List.dropWhile_cons_of_neg (by simp [hblank]), ← List.cons_append, List.reverse_append,
    List.reverse_singleton, List.singleton_append, List.dropWhile_cons_of_neg (by simp [hblank])]
  simp

/-- As an argument, the quoted form of a text is a literal that stands for the text. -/
theorem literal?_quoted (s : Text) : Argument.literal? (quoted s) = some s := by
  have hzero : '\x00' ∉ quoted s := by
    intro hmem
    exact absurd (isPrintable_of_mem_quoted hmem) (by decide)
  obtain ⟨line, htokens⟩ := tokens_quoted s
  unfold Argument.literal?
  simp only [strip_quoted]
  rw [if_neg hzero, htokens]
  simp [Argument.wrapped, Argument.adjacent, Argument.finished]

end Stencil.Text
