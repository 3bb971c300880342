import Mathlib
import Stencil.Number.Shortest
import Stencil.Proofs.Json.RoundTrip
import Stencil.Proofs.Text.Quoted

/-!
# Fractions in documents

The text of a floating point number that is finite is a sign, digits of which the first is zero only where it is the only
one, and behind them places, an exponent, or both.  A number is read in the same parts, so a fraction that is written is
read as a fraction; which one is another matter.

* `Number.shortest_pos` — the shortest decimal form of a positive number is positive, so there are digits to be written.
* `Number.Spelling` — the parts of a text; `Spelling.Good` — what they are like; `Spelling.below`, `pointed`, `scientific`
  — the forms of a decimal number; `exists_spelling` — every finite number is written so.
* `number?_eq`, `places_point`, `exponent_mark` — the parts that a number is read in.
* `unsigned?_spelling`, `number?_spelling` — what is spelled as a fraction is read as one.
* `readsAs_float` — every fraction that is written is read as a fraction.
-/

namespace Stencil.Number

variable {num den m n : Nat} {e e' q : Int} {s : Text}

/-! ## The digits of a shortest decimal form -/

/-- A number reaches a power of ten if that many times its denominator is at most its numerator. -/
theorem floorOn_pos_iff (hden : 0 < den) :
    0 < floorOn num den e ↔ den * 10 ^ e.toNat ≤ num * 10 ^ (-e).toNat := by
  unfold floorOn
  split
  case isTrue h =>
    have hzero : e.toNat = 0 := by omega
    have habs : (-e).toNat = e.natAbs := by omega
    rw [Nat.div_pos_iff, hzero, habs]
    simp [hden]
  case isFalse h =>
    have hzero : (-e).toNat = 0 := by omega
    have habs : e.toNat = e.natAbs := by omega
    have hpow : 0 < 10 ^ e.natAbs := Nat.pow_pos (by decide)
    rw [Nat.div_pos_iff, hzero, habs]
    simp [hden, hpow]

theorem floorOn_pos_of_le (hden : 0 < den) (h : e ≤ e') (hpos : 0 < floorOn num den e') : 0 < floorOn num den e := by
  rw [floorOn_pos_iff hden] at hpos ⊢
  have hup : 10 ^ e.toNat ≤ 10 ^ e'.toNat := Nat.pow_le_pow_right (by decide) (by omega)
  have hdown : 10 ^ (-e').toNat ≤ 10 ^ (-e).toNat := Nat.pow_le_pow_right (by decide) (by omega)
  calc den * 10 ^ e.toNat ≤ den * 10 ^ e'.toNat := Nat.mul_le_mul_left _ hup
    _ ≤ num * 10 ^ (-e').toNat := hpos
    _ ≤ num * 10 ^ (-e).toNat := Nat.mul_le_mul_left _ hdown

/-- The powers of ten between which a positive number lies, by the count of its digits. -/
theorem pow_length_toDigits (h : 0 < n) :
    10 ^ ((Nat.toDigits 10 n).length - 1) ≤ n ∧ n < 10 ^ (Nat.toDigits 10 n).length := by
  have hlength : 0 < (Nat.toDigits 10 n).length := Nat.length_toDigits_pos
  refine ⟨?_, (Nat.length_toDigits_le_iff (by decide) hlength).mp le_rfl⟩
  by_cases hone : (Nat.toDigits 10 n).length = 1
  · rw [hone]
    exact h
  · refine Nat.le_of_not_lt fun hlt => ?_
    have hle := (Nat.length_toDigits_le_iff (by decide) (by omega)).mpr hlt
    omega

/-- A positive number reaches the power of ten that it is said to lead with. -/
theorem floorOn_leading (hnum : 0 < num) (hden : 0 < den) : 0 < floorOn num den (leading num den) := by
  unfold leading
  dsimp only
  split
  case isTrue h =>
    have hlow := (pow_length_toDigits hnum).1
    have hhigh := (pow_length_toDigits hden).2
    have hlength : 0 < (Nat.toDigits 10 num).length := Nat.length_toDigits_pos
    generalize (Nat.toDigits 10 num).length = k at hlow hlength
    generalize (Nat.toDigits 10 den).length = l at hhigh
    rw [floorOn_pos_iff hden]
    calc den * 10 ^ ((k : Int) - l - 1).toNat ≤ 10 ^ l * 10 ^ ((k : Int) - l - 1).toNat :=
          Nat.mul_le_mul_right _ hhigh.le
      _ = 10 ^ (k - 1) * 10 ^ (-((k : Int) - l - 1)).toNat := by
          rw [← Nat.pow_add, ← Nat.pow_add]
          congr 1
          omega
      _ ≤ num * 10 ^ (-((k : Int) - l - 1)).toNat := Nat.mul_le_mul_right _ hlow
  case isFalse h => exact Nat.pos_of_ne_zero h

theorem onGrid_pos {low high : Nat} {ends : Bool} {top : Int} {count : Nat} {d : Decimal}
    (hpos : 0 < floorOn num den (top - (count - 1))) (h : onGrid low num high den ends top count = some d) :
    0 < d.digits := by
  unfold onGrid at h
  dsimp only at h
  split at h
  · split at h <;> obtain rfl := Option.some.inj h <;> dsimp only <;> omega
  · obtain rfl := Option.some.inj h
    exact hpos
  · obtain rfl := Option.some.inj h
    exact Nat.succ_pos _
  · cases h

theorem ratio_pos (hm : 0 < m) : 0 < (ratio m q).1 ∧ 0 < (ratio m q).2 := by
  unfold ratio
  split
  · exact ⟨hm, Nat.pow_pos (by decide)⟩
  · exact ⟨Nat.mul_pos hm (Nat.pow_pos (by decide)), Nat.one_pos⟩

/-- The shortest decimal form of a positive number is positive. -/
theorem shortest_pos (hm : 0 < m) : 0 < (shortest m q).digits := by
  obtain ⟨hnum, hden⟩ := ratio_pos (q := q) hm
  unfold shortest interval
  dsimp only
  have hnum' : 0 < 4 * (ratio m q).1 := by omega
  have hden' : 0 < 4 * (ratio m q).2 := by omega
  cases hfound : List.findSome? _ (List.range 18) with
  | none => exact hnum'
  | some d =>
    obtain ⟨k, -, hk⟩ := List.exists_of_findSome?_eq_some hfound
    exact onGrid_pos (floorOn_pos_of_le hden' (by omega) (floorOn_leading hnum' hden')) hk

/-! ## The parts of a text -/

/-- A decimal digit. -/
def IsDecimal (c : Char) : Prop := '0' ≤ c ∧ c ≤ '9'

/-- One decimal digit or several. -/
def Digits (s : Text) : Prop := s ≠ [] ∧ ∀ c ∈ s, IsDecimal c

theorem digits_zero : Digits ['0'] := ⟨by simp, by simp [IsDecimal]⟩

/-- The parts of the text of a number behind its sign. -/
structure Spelling where
  /-- The digits before the point. -/
  whole : Text
  /-- The digits behind the point. -/
  places : Option Text
  /-- The sign and the digits of the exponent. -/
  power : Option (Char × Text)

namespace Spelling

/-- The text that has these parts. -/
def text (w : Spelling) : Text :=
  w.whole ++ (w.places.elim [] ('.' :: ·) ++ w.power.elim [] fun (sign, digits) => 'e' :: sign :: digits)

/-- The parts are digits, those before the point begin with a zero only if it is the only one, and there are places or an
exponent. -/
structure Good (w : Spelling) : Prop where
  whole : Digits w.whole
  first : w.whole.head? = some '0' → w.whole = ['0']
  places : ∀ digits ∈ w.places, Digits digits
  power : ∀ p ∈ w.power, (p.1 = '-' ∨ p.1 = '+') ∧ Digits p.2
  fractional : w.places.isSome ∨ w.power.isSome

end Spelling

theorem isDecimal_digitChar {d : Nat} (hd : d < 10) : IsDecimal (Nat.digitChar d) := by
  have hall : ∀ d : Fin 10, '0' ≤ Nat.digitChar d ∧ Nat.digitChar d ≤ '9' := by decide
  exact hall ⟨d, hd⟩

/-- A number is written in digits, and a positive one does not begin with zero. -/
theorem digits_ofNat (n : Nat) : Digits (Text.ofNat n) ∧ (0 < n → (Text.ofNat n).head? ≠ some '0') := by
  obtain ⟨d, ds, hds, htext, hvalue, hfirst⟩ := Text.toDigits_eq_map (by omega : 1 < 10) n
  rw [Text.ofNat, htext]
  refine ⟨⟨by simp, fun c hc => ?_⟩, fun hn hhead => ?_⟩
  · obtain ⟨e, he, rfl⟩ := List.mem_map.mp hc
    exact isDecimal_digitChar (hds e he)
  · rw [List.map_cons, List.head?_cons, Option.some_inj, Nat.digitChar_eq_zero] at hhead
    rw [hhead, hfirst hhead] at hvalue
    exact absurd hvalue (by simp [Text.ofDigits]; omega)

/-- Without trailing zeros the digits of a positive number are still digits and begin as they did. -/
theorem digits_trimZeros (hn : 0 < n) :
    Digits (trimZeros (Text.ofNat n)) ∧ (trimZeros (Text.ofNat n)).head? ≠ some '0' := by
  obtain ⟨⟨hne, hall⟩, hhead⟩ := digits_ofNat n
  have hleads : trimZeros (Text.ofNat n) <+: Text.ofNat n := List.rdropWhile_prefix _ _
  have hkept : trimZeros (Text.ofNat n) ≠ [] := by
    intro hnil
    obtain ⟨c, s, hcons⟩ := List.exists_cons_of_ne_nil hne
    have hzero := (List.rdropWhile_eq_nil_iff (p := (· == '0'))).mp hnil c (hcons ▸ List.mem_cons_self)
    exact hhead hn (by rw [hcons, List.head?_cons, eq_of_beq hzero])
  refine ⟨⟨hkept, fun c hc => hall c (hleads.subset hc)⟩, fun hzero => hhead hn ?_⟩
  obtain ⟨rest, hrest⟩ := hleads
  rw [← hrest, List.head?_append_of_ne_nil _ hkept, hzero]

theorem Digits.append {s t : Text} (hs : Digits s) (ht : ∀ c ∈ t, IsDecimal c) : Digits (s ++ t) :=
  ⟨by simp [hs.1], List.forall_mem_append.mpr ⟨hs.2, ht⟩⟩

theorem isDecimal_replicate {k : Nat} : ∀ c ∈ List.replicate k '0', IsDecimal c := by
  intro c hc
  rw [List.eq_of_mem_replicate hc]
  exact ⟨Char.le_refl _, by decide⟩

/-! ## The forms of a decimal number -/

section Forms

variable {digits : Text} {k : Nat}

theorem Digits.take (h : Digits digits) (hfirst : digits.head? ≠ some '0') (hk : 0 < k) :
    Digits (digits.take k) ∧ (digits.take k).head? ≠ some '0' := by
  obtain ⟨c, s, rfl⟩ := List.exists_cons_of_ne_nil h.1
  obtain ⟨k, rfl⟩ : ∃ l, k = l + 1 := ⟨k - 1, by omega⟩
  exact ⟨⟨by simp, fun c hc => h.2 c (List.mem_of_mem_take hc)⟩, by simpa using hfirst⟩

theorem Digits.drop (h : Digits digits) (hk : digits.drop k ≠ []) : Digits (digits.drop k) :=
  ⟨hk, fun c hc => h.2 c (List.mem_of_mem_drop hc)⟩

namespace Spelling

/-- Below one: the places begin with so many zeros. -/
def below (k : Nat) (digits : Text) : Spelling := ⟨['0'], some (List.replicate k '0' ++ digits), none⟩

/-- The point stands behind so many of the digits, or behind them and the zeros that fill up. -/
def pointed (k : Nat) (digits : Text) : Spelling :=
  ⟨Text.padRight k '0' (digits.take k), some (if digits.length ≤ k then ['0'] else digits.drop k), none⟩

/-- One digit before the point, and an exponent. -/
def scientific (point : Int) (digits : Text) : Spelling :=
  ⟨digits.take 1, if (digits.drop 1).isEmpty then none else some (digits.drop 1),
    some (if point < 0 then '-' else '+', Text.padLeft 2 '0' (Text.ofNat point.natAbs))⟩

theorem good_below (h : Digits digits) : (below k digits).Good where
  whole := digits_zero
  first _ := rfl
  places := by
    rintro _ ⟨⟩
    exact ⟨by simp [h.1], List.forall_mem_append.mpr ⟨isDecimal_replicate, h.2⟩⟩
  power := by rintro _ ⟨⟩
  fractional := .inl rfl

theorem good_pointed (h : Digits digits) (hfirst : digits.head? ≠ some '0') (hk : 0 < k) : (pointed k digits).Good := by
  obtain ⟨hwhole, hhead⟩ := h.take hfirst hk
  refine ⟨hwhole.append isDecimal_replicate, fun hzero => ?_, ?_, ?_, .inl rfl⟩
  · rw [pointed, Text.padRight, List.head?_append_of_ne_nil _ hwhole.1] at hzero
    exact absurd hzero hhead
  · rintro _ ⟨⟩
    split
    case isTrue => exact digits_zero
    case isFalse hlong => exact h.drop (by simpa using hlong)
  · rintro _ ⟨⟩

theorem good_scientific {point : Int} (h : Digits digits) (hfirst : digits.head? ≠ some '0') :
    (scientific point digits).Good := by
  obtain ⟨hwhole, hhead⟩ := h.take hfirst Nat.one_pos
  refine ⟨hwhole, fun hzero => absurd hzero hhead, fun places hplaces => ?_, ?_, .inr rfl⟩
  · rw [scientific] at hplaces
    dsimp only at hplaces
    split at hplaces
    case isTrue => cases hplaces
    case isFalse hrest =>
      obtain rfl := Option.some.inj hplaces
      exact h.drop (by simpa using hrest)
  · rintro _ ⟨⟩
    obtain ⟨⟨hpower, hdigits⟩, -⟩ := digits_ofNat point.natAbs
    refine ⟨?_, by simp [Text.padLeft, hpower], List.forall_mem_append.mpr ⟨isDecimal_replicate, hdigits⟩⟩
    dsimp only
    split
    · exact .inl rfl
    · exact .inr rfl

end Spelling

/-- A positive decimal number is spelled as a fraction, whatever its form. -/
theorem exists_spelling_decimal (form : Form) {d : Decimal} (hd : 0 < d.digits) :
    ∃ w : Spelling, w.Good ∧ w.text = d.text form := by
  obtain ⟨h, hfirst⟩ := digits_trimZeros hd
  unfold Decimal.text
  dsimp only
  generalize trimZeros (Text.ofNat d.digits) = digits at h hfirst
  generalize ((Text.ofNat d.digits).length : Int) + d.exponent - 1 = point
  split
  case isTrue =>
    split
    case isTrue => exact ⟨.below (point.natAbs - 1) digits, Spelling.good_below h, by simp [Spelling.text, Spelling.below]⟩
    case isFalse =>
      exact ⟨.pointed (point.toNat + 1) digits, Spelling.good_pointed h hfirst (Nat.succ_pos _),
        by simp [Spelling.text, Spelling.pointed]⟩
  case isFalse =>
    refine ⟨.scientific point digits, Spelling.good_scientific h hfirst, ?_⟩
    unfold Spelling.text Spelling.scientific
    dsimp only
    split <;> split <;> simp

end Forms

/-- A floating point number is written as a fraction behind its sign, unless it is infinite or no number. -/
theorem exists_spelling {x : Float} {negative : Bool} (hx : parts x = .finite negative m q) :
    ∃ w : Spelling, w.Good ∧ floatText x = (if negative then ['-'] else []) ++ w.text := by
  have hsign : (if negative then "-" else [] : Text) = if negative then ['-'] else [] := by cases negative <;> rfl
  unfold floatText
  rw [hx]
  dsimp only
  rw [hsign]
  by_cases hm : m = 0
  · rw [if_pos hm]
    refine ⟨⟨['0'], some ['0'], none⟩, ⟨?_, ?_, ?_, ?_, ?_⟩, rfl⟩
    · exact digits_zero
    · exact fun _ => rfl
    · rintro _ ⟨⟩
      exact digits_zero
    · rintro _ ⟨⟩
    · exact .inl rfl
  · rw [if_neg hm]
    obtain ⟨w, hw, htext⟩ := exists_spelling_decimal .plain (shortest_pos (q := q) (Nat.pos_of_ne_zero hm))
    exact ⟨w, hw, by rw [htext]⟩

end Stencil.Number

namespace Stencil.Json

variable {c : Char} {s rest tail : Text}

/-! ## The parts of a number -/

/-- The digits before the point, and the rest: a zero stands alone. -/
def wholeOf (s : Text) : Text × Text := if s.head? = some '0' then (['0'], s.tail) else digits s

/-- What the parts of a number stand for: without places and without an exponent it is whole. -/
def amountOf (negative : Bool) (whole : Text) (fraction : Option Text) (power : Option Int) : Json :=
  let value := Text.ofDigits 10 ((whole ++ fraction.getD []).filterMap Text.digit?)
  if fraction.isNone ∧ power.isNone then .int (if negative then -(value : Int) else value)
  else
    let x := Number.ofDecimal value (power.getD 0 - (fraction.getD []).length)
    .float (if negative then -x else x)

/-- The number behind its sign at the head of a text. -/
def unsigned? (negative : Bool) (s : Text) : Option (Json × Text) :=
  if (wholeOf s).1 = [] then none
  else
    let fraction := places (wholeOf s).2
    let power := exponent fraction.2
    some (amountOf negative (wholeOf s).1 fraction.1 power.1, power.2)

/-- A minus sign stands before the rest of a number. -/
theorem number?_eq (s : Text) :
    number? s = if s.head? = some '-' then unsigned? true s.tail else unsigned? false s := by
  unfold number?
  split
  case h_1 negative body hsign =>
  split
  case h_1 whole rest hwhole =>
  have hof : wholeOf body = (whole, rest) := by
    split at hwhole
    case h_1 r => exact hwhole
    case h_2 h =>
      rw [wholeOf, if_neg]
      · exact hwhole
      · intro hhead
        obtain ⟨r, rfl⟩ := List.head?_eq_some_iff.mp hhead
        exact h r rfl
  have hunsigned : unsigned? negative body =
      if whole = [] then none
      else some (amountOf negative whole (places rest).1 (exponent (places rest).2).1, (exponent (places rest).2).2) := by
    rw [unsigned?, hof]
  have hbody : unsigned? negative body = if s.head? = some '-' then unsigned? true s.tail else unsigned? false s := by
    split at hsign
    case h_1 r =>
      obtain ⟨rfl, rfl⟩ := Prod.mk.inj hsign
      rfl
    case h_2 h =>
      obtain ⟨rfl, rfl⟩ := Prod.mk.inj hsign
      rw [if_neg]
      intro hhead
      obtain ⟨r, rfl⟩ := List.head?_eq_some_iff.mp hhead
      exact h r rfl
  rw [← hbody, hunsigned]
  simp only [amountOf, List.isEmpty_iff]
  split
  · rfl
  · split <;> rfl

theorem places_point (s : Text) :
    places ('.' :: s) = if (digits s).1 = [] then (none, '.' :: s) else (some (digits s).1, (digits s).2) := by
  unfold places
  split
  · rename_i heq
    obtain rfl := (List.cons.inj heq).2
    split
    · rename_i h
      rw [h]
      rfl
    · rename_i h h'
      rw [h', if_neg]
      rintro rfl
      exact h rfl
  · rename_i h
    exact absurd rfl (h s)

theorem places_of_ne (h : s.head? ≠ some '.') : places s = (none, s) := by
  unfold places
  split
  · exact absurd rfl h
  · rfl

theorem digits_nil : digits [] = ([], []) := rfl

/-- What stands behind a sign, if there is one. -/
def behindSign (s : Text) : Text := if s.head? = some '-' ∨ s.head? = some '+' then s.tail else s

/-- An exponent is its mark, a sign that may be left out, and digits. -/
theorem exponent_mark (hc : c = 'e' ∨ c = 'E') (s : Text) :
    exponent (c :: s) = if (digits (behindSign s)).1 = [] then (none, c :: s) else
      (some ((if s.head? = some '-' then (-1 : Int) else 1) *
        Text.ofDigits 10 ((digits (behindSign s)).1.filterMap Text.digit?)), (digits (behindSign s)).2) := by
  cases s with
  | nil => simp [exponent, hc, behindSign, digits_nil]
  | cons d r =>
    by_cases hminus : d = '-'
    · subst hminus
      rcases hfound : digits r with ⟨_ | ⟨e, ds⟩, rest⟩ <;> simp [exponent, hc, behindSign, hfound]
    · by_cases hplus : d = '+'
      · subst hplus
        rcases hfound : digits r with ⟨_ | ⟨e, ds⟩, rest⟩ <;> simp [exponent, hc, behindSign, hfound]
      · rcases hfound : digits (d :: r) with ⟨_ | ⟨e, ds⟩, rest⟩ <;>
          simp [exponent, hc, behindSign, hminus, hplus, hfound]

theorem exponent_of_ne (h : ∀ c ∈ s.head?, c ≠ 'e' ∧ c ≠ 'E') : exponent s = (none, s) := by
  unfold exponent
  split
  case h_1 c rest => 
    obtain ⟨hsmall, hlarge⟩ := h c rfl
    rw [if_neg fun he => he.elim hsmall hlarge]
  case h_2 => rfl

/-! ## What is spelled as a fraction -/

open Number (IsDecimal Digits Spelling)

theorem wholeOf_append {whole : Text} (h : Digits whole) (hfirst : whole.head? = some '0' → whole = ['0'])
    (hrest : ∀ c ∈ rest.head?, ¬ IsDecimal c) : wholeOf (whole ++ rest) = (whole, rest) := by
  rw [wholeOf, List.head?_append_of_ne_nil _ h.1]
  split
  case isTrue hzero =>
    rw [hfirst hzero]
    rfl
  case isFalse => exact digits_of_decimal h.2 hrest

theorem places_append {found : Option Text} (h : ∀ ds ∈ found, Digits ds)
    (hrest : ∀ c ∈ rest.head?, ¬ IsDecimal c ∧ c ≠ '.') :
    places (found.elim [] ('.' :: ·) ++ rest) = (found, rest) := by
  cases found with
  | none => exact places_of_ne fun hpoint => (hrest '.' hpoint).2 rfl
  | some ds =>
    obtain ⟨hne, hall⟩ := h ds rfl
    rw [Option.elim_some, List.cons_append, places_point, digits_of_decimal hall fun c hc => (hrest c hc).1, if_neg hne]

theorem exponent_append {power : Option (Char × Text)} (h : ∀ p ∈ power, (p.1 = '-' ∨ p.1 = '+') ∧ Digits p.2) :
    ∃ value : Option Int, value.isSome = power.isSome ∧ ∀ tail, Stops tail →
      exponent (power.elim [] (fun (sign, ds) => 'e' :: sign :: ds) ++ tail) = (value, tail) := by
  cases power with
  | none => exact ⟨none, rfl, fun tail htail => exponent_of_stops htail⟩
  | some p =>
    obtain ⟨sign, ds⟩ := p
    obtain ⟨hsign, hne, hall⟩ := h (sign, ds) rfl
    dsimp only at hsign
    refine ⟨some ((if sign = '-' then -1 else 1) * Text.ofDigits 10 (ds.filterMap Text.digit?)), rfl, fun tail htail => ?_⟩
    have hread := exponent_mark (.inl rfl : 'e' = 'e' ∨ 'e' = 'E') (sign :: (ds ++ tail))
    have hsigned : (sign :: (ds ++ tail)).head? = some '-' ∨ (sign :: (ds ++ tail)).head? = some '+' := by
      simpa using hsign
    rw [behindSign, if_pos hsigned, List.tail_cons, digits_of_decimal hall fun c hc => (htail c hc).1, if_neg hne, List.head?_cons]
      at hread
    simpa using hread

/-- An exponent, or what stops a number, begins with no digit and no point. -/
theorem head_exponent {power : Option (Char × Text)} (htail : Stops tail) :
    ∀ c ∈ (power.elim [] (fun (sign, ds) => 'e' :: sign :: ds) ++ tail).head?, ¬ IsDecimal c ∧ c ≠ '.' := by
  intro c hc
  cases power with
  | none => exact ⟨(htail c hc).1, (htail c hc).2.1⟩
  | some p =>
    obtain rfl := Option.some.inj hc
    exact ⟨by simp [IsDecimal], by decide⟩

theorem head_places {found : Option Text} (hrest : ∀ c ∈ rest.head?, ¬ IsDecimal c ∧ c ≠ '.') :
    ∀ c ∈ (found.elim [] ('.' :: ·) ++ rest).head?, ¬ IsDecimal c := by
  intro c hc
  cases found with
  | none => exact (hrest c hc).1
  | some ds =>
    obtain rfl := Option.some.inj hc
    simp [IsDecimal]

/-- The parts of a spelling behind its sign are read one after the other. -/
theorem unsigned?_spelling {w : Spelling} (hw : w.Good) (negative : Bool) :
    ∃ x, ∀ tail, Stops tail → unsigned? negative (w.text ++ tail) = some (.float x, tail) := by
  obtain ⟨value, hsome, hpower⟩ := exponent_append hw.power
  have hfloat : ∃ x, amountOf negative w.whole w.places value = .float x := by
    have hnone : ¬ (w.places.isNone ∧ value.isNone) := by
      rw [← Option.not_isSome, ← Option.not_isSome, hsome]
      rcases hw.fractional with h | h <;> simp [h]
    rw [amountOf]
    dsimp only
    rw [if_neg hnone]
    exact ⟨_, rfl⟩
  obtain ⟨x, hx⟩ := hfloat
  refine ⟨x, fun tail htail => ?_⟩
  have hhead : ∀ c ∈ (w.power.elim [] (fun (sign, ds) => 'e' :: sign :: ds) ++ tail).head?, ¬ IsDecimal c ∧ c ≠ '.' :=
    head_exponent htail
  rw [Spelling.text, List.append_assoc, List.append_assoc, unsigned?,
    wholeOf_append hw.whole hw.first (head_places hhead)]
  dsimp only
  rw [if_neg hw.whole.1, places_append hw.places hhead, hpower tail htail, hx]

/-- What is spelled as a fraction is read as one, if nothing follows that it could go on with. -/
theorem number?_spelling {w : Spelling} (hw : w.Good) (negative : Bool) :
    ∃ x, ∀ tail, Stops tail →
      number? ((if negative then ['-'] else []) ++ w.text ++ tail) = some (.float x, tail) := by
  obtain ⟨x, hunsigned⟩ := unsigned?_spelling hw negative
  refine ⟨x, fun tail htail => ?_⟩
  rw [number?_eq, List.append_assoc]
  cases negative with
  | true => exact hunsigned tail htail
  | false =>
    have hminus : (w.text ++ tail).head? ≠ some '-' := by
      rw [Spelling.text, List.append_assoc, List.head?_append_of_ne_nil _ hw.whole.1]
      intro h
      exact absurd (hw.whole.2 '-' (List.mem_of_head? h)) (by simp [IsDecimal])
    rw [if_neg Bool.false_ne_true, List.nil_append, if_neg hminus]
    exact hunsigned tail htail

/-- Every fraction that is written is read as a fraction: as its digits, or as the word for what is infinite or no
number. -/
theorem readsAs_float (layout : Layout) (x : Float) : ∃ y, ReadsAs layout (.float x) (.float y) := by
  have hprint : ∀ level, printAt layout level (.float x) = number x := fun _ => rfl
  unfold number at hprint
  cases hparts : Number.parts x with
  | nan =>
    rw [hparts] at hprint
    exact ⟨_, readsAs_word hprint ⟨'N', _, rfl, by decide⟩ fun _ => rfl⟩
  | infinite negative =>
    rw [hparts] at hprint
    cases negative with
    | true => exact ⟨_, readsAs_word hprint ⟨'-', _, rfl, by decide⟩ fun _ => rfl⟩
    | false => exact ⟨_, readsAs_word hprint ⟨'I', _, rfl, by decide⟩ fun _ => rfl⟩
  | finite negative m q =>
    rw [hparts] at hprint
    obtain ⟨w, hw, htext⟩ := Number.exists_spelling hparts
    obtain ⟨y, hread⟩ := number?_spelling hw negative
    rw [← htext] at hread
    refine ⟨y, readsAs_number hprint ?_ hread fun _ => rfl⟩
    obtain ⟨c, s, hwhole⟩ := List.exists_cons_of_ne_nil hw.whole.1
    have hfirst : ∃ more, w.text = c :: more := by
      rw [Spelling.text, hwhole]
      exact ⟨_, rfl⟩
    obtain ⟨more, hmore⟩ := hfirst
    refine ⟨c, more, hw.whole.2 c (hwhole ▸ List.mem_cons_self), ?_⟩
    rw [htext, hmore]
    cases negative with
    | true => exact .inr rfl
    | false => exact .inl rfl

end Stencil.Json
