import Mathlib.Data.List.TakeWhile
import Stencil.Output.Embedded
import Stencil.Proofs.Json.Fraction
import Stencil.Proofs.Step

/-!
# Documents inside a page

In a document the characters that markup is made of occur in strings only, and an escape takes the place of each.  The
text is read as the same document behind that as before, whatever else it holds: an escape stands where a character
stood, and no reader of an escape, a number or a word takes the one for a part of it and not the other.

* `IsMark` — the characters that markup is made of; `markless_embed` — none of them is left.
* `Takes` — a reader of the head of a text that does not look at them; `number?_embed` — numbers are read by such.
* `unit?_embed`, `lowUnit?_embed` — a unit in front of what is escaped is the same unit, and not the first of a pair.
* `stringFrom_embed` — strings, by induction on their length.
* `valueFrom_embed` — values, items and members, by induction on the rounds; `read_embed` — whole documents.
-/

namespace Stencil

namespace Output

open Json

variable {α : Type} {c d : Char} {s t rest text : Text} {left left' : Nat}

/-! ## The characters that markup is made of -/

/-- A character that markup is made of. -/
def IsMark (c : Char) : Prop := c = '<' ∨ c = '>' ∨ c = '&'

instance (c : Char) : Decidable (IsMark c) := inferInstanceAs (Decidable (_ ∨ _ ∨ _))

/-- A text without the characters that markup is made of. -/
def Markless (s : Text) : Prop := ∀ c ∈ s, ¬ IsMark c

theorem markless_nil : Markless [] := List.forall_mem_nil _

theorem Markless.append (hs : Markless s) (ht : Markless t) : Markless (s ++ t) :=
  List.forall_mem_append.mpr ⟨hs, ht⟩

theorem Markless.cons (hc : ¬ IsMark c) (hs : Markless s) : Markless (c :: s) := List.forall_mem_cons.mpr ⟨hc, hs⟩

theorem embeddedChar_plain (h : ¬ IsMark c) : embeddedChar c = [c] := by
  simp only [IsMark, not_or] at h
  rw [embeddedChar, if_neg h.1, if_neg h.2.1, if_neg h.2.2]

/-- What markup is made of is written as the escape of its unit. -/
theorem embeddedChar_mark (h : IsMark c) : embeddedChar c = unitsOf c := by
  rcases h with rfl | rfl | rfl <;> decide

theorem markless_embeddedChar (c : Char) : Markless (embeddedChar c) := by
  by_cases h : IsMark c
  · rcases h with rfl | rfl | rfl <;> simp [Markless, IsMark, embeddedChar]
  · rw [embeddedChar_plain h]
    exact List.forall_mem_singleton.mpr h

theorem markless_embed (s : Text) : Markless (embed s) := by
  intro c hc
  obtain ⟨d, -, hd⟩ := List.mem_flatMap.mp hc
  exact markless_embeddedChar d c hd

theorem embed_cons_plain (h : ¬ IsMark c) (s : Text) : embed (c :: s) = c :: embed s := by
  rw [embed, List.flatMap_cons, embeddedChar_plain h]
  rfl

theorem embed_append (h : Markless text) (s : Text) : embed (text ++ s) = text ++ embed s := by
  induction text with
  | nil => rfl
  | cons c text ih =>
    obtain ⟨hc, htext⟩ := List.forall_mem_cons.mp h
    rw [List.cons_append, embed_cons_plain hc, ih htext, List.cons_append]

/-- What markup is made of begins with a backslash behind embedding. -/
theorem embed_cons_mark (h : IsMark c) (s : Text) : ∃ more, embed (c :: s) = '\\' :: more := by
  rw [embed, List.flatMap_cons]
  rcases h with rfl | rfl | rfl <;> exact ⟨_, rfl⟩

theorem embed_ne_nil (h : s ≠ []) : embed s ≠ [] := by
  cases s with
  | nil => exact absurd rfl h
  | cons c s =>
    by_cases hc : IsMark c
    · obtain ⟨more, hmore⟩ := embed_cons_mark hc s
      simp [hmore]
    · simp [embed_cons_plain hc]

/-- Behind embedding a text begins with the same character, unless that is one that markup is made of. -/
theorem head?_embed (hd : ¬ IsMark d ∧ d ≠ '\\') : (embed s).head? = some d ↔ s.head? = some d := by
  cases s with
  | nil => rfl
  | cons c s =>
    by_cases hc : IsMark c
    · obtain ⟨more, hmore⟩ := embed_cons_mark hc s
      rw [hmore, List.head?_cons, List.head?_cons, Option.some_inj, Option.some_inj]
      exact ⟨fun h => absurd h.symm hd.2, fun h => absurd (h ▸ hc) hd.1⟩
    · rw [embed_cons_plain hc, List.head?_cons, List.head?_cons]

theorem tail_embed (hd : ¬ IsMark d) (h : s.head? = some d) : (embed s).tail = embed s.tail := by
  obtain ⟨s, rfl⟩ : ∃ t, s = d :: t := List.head?_eq_some_iff.mp h
  rw [embed_cons_plain hd]
  rfl

/-! ## Blanks, digits and words -/

/-- A class of characters that neither markup nor an escape begins with is taken in full. -/
theorem span_embed {p : Char → Bool} (hmark : ∀ c, IsMark c → p c = false) (hescape : p '\\' = false) (s : Text) :
    (embed s).takeWhile p = s.takeWhile p ∧ (embed s).dropWhile p = embed (s.dropWhile p) := by
  induction s with
  | nil => exact ⟨rfl, rfl⟩
  | cons c s ih =>
    by_cases hc : IsMark c
    · obtain ⟨more, hmore⟩ := embed_cons_mark hc s
      have hp := hmark c hc
      rw [hmore, List.takeWhile_cons_of_neg (by simp [hescape]), List.dropWhile_cons_of_neg (by simp [hescape]),
        List.takeWhile_cons_of_neg (by simp [hp]), List.dropWhile_cons_of_neg (by simp [hp]), hmore]
      exact ⟨rfl, rfl⟩
    · rw [embed_cons_plain hc]
      by_cases hp : p c
      · rw [List.takeWhile_cons_of_pos hp, List.takeWhile_cons_of_pos hp, List.dropWhile_cons_of_pos hp,
          List.dropWhile_cons_of_pos hp, ih.1]
        exact ⟨rfl, ih.2⟩
      · rw [List.takeWhile_cons_of_neg hp, List.takeWhile_cons_of_neg hp, List.dropWhile_cons_of_neg hp,
          List.dropWhile_cons_of_neg hp, embed_cons_plain hc]
        exact ⟨rfl, rfl⟩

theorem skip_embed (s : Text) : skip (embed s) = embed (skip s) :=
  (span_embed (by rintro c (rfl | rfl | rfl) <;> rfl) rfl s).2

theorem after?_embed {word : Text} (hword : ∀ d ∈ word, ¬ IsMark d ∧ d ≠ '\\') (s : Text) :
    Text.after? word (embed s) = (Text.after? word s).map embed := by
  induction word generalizing s with
  | nil => rfl
  | cons d word ih =>
    obtain ⟨hd, hword⟩ := List.forall_mem_cons.mp hword
    cases s with
    | nil => rfl
    | cons c s =>
      by_cases hc : IsMark c
      · obtain ⟨more, hmore⟩ := embed_cons_mark hc s
        have hne : d ≠ c := fun h => hd.1 (by rwa [h])
        rw [hmore, Text.after?, Text.after?, if_neg hd.2, if_neg hne]
        rfl
      · rw [embed_cons_plain hc, Text.after?, Text.after?]
        split
        · exact ih hword s
        · rfl

theorem findSome?_embed {words : List (Text × Json)} (h : ∀ w ∈ words, ∀ d ∈ w.1, ¬ IsMark d ∧ d ≠ '\\') (s : Text) :
    (words.findSome? fun (word, value) => (Text.after? word (embed s)).map fun rest => (value, rest)) =
      (words.findSome? fun (word, value) => (Text.after? word s).map fun rest => (value, rest)).map
        fun (value, rest) => (value, embed rest) := by
  induction words with
  | nil => rfl
  | cons w words ih =>
    obtain ⟨hw, hwords⟩ := List.forall_mem_cons.mp h
    rw [List.findSome?_cons, List.findSome?_cons]
    dsimp only
    rw [after?_embed hw]
    cases Text.after? w.1 s with
    | none => exact ih hwords
    | some rest => rfl

theorem word?_embed (s : Text) : word? (embed s) = (word? s).map fun (value, rest) => (value, embed rest) := by
  have hunmarked {word : Text} (h : word.all fun d => ¬ IsMark d ∧ d ≠ '\\') : ∀ d ∈ word, ¬ IsMark d ∧ d ≠ '\\' :=
    fun d hd => of_decide_eq_true (List.all_eq_true.mp h d hd)
  refine findSome?_embed ?_ s
  simp only [List.forall_mem_cons, List.not_mem_nil, false_implies, implies_true, and_true]
  exact ⟨hunmarked (by decide), hunmarked (by decide), hunmarked (by decide), hunmarked (by decide),
    hunmarked (by decide), hunmarked (by decide)⟩

/-! ## Numbers -/

/-- A reader of the head of a text that takes nothing that markup is made of, and takes the same whether that is embedded
or not. -/
def Takes (f : Text → α × Text) : Prop :=
  ∀ s, f (embed s) = ((f s).1, embed (f s).2) ∧ ∃ text, Markless text ∧ s = text ++ (f s).2

theorem digits_takes : Takes digits := by
  intro s
  have hmark : ∀ c, IsMark c → (decide ('0' ≤ c) && decide (c ≤ '9')) = false := by
    rintro c (rfl | rfl | rfl) <;> decide
  obtain ⟨htake, hdrop⟩ := span_embed hmark (by decide) s
  rw [digits, digits, List.span_eq_takeWhile_dropWhile, List.span_eq_takeWhile_dropWhile, htake, hdrop]
  refine ⟨rfl, _, fun c hc hcmark => ?_, (List.takeWhile_append_dropWhile ..).symm⟩
  have hp := List.mem_takeWhile_imp hc
  rw [hmark c hcmark] at hp
  cases hp

theorem wholeOf_takes : Takes wholeOf := by
  intro s
  by_cases hzero : s.head? = some '0'
  · have hzero' := (head?_embed (by decide)).mpr hzero
    rw [wholeOf, wholeOf, if_pos hzero, if_pos hzero', tail_embed (by decide) hzero]
    obtain ⟨t, rfl⟩ := List.head?_eq_some_iff.mp hzero
    exact ⟨rfl, ['0'], by simp [Markless, IsMark], rfl⟩
  · have hzero' : (embed s).head? ≠ some '0' := by rwa [Ne, head?_embed (by decide)]
    rw [wholeOf, wholeOf, if_neg hzero, if_neg hzero']
    exact digits_takes s

theorem places_takes : Takes places := by
  intro s
  by_cases hpoint : s.head? = some '.'
  · obtain ⟨t, rfl⟩ := List.head?_eq_some_iff.mp hpoint
    obtain ⟨hread, text, htext, ht⟩ := digits_takes t
    rw [embed_cons_plain (by decide), places_point, places_point, hread]
    dsimp only
    split
    case isTrue => exact ⟨by rw [embed_cons_plain (by decide)], [], markless_nil, rfl⟩
    case isFalse => exact ⟨rfl, '.' :: text, htext.cons (by decide), congrArg _ ht⟩
  · have hpoint' : (embed s).head? ≠ some '.' := by rwa [Ne, head?_embed (by decide)]
    rw [places_of_ne hpoint, places_of_ne hpoint']
    exact ⟨rfl, [], markless_nil, rfl⟩

theorem behindSign_embed (s : Text) :
    behindSign (embed s) = embed (behindSign s) ∧ ∃ text, Markless text ∧ s = text ++ behindSign s := by
  by_cases hsign : s.head? = some '-' ∨ s.head? = some '+'
  · have hsign' := hsign.imp (head?_embed (by decide)).mpr (head?_embed (by decide)).mpr
    rw [behindSign, behindSign, if_pos hsign, if_pos hsign']
    rcases hsign with h | h <;> refine ⟨tail_embed (by decide) h, ?_⟩ <;>
      obtain ⟨t, rfl⟩ := List.head?_eq_some_iff.mp h
    · exact ⟨['-'], by simp [Markless, IsMark], rfl⟩
    · exact ⟨['+'], by simp [Markless, IsMark], rfl⟩
  · have hsign' : ¬ ((embed s).head? = some '-' ∨ (embed s).head? = some '+') := by
      rwa [head?_embed (by decide), head?_embed (by decide)]
    rw [behindSign, behindSign, if_neg hsign, if_neg hsign']
    exact ⟨rfl, [], markless_nil, rfl⟩

theorem exponent_takes : Takes exponent := by
  intro s
  by_cases hmark : ∀ c ∈ s.head?, c ≠ 'e' ∧ c ≠ 'E'
  · have hmark' : ∀ c ∈ (embed s).head?, c ≠ 'e' ∧ c ≠ 'E' := by
      refine fun c hc => ⟨?_, ?_⟩ <;> rintro rfl <;> have h := (head?_embed (by decide)).mp hc
      · exact (hmark _ h).1 rfl
      · exact (hmark _ h).2 rfl
    rw [exponent_of_ne hmark, exponent_of_ne hmark']
    exact ⟨rfl, [], markless_nil, rfl⟩
  · obtain ⟨c, t, rfl, hc⟩ : ∃ c t, s = c :: t ∧ (c = 'e' ∨ c = 'E') := by
      cases s with
      | nil => exact absurd (fun c hc => by cases hc) hmark
      | cons c t => exact ⟨c, t, rfl, by simpa [Decidable.or_iff_not_not_and_not] using hmark⟩
    have hplain : ¬ IsMark c := by rcases hc with rfl | rfl <;> decide
    obtain ⟨hsign, sign, hsignless, ht⟩ := behindSign_embed t
    obtain ⟨hread, text, htext, hsplit⟩ := digits_takes (behindSign t)
    have hminus : ((embed t).head? = some '-') = (t.head? = some '-') := propext (head?_embed (by decide))
    rw [embed_cons_plain hplain, exponent_mark hc, exponent_mark hc, hsign, hread]
    simp only [hminus]
    split
    case isTrue => exact ⟨by rw [embed_cons_plain hplain], [], markless_nil, rfl⟩
    case isFalse =>
      refine ⟨rfl, c :: (sign ++ text), (hsignless.append htext).cons hplain, ?_⟩
      rw [List.cons_append, List.append_assoc, ← hsplit, ← ht]

/-- What markup is made of does not belong to a number. -/
theorem unsigned?_embed (negative : Bool) (s : Text) :
    unsigned? negative (embed s) = (unsigned? negative s).map (fun (value, rest) => (value, embed rest)) ∧
      ∀ value rest, unsigned? negative s = some (value, rest) → ∃ text, Markless text ∧ s = text ++ rest := by
  obtain ⟨hwhole, w, hw, hws⟩ := wholeOf_takes s
  obtain ⟨hplaces, p, hp, hps⟩ := places_takes (wholeOf s).2
  obtain ⟨hpower, e, he, hes⟩ := exponent_takes (places (wholeOf s).2).2
  unfold unsigned?
  dsimp only
  rw [hwhole]
  dsimp only
  rw [hplaces]
  dsimp only
  rw [hpower]
  split
  case isTrue => exact ⟨rfl, fun _ _ h => by cases h⟩
  case isFalse =>
    refine ⟨rfl, fun value rest h => ?_⟩
    obtain ⟨-, rfl⟩ := Prod.mk.inj (Option.some.inj h)
    exact ⟨w ++ (p ++ e), hw.append (hp.append he), by rw [List.append_assoc, List.append_assoc, ← hes, ← hps, ← hws]⟩

theorem number?_embed (s : Text) :
    number? (embed s) = (number? s).map (fun (value, rest) => (value, embed rest)) ∧
      ∀ value rest, number? s = some (value, rest) → ∃ text, Markless text ∧ s = text ++ rest := by
  by_cases hminus : s.head? = some '-'
  · obtain ⟨t, rfl⟩ := List.head?_eq_some_iff.mp hminus
    obtain ⟨hread, hsplit⟩ := unsigned?_embed true t
    rw [number?_eq, number?_eq, embed_cons_plain (by decide), List.head?_cons, List.head?_cons, if_pos rfl, if_pos rfl]
    refine ⟨hread, fun value rest h => ?_⟩
    obtain ⟨text, htext, ht⟩ := hsplit value rest h
    exact ⟨'-' :: text, htext.cons (by decide), congrArg _ ht⟩
  · have hminus' : (embed s).head? ≠ some '-' := by rwa [Ne, head?_embed (by decide)]
    rw [number?_eq, number?_eq, if_neg hminus, if_neg hminus']
    exact unsigned?_embed false s

/-- A number has as many digits behind embedding as before. -/
theorem checkedNumber_embed {value : Json} {result : Json × Text} (htext : Markless text)
    (h : checkedNumber (text ++ rest) value rest = .ok result) :
    result = (value, rest) ∧ checkedNumber (text ++ embed rest) value (embed rest) = .ok (value, embed rest) := by
  have hhead : ((text ++ embed rest).head? = some '-') = ((text ++ rest).head? = some '-') := by
    rw [← embed_append htext]
    exact propext (head?_embed (by decide))
  unfold checkedNumber at h ⊢
  simp only [List.length_append, Nat.add_sub_cancel, hhead] at h ⊢
  generalize text.length - (if (text ++ rest).head? = some '-' then 1 else 0) = count at h ⊢
  cases value with
  | int n =>
    by_cases hcount : count > Number.digitLimit
    · rw [if_pos hcount] at h
      cases h
    · rw [if_neg hcount] at h ⊢
      exact ⟨(Except.ok.inj h).symm, rfl⟩
  | _ => exact ⟨(Except.ok.inj h).symm, rfl⟩

/-! ## Strings -/

theorem hexDigit?_mark (h : IsMark c) : Text.hexDigit? c = none := by
  rcases h with rfl | rfl | rfl <;> decide

/-- Before the first of the characters that markup is made of there is none. -/
theorem exists_first_mark (h : ¬ Markless s) : ∃ before c after, Markless before ∧ IsMark c ∧ s = before ++ c :: after := by
  induction s with
  | nil => exact absurd markless_nil h
  | cons c s ih =>
    by_cases hc : IsMark c
    · exact ⟨[], c, s, markless_nil, hc, rfl⟩
    · obtain ⟨before, d, after, hbefore, hd, rfl⟩ := ih fun hs => h (hs.cons hc)
      exact ⟨c :: before, d, after, hbefore.cons hc, hd, rfl⟩

/-- Four digits are a unit only if all of them are digits and the text goes on. -/
theorem unit?_eq_some {n : Nat} (h : unit? s = some n) :
    4 < s.length ∧ ∀ c ∈ s.take 4, Text.hexDigit? c ≠ none := by
  unfold unit? at h
  dsimp only at h
  split at h
  case isTrue hcond =>
    refine ⟨hcond.2, fun c hc hnone => ?_⟩
    have hlt := List.length_filterMap_lt_length_iff_exists.mpr ⟨c, hc, hnone⟩
    rw [hcond.1, List.length_take] at hlt
    omega
  case isFalse => cases h

/-- Four digits are the same unit where what follows is embedded. -/
theorem unit?_embed (s : Text) : unit? (embed s) = unit? s := by
  by_cases hfour : Markless (s.take 4)
  · have hsplit : embed s = s.take 4 ++ embed (s.drop 4) := by
      rw [← embed_append hfour, List.take_append_drop]
    by_cases hlong : 4 < s.length
    · have htake : (s.take 4).length = 4 := by
        rw [List.length_take]
        omega
      have hne : 0 < (embed (s.drop 4)).length :=
        List.length_pos_iff.mpr (embed_ne_nil (by simpa using hlong))
      have hlong' : 4 < (embed s).length := by
        rw [hsplit, List.length_append]
        omega
      unfold unit?
      rw [show (embed s).take 4 = s.take 4 by rw [hsplit, List.take_left' htake]]
      simp [hlong, hlong']
    · rw [hsplit, List.drop_of_length_le (by omega), List.take_of_length_le (by omega)]
      exact congrArg unit? (List.append_nil s)
  · -- a backslash takes the place of the first character that is no digit
    obtain ⟨before, c, after, hbefore, hc, htake⟩ := exists_first_mark hfour
    have hs : s = before ++ c :: (after ++ s.drop 4) := by
      conv_lhs => rw [← List.take_append_drop 4 s, htake]
      simp
    obtain ⟨more, hmore⟩ := embed_cons_mark hc (after ++ s.drop 4)
    have hshort : before.length < 4 := by
      have hlength := congrArg List.length htake
      rw [List.length_take, List.length_append, List.length_cons] at hlength
      omega
    have hnone : unit? s = none := by
      refine Option.eq_none_iff_forall_ne_some.mpr fun n hn => ?_
      exact (unit?_eq_some hn).2 c (htake ▸ by simp) (hexDigit?_mark hc)
    rw [hnone, hs, embed_append hbefore, hmore]
    refine Option.eq_none_iff_forall_ne_some.mpr fun n hn => ?_
    refine (unit?_eq_some hn).2 '\\' ?_ (by decide)
    obtain ⟨k, hk⟩ : ∃ k, 4 - before.length = k + 1 := ⟨3 - before.length, by omega⟩
    rw [List.take_append, hk, List.take_succ_cons]
    simp

theorem lowUnit?_eq_some {n : Nat} :
    lowUnit? s = some n ↔ ∃ digits, s = '\\' :: 'u' :: digits ∧ unit? digits = some n ∧ 0xDC00 ≤ n ∧ n < 0xE000 := by
  unfold lowUnit?
  constructor
  · intro h
    cases hafter : Text.after? "\\u" s with
    | none =>
      rw [hafter] at h
      cases h
    | some digits =>
      rw [hafter] at h
      dsimp only at h
      cases hunit : unit? digits with
      | none =>
        rw [hunit] at h
        cases h
      | some m =>
        rw [hunit] at h
        dsimp only at h
        split at h
        case isTrue hrange =>
          obtain rfl := Option.some.inj h
          exact ⟨digits, Text.after?_eq_some.mp hafter, hunit, hrange⟩
        case isFalse => cases h
  · rintro ⟨digits, rfl, hunit, hrange⟩
    have hafter : Text.after? "\\u" ('\\' :: 'u' :: digits) = some digits := Text.after?_eq_some.mpr rfl
    rw [hafter]
    dsimp only
    rw [hunit]
    dsimp only
    rw [if_pos hrange]

/-- What markup is made of is a unit behind embedding, but none that is the second one of a pair. -/
theorem lowUnit?_embed (s : Text) : lowUnit? (embed s) = lowUnit? s := by
  refine Option.ext fun n => ?_
  rw [lowUnit?_eq_some, lowUnit?_eq_some]
  constructor
  · rintro ⟨digits, htext, hunit, hrange⟩
    cases s with
    | nil => cases htext
    | cons c s =>
      by_cases hc : IsMark c
      · have hsmall : c.toNat < 0xDC00 := by rcases hc with rfl | rfl | rfl <;> decide
        have hdigits : digits = Text.hex 4 c.toNat ++ embed s := by
          rw [embed, List.flatMap_cons, embeddedChar_mark hc] at htext
          rcases hc with rfl | rfl | rfl <;> exact (List.cons.inj (List.cons.inj htext).2).2.symm
        have hlong := (unit?_eq_some hunit).1
        rw [hdigits, List.length_append, length_hex (by omega)] at hlong
        rw [hdigits, unit?_hex (by omega) (List.length_pos_iff.mp (by omega))] at hunit
        obtain rfl := Option.some.inj hunit
        omega
      · rw [embed_cons_plain hc] at htext
        obtain ⟨rfl, htail⟩ := List.cons.inj htext
        cases s with
        | nil => cases htail
        | cons d s =>
          by_cases hd : IsMark d
          · obtain ⟨more, hmore⟩ := embed_cons_mark hd s
            rw [hmore] at htail
            exact absurd (List.cons.inj htail).1 (by decide)
          · rw [embed_cons_plain hd] at htail
            obtain ⟨rfl, rfl⟩ := List.cons.inj htail
            exact ⟨s, rfl, (unit?_embed s).symm.trans hunit, hrange⟩
  · rintro ⟨digits, rfl, hunit, hrange⟩
    exact ⟨embed digits, by rw [embed_cons_plain (by decide), embed_cons_plain (by decide)], (unit?_embed _).trans hunit,
      hrange⟩

theorem markless_take_of_unit? {n : Nat} (h : unit? s = some n) : Markless (s.take 4) ∧ (s.take 4).length = 4 := by
  obtain ⟨hlong, hdigits⟩ := unit?_eq_some h
  refine ⟨fun c hc hmark => hdigits c hc (hexDigit?_mark hmark), ?_⟩
  rw [List.length_take]
  omega

/-- The escape of a unit or of a pair is read as before, and nothing in it is what markup is made of. -/
theorem unicodeEscape_embed {taken : Nat} (h : unicodeEscape s = .ok (c, taken)) :
    ∃ text rest, Markless text ∧ s = text ++ rest ∧ text.length + 1 = taken ∧
      unicodeEscape (embed s) = .ok (c, taken) := by
  unfold unicodeEscape at h ⊢
  rw [unit?_embed]
  cases hunit : unit? s with
  | none =>
    rw [hunit] at h
    cases h
  | some high =>
    obtain ⟨hfour, hlength⟩ := markless_take_of_unit? hunit
    have hdrop : (embed s).drop 4 = embed (s.drop 4) := by
      conv_lhs => rw [← List.take_append_drop 4 s, embed_append hfour]
      exact List.drop_left' hlength
    have hone : ∃ text rest, Markless text ∧ s = text ++ rest ∧ text.length + 1 = 5 :=
      ⟨s.take 4, s.drop 4, hfour, (List.take_append_drop 4 s).symm, by rw [hlength]⟩
    rw [hunit] at h
    dsimp only at h ⊢
    rw [hdrop, lowUnit?_embed]
    split at h
    case isTrue hhigh =>
      rw [if_pos hhigh]
      cases hlow : lowUnit? (s.drop 4) with
      | none =>
        rw [hlow] at h
        obtain ⟨rfl, rfl⟩ := Prod.mk.inj (Except.ok.inj h)
        obtain ⟨text, rest, htext, hs, hfive⟩ := hone
        exact ⟨text, rest, htext, hs, hfive, rfl⟩
      | some low =>
        rw [hlow] at h
        obtain ⟨rfl, rfl⟩ := Prod.mk.inj (Except.ok.inj h)
        obtain ⟨digits, hdigits, hunit', -⟩ := lowUnit?_eq_some.mp hlow
        obtain ⟨hfour', hlength'⟩ := markless_take_of_unit? hunit'
        refine ⟨s.take 4 ++ '\\' :: 'u' :: digits.take 4, digits.drop 4, ?_, ?_, ?_, rfl⟩
        · exact hfour.append ((hfour'.cons (by decide)).cons (by decide))
        · conv_lhs => rw [← List.take_append_drop 4 s, hdigits]
          simp
        · simp [hlength, hlength']
    case isFalse hhigh =>
      rw [if_neg hhigh]
      obtain ⟨rfl, rfl⟩ := Prod.mk.inj (Except.ok.inj h)
      obtain ⟨text, rest, htext, hs, hfive⟩ := hone
      exact ⟨text, rest, htext, hs, hfive, rfl⟩

theorem letterEscape?_plain (h : letterEscape? c = some d) : ¬ IsMark c := by
  rintro (rfl | rfl | rfl) <;> cases h

/-- An escape is read as before, and nothing in it is what markup is made of. -/
theorem escape_embed {taken : Nat} (left' : Nat) (h : escape left s = .ok (c, taken)) :
    ∃ text rest, Markless text ∧ s = text ++ rest ∧ text.length = taken ∧ escape left' (embed s) = .ok (c, taken) := by
  cases s with
  | nil => cases h
  | cons d s =>
    rw [escape] at h
    split at h
    case isTrue hd =>
      rw [hd, embed_cons_plain (by decide), escape, if_pos rfl]
      obtain ⟨text, rest, htext, rfl, hlength, hread⟩ := unicodeEscape_embed h
      exact ⟨'u' :: text, rest, htext.cons (by decide), rfl, by rw [List.length_cons, hlength], hread⟩
    case isFalse hd =>
      cases hletter : letterEscape? d with
      | none =>
        rw [hletter] at h
        cases h
      | some e =>
        rw [hletter] at h
        obtain ⟨rfl, rfl⟩ := Prod.mk.inj (Except.ok.inj h)
        have hplain := letterEscape?_plain hletter
        refine ⟨[d], s, markless_nil.cons hplain, rfl, rfl, ?_⟩
        rw [embed_cons_plain hplain, escape, if_neg hd, hletter]

/-- A string is read as before, up to the same place. -/
theorem stringFrom_embed (left' : Nat) (h : stringFrom left 0 s = .ok (t, rest)) :
    stringFrom left' 0 (embed s) = .ok (t, embed rest) := by
  induction hlength : s.length using Nat.strongRecOn generalizing s t with
  | _ n ih =>
  cases s with
  | nil => cases h
  | cons c s =>
    have hshort : s.length < n := by
      rw [← hlength]
      exact Nat.lt_succ_self _
    rw [stringFrom] at h
    split at h
    case isTrue hquote =>
      obtain ⟨rfl, rfl⟩ := Prod.mk.inj (Except.ok.inj h)
      rw [hquote, embed_cons_plain (by decide), stringFrom, if_pos rfl]
    case isFalse hquote =>
    split at h
    case isTrue hbackslash =>
      rw [hbackslash, embed_cons_plain (by decide), stringFrom, if_neg (by decide), if_pos rfl]
      cases hescape : escape left s with
      | error e =>
        rw [hescape] at h
        cases h
      | ok found =>
        obtain ⟨d, taken⟩ := found
        obtain ⟨text, behind, htext, rfl, rfl, hread⟩ := escape_embed left' hescape
        rw [hescape] at h
        dsimp only at h
        rw [stringFrom_length] at h
        obtain ⟨⟨t, _⟩, hinner, heq⟩ := map_eq_ok.mp h
        obtain ⟨rfl, rfl⟩ := Prod.mk.inj heq
        have hmore := ih _ (by simp at hshort; omega) hinner rfl
        rw [hread]
        dsimp only
        rw [embed_append htext, stringFrom_length, hmore]
        rfl
    case isFalse hbackslash =>
    split at h
    case isTrue => cases h
    case isFalse hcontrol =>
      obtain ⟨⟨t, _⟩, hinner, heq⟩ := map_eq_ok.mp h
      obtain ⟨rfl, rfl⟩ := Prod.mk.inj heq
      have hmore := ih _ hshort hinner rfl
      by_cases hc : IsMark c
      · -- an escape is read in the place of the character
        have hne : embed s ≠ [] := by
          intro hnil
          rw [hnil] at hmore
          cases hmore
        obtain ⟨text, htext, hread⟩ := escape_unitsOf left' c hne
        have hsplit : embed (c :: s) = '\\' :: text ++ embed s := by
          rw [embed, List.flatMap_cons, embeddedChar_mark hc, htext, ← embed]
        rw [hsplit, stringFrom_escape hread, hmore]
        rfl
      · rw [embed_cons_plain hc, stringFrom, if_neg hquote, if_neg hbackslash, if_neg hcontrol, hmore]
        rfl

/-! ## Documents -/

theorem valueFrom_list (rounds : Nat) (s : Text) :
    valueFrom (rounds + 1) ('[' :: s) =
      if (skip s).head? = some ']' then .ok (.arr [], (skip s).tail) else valueFrom.itemsFrom rounds [] (skip s) := by
  rw [valueFrom]
  split
  case h_1 hskip => rw [hskip]; rfl
  case h_2 hskip =>
    rw [if_neg]
    intro hhead
    obtain ⟨r, hr⟩ := List.head?_eq_some_iff.mp hhead
    exact hskip r hr

theorem valueFrom_object (rounds : Nat) (s : Text) :
    valueFrom (rounds + 1) ('\x7b' :: s) =
      if (skip s).head? = some '\x7d' then .ok (.obj [], (skip s).tail) else valueFrom.membersFrom rounds [] (skip s) := by
  rw [valueFrom]
  split
  case h_1 hskip => rw [hskip]; rfl
  case h_2 hskip =>
    rw [if_neg]
    intro hhead
    obtain ⟨r, hr⟩ := List.head?_eq_some_iff.mp hhead
    exact hskip r hr

theorem itemsFrom_succ (rounds : Nat) (items : List Json) (s : Text) :
    valueFrom.itemsFrom (rounds + 1) items s = valueFrom rounds s >>= fun (item, rest) =>
      if (skip rest).head? = some ']' then .ok (.arr (items ++ [item]), (skip rest).tail)
      else if (skip rest).head? = some ',' then valueFrom.itemsFrom rounds (items ++ [item]) (skip (skip rest).tail)
      else .error ⟨.comma, (skip rest).length⟩ := by
  rw [valueFrom.itemsFrom]
  congr 1
  funext r
  obtain ⟨item, rest⟩ := r
  dsimp only
  split
  case h_1 hskip => rw [hskip]; rfl
  case h_2 hskip => rw [hskip]; rfl
  case h_3 hclose hcomma =>
    rw [if_neg, if_neg] <;> intro hhead <;> obtain ⟨r, hr⟩ := List.head?_eq_some_iff.mp hhead
    · exact hcomma r hr
    · exact hclose r hr

theorem membersFrom_quote (rounds : Nat) (members : Table Json) (s : Text) :
    valueFrom.membersFrom (rounds + 1) members ('"' :: s) = stringFrom (s.length + 1) 0 s >>= fun (key, rest) =>
      if (skip rest).head? = some ':' then
        valueFrom rounds (skip (skip rest).tail) >>= fun (value, rest) =>
          if (skip rest).head? = some '\x7d' then .ok (.obj (members.put key value), (skip rest).tail)
          else if (skip rest).head? = some ',' then
            valueFrom.membersFrom rounds (members.put key value) (skip (skip rest).tail)
          else .error ⟨.comma, (skip rest).length⟩
      else .error ⟨.colon, (skip rest).length⟩ := by
  rw [valueFrom.membersFrom]
  dsimp only
  congr 1
  funext r
  obtain ⟨key, rest⟩ := r
  dsimp only
  split
  case h_1 hcolon =>
    rw [hcolon, List.head?_cons, if_pos rfl, List.tail_cons]
    congr 1
    funext r
    obtain ⟨value, rest⟩ := r
    dsimp only
    split
    case h_1 hskip => rw [hskip]; rfl
    case h_2 hskip => rw [hskip]; rfl
    case h_3 hclose hcomma =>
      rw [if_neg, if_neg] <;> intro hhead <;> obtain ⟨r, hr⟩ := List.head?_eq_some_iff.mp hhead
      · exact hcomma r hr
      · exact hclose r hr
  case h_2 hcolon =>
    rw [if_neg]
    intro hhead
    obtain ⟨r, hr⟩ := List.head?_eq_some_iff.mp hhead
    exact hcolon r hr

theorem membersFrom_eq_ok {rounds : Nat} {members : Table Json} {result : Json × Text}
    (h : valueFrom.membersFrom (rounds + 1) members s = .ok result) : ∃ inside, s = '"' :: inside := by
  unfold valueFrom.membersFrom at h
  split at h
  · exact ⟨_, rfl⟩
  · cases h

/-- Nothing that is read begins with what markup is made of. -/
theorem valueFrom_mark (hc : IsMark c) (rounds : Nat) (s : Text) : valueFrom rounds (c :: s) = .error ⟨.value, s.length + 1⟩ := by
  cases rounds with
  | zero => rfl
  | succ rounds => rcases hc with rfl | rfl | rfl <;> rfl

/-- What a reader of documents does with `rounds` rounds it does behind embedding too, with as many rounds or more. -/
def Embeds (f f' : Text → Except Defect (Json × Text)) : Prop :=
  ∀ s j rest, f s = .ok (j, rest) → f' (embed s) = .ok (j, embed rest)

variable {n m : Nat}

/-- A value that is neither a string nor a list nor an object is a word or a number. -/
theorem valueFrom_embed_plain (hc : c ≠ '"' ∧ c ≠ '[' ∧ c ≠ '\x7b') {j : Json}
    (h : valueFrom (n + 1) (c :: s) = .ok (j, rest)) : valueFrom (m + 1) (embed (c :: s)) = .ok (j, embed rest) := by
  by_cases hmark : IsMark c
  · rw [valueFrom_mark hmark] at h
    cases h
  have hword := word?_embed (c :: s)
  obtain ⟨hnumber, hsplit⟩ := number?_embed (c :: s)
  rw [embed_cons_plain hmark] at hword hnumber ⊢
  rw [valueFrom_cons hc] at h ⊢
  rw [hword]
  cases hfound : word? (c :: s) with
  | some found =>
    rw [hfound] at h
    obtain rfl := Except.ok.inj h
    rfl
  | none =>
    rw [hfound] at h
    dsimp only [Option.map_none] at h ⊢
    rw [hnumber]
    cases hvalue : number? (c :: s) with
    | none =>
      rw [hvalue] at h
      cases h
    | some found =>
      obtain ⟨value, behind⟩ := found
      obtain ⟨text, htext, heq⟩ := hsplit value behind hvalue
      rw [hvalue] at h
      dsimp only [Option.map_some] at h ⊢
      rw [← embed_cons_plain hmark]
      rw [heq] at h ⊢
      obtain ⟨hresult, hkept⟩ := checkedNumber_embed htext h
      obtain ⟨rfl, rfl⟩ := Prod.mk.inj hresult
      rw [embed_append htext]
      exact hkept

theorem valueFrom_embed_string {j : Json} (h : valueFrom (n + 1) ('"' :: s) = .ok (j, rest)) :
    valueFrom (m + 1) (embed ('"' :: s)) = .ok (j, embed rest) := by
  rw [valueFrom] at h
  obtain ⟨⟨t, _⟩, hread, heq⟩ := map_eq_ok.mp h
  obtain ⟨rfl, rfl⟩ := Prod.mk.inj heq
  rw [embed_cons_plain (by decide), valueFrom, stringFrom_embed _ hread]
  rfl

theorem valueFrom_embed_list (hitems : Embeds (valueFrom.itemsFrom n []) (valueFrom.itemsFrom m [])) {j : Json}
    (h : valueFrom (n + 1) ('[' :: s) = .ok (j, rest)) : valueFrom (m + 1) (embed ('[' :: s)) = .ok (j, embed rest) := by
  rw [valueFrom_list] at h
  rw [embed_cons_plain (by decide), valueFrom_list, skip_embed]
  by_cases hclose : (skip s).head? = some ']'
  · rw [if_pos hclose] at h
    obtain ⟨rfl, rfl⟩ := Prod.mk.inj (Except.ok.inj h)
    rw [if_pos ((head?_embed (by decide)).mpr hclose), tail_embed (by decide) hclose]
  · rw [if_neg hclose] at h
    rw [if_neg fun h => hclose ((head?_embed (by decide)).mp h)]
    exact hitems _ _ _ h

theorem valueFrom_embed_object (hmembers : Embeds (valueFrom.membersFrom n []) (valueFrom.membersFrom m [])) {j : Json}
    (h : valueFrom (n + 1) ('\x7b' :: s) = .ok (j, rest)) :
    valueFrom (m + 1) (embed ('\x7b' :: s)) = .ok (j, embed rest) := by
  rw [valueFrom_object] at h
  rw [embed_cons_plain (by decide), valueFrom_object, skip_embed]
  by_cases hclose : (skip s).head? = some '\x7d'
  · rw [if_pos hclose] at h
    obtain ⟨rfl, rfl⟩ := Prod.mk.inj (Except.ok.inj h)
    rw [if_pos ((head?_embed (by decide)).mpr hclose), tail_embed (by decide) hclose]
  · rw [if_neg hclose] at h
    rw [if_neg fun h => hclose ((head?_embed (by decide)).mp h)]
    exact hmembers _ _ _ h

/-- What stands behind an item or a member tells what follows, and so it does behind embedding. -/
theorem behind_embed {closer : Char} (hcloser : ¬ IsMark closer ∧ closer ≠ '\\') {last last' : Json}
    {next next' : Text → Except Defect (Json × Text)} (hnext : Embeds next next') (hlast : last = last') {e e' : Defect}
    {j : Json}
    (h : (if (skip s).head? = some closer then .ok (last, (skip s).tail)
      else if (skip s).head? = some ',' then next (skip (skip s).tail) else .error e) = .ok (j, rest)) :
    (if (skip (embed s)).head? = some closer then .ok (last', (skip (embed s)).tail)
      else if (skip (embed s)).head? = some ',' then next' (skip (skip (embed s)).tail) else .error e') =
      .ok (j, embed rest) := by
  rw [skip_embed]
  by_cases hclose : (skip s).head? = some closer
  · rw [if_pos hclose] at h
    obtain ⟨rfl, rfl⟩ := Prod.mk.inj (Except.ok.inj h)
    rw [if_pos ((head?_embed hcloser).mpr hclose), tail_embed hcloser.1 hclose, hlast]
  · rw [if_neg hclose] at h
    rw [if_neg fun h => hclose ((head?_embed hcloser).mp h)]
    by_cases hcomma : (skip s).head? = some ','
    · rw [if_pos hcomma] at h
      rw [if_pos ((head?_embed (by decide)).mpr hcomma), tail_embed (by decide) hcomma, skip_embed]
      exact hnext _ _ _ h
    · rw [if_neg hcomma] at h
      cases h

/-- Behind embedding a text is read as the same document, up to the same place: by induction on the rounds, for values,
for the items of lists and for the members of objects together. -/
theorem valueFrom_embed (n : Nat) : ∀ m, n ≤ m → Embeds (valueFrom n) (valueFrom m) ∧
    (∀ items, Embeds (valueFrom.itemsFrom n items) (valueFrom.itemsFrom m items)) ∧
    ∀ members, Embeds (valueFrom.membersFrom n members) (valueFrom.membersFrom m members) := by
  induction n with
  | zero => exact fun m _ => ⟨fun _ _ _ h => (by cases h), fun _ _ _ _ h => (by cases h), fun _ _ _ _ h => (by cases h)⟩
  | succ n ih =>
    intro m hm
    obtain ⟨m, rfl⟩ : ∃ k, m = k + 1 := ⟨m - 1, by omega⟩
    obtain ⟨hvalue, hitems, hmembers⟩ := ih m (by omega)
    refine ⟨fun s j rest h => ?_, fun items s j rest h => ?_, fun members s j rest h => ?_⟩
    · cases s with
      | nil => cases h
      | cons c s =>
        by_cases hquote : c = '"'
        · exact hquote ▸ valueFrom_embed_string (hquote ▸ h)
        by_cases hlist : c = '['
        · exact hlist ▸ valueFrom_embed_list (hitems []) (hlist ▸ h)
        by_cases hobject : c = '\x7b'
        · exact hobject ▸ valueFrom_embed_object (hmembers []) (hobject ▸ h)
        exact valueFrom_embed_plain ⟨hquote, hlist, hobject⟩ h
    · rw [itemsFrom_succ] at h ⊢
      obtain ⟨⟨item, behind⟩, hitem, h⟩ := bind_eq_ok.mp h
      rw [hvalue s item behind hitem]
      exact behind_embed (by decide) (hitems _) rfl h
    · obtain ⟨inside, rfl⟩ := membersFrom_eq_ok h
      rw [embed_cons_plain (by decide)]
      rw [membersFrom_quote] at h ⊢
      obtain ⟨⟨key, behind⟩, hkey, h⟩ := bind_eq_ok.mp h
      rw [stringFrom_embed _ hkey]
      dsimp only at h
      by_cases hcolon : (skip behind).head? = some ':'
      · rw [if_pos hcolon] at h
        obtain ⟨⟨value, behindValue⟩, hread, h⟩ := bind_eq_ok.mp h
        change (if (skip (embed behind)).head? = some ':' then _ else _) = _
        rw [skip_embed, if_pos ((head?_embed (by decide)).mpr hcolon), tail_embed (by decide) hcolon, skip_embed,
          hvalue _ value behindValue hread]
        exact behind_embed (by decide) (hmembers _) rfl h
      · rw [if_neg hcolon] at h
        cases h

theorem length_le_embed (s : Text) : s.length ≤ (embed s).length := by
  induction s with
  | nil => exact Nat.le_refl 0
  | cons c s ih =>
    have hchar : 1 ≤ (embeddedChar c).length := by
      by_cases hc : IsMark c
      · rcases hc with rfl | rfl | rfl <;> decide
      · rw [embeddedChar_plain hc]
        exact Nat.le_refl 1
    have hsplit : embed (c :: s) = embeddedChar c ++ embed s := List.flatMap_cons
    rw [hsplit, List.length_append, List.length_cons]
    omega

/-- **A document that is embedded is the same document.** -/
theorem read_embed {j : Json} (h : Json.read s = .ok j) : Json.read (embed s) = .ok j := by
  unfold Json.read at h ⊢
  by_cases hbom : s.head? = some '\ufeff'
  · rw [if_pos hbom] at h
    cases h
  · have hbom' : ¬ (embed s).head? = some '\ufeff' := fun h => hbom ((head?_embed (by decide)).mp h)
    rw [if_neg hbom] at h
    rw [if_neg hbom']
    dsimp only at h ⊢
    obtain ⟨⟨value, rest⟩, hvalue, h⟩ := bind_eq_ok.mp h
    rw [skip_embed, (valueFrom_embed _ _ (Nat.succ_le_succ (length_le_embed _))).1 _ _ _ hvalue]
    simp only [bind, Except.bind, skip_embed]
    cases hend : skip rest with
    | nil =>
      rw [hend] at h
      cases h
      rfl
    | cons c behind =>
      rw [hend] at h
      cases h

end Output
end Stencil
