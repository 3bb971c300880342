import Stencil.Proofs.Markup.Opaque

/-!
# Borders in a text

In front of the name of a structural directive a text may be cut in two.  A rule says in front of the border what it
says with the text behind the border there too, unless what it takes goes on across the border; and behind the border it
says what it says at the head of a text.

* `Border` — a text, and a text behind it that begins with a structural name; `Border.across` — a stretch that goes on
  across a border and does not end in a word holds the border.
* `after?_append_cons`, `cut?_append_cons`, `nameAt?_append`, `group?_append`, `after_append` — how texts, names and
  groups are read with a text behind a border there too.
* `Says` — what a rule says with and without the text behind a border; `rules_bordered` — every rule says it so.
-/

namespace Stencil

open Argument (Use isGap)

/-! ## Reading up to a character -/

namespace Text

variable {p s t : Text} {c : Char}

/-- A beginning that does not hold a character is one of what stands before the character. -/
theorem after?_append_cons (hc : c ∉ p) (s t : Text) : after? p (s ++ c :: t) = (after? p s).map (· ++ c :: t) := by
  cases h : after? p s with
  | some rest =>
    rw [after?_eq_some] at h
    rw [Option.map_some, after?_eq_some, h, List.append_assoc]
  | none =>
    cases hlonger : after? p (s ++ c :: t) with
    | none => rfl
    | some rest =>
      obtain ⟨rest', hrest'⟩ := after?_before hc hlonger
      rw [h] at hrest'
      cases hrest'

/-- A closer that does not hold a character is found before the character, or only behind it. -/
theorem cut?_append_cons {closer : Text} (hclosed : closer ≠ []) (hc : c ∉ closer) (s t : Text) :
    cut? closer (s ++ c :: t) =
      match cut? closer s with
      | some (inside, rest) => some (inside, rest ++ c :: t)
      | none => (cut? closer (c :: t)).map fun (inside, rest) => (s ++ inside, rest) := by
  induction s with
  | nil =>
    have hnone : cut? closer [] = none := by
      obtain ⟨d, closer, rfl⟩ := List.exists_cons_of_ne_nil hclosed
      rfl
    rw [hnone, List.nil_append]
    cases cut? closer (c :: t) <;> rfl
  | cons d s ih =>
    have hafter := after?_append_cons hc (d :: s) t
    rw [List.cons_append] at hafter ⊢
    rw [cut?, hafter, cut?]
    cases after? closer (d :: s) with
    | some rest => rfl
    | none =>
      simp only [Option.map_none]
      rw [ih]
      cases cut? closer s with
      | some found => rfl
      | none => cases cut? closer (c :: t) <;> rfl

end Text

namespace Markup

variable {α : Type} {registry : Registry} {template : Text} {previous : Option Char} {line : Int}
  {s t u w behind : Text}

/-! ## Borders -/

/-- A text begins with the name of a structural directive. -/
def Named (s : Text) : Prop := ∃ name rest, s = '@' :: name ++ rest ∧ name ∈ structuralNames ∧ EndsWord name rest

/-- A text does not end with an `@`, and the text behind it begins with the name of a structural directive. -/
structure Border (u behind : Text) : Prop where
  ne_nil : u ≠ []
  last : u.getLast? ≠ some '@'
  named : Named behind

theorem Named.cons (h : Named s) : ∃ t, s = '@' :: t := by
  obtain ⟨name, rest, rfl, -, -⟩ := h
  exact ⟨name ++ rest, rfl⟩

theorem Named.ends (h : Named s) : Ends s := by
  obtain ⟨t, rfl⟩ := h.cons
  rintro _ ⟨⟩
  rfl

/-- Before the start of markup a word goes on as it does before nothing. -/
theorem isWord?_append (hends : Ends behind) (rest : Text) :
    Text.isWord? (rest ++ behind).head? = Text.isWord? rest.head? := by
  cases rest with
  | cons c rest => rfl
  | nil =>
    cases behind with
    | nil => rfl
    | cons c behind =>
      exact hends.not_word

theorem EndsWord.of_append {name rest : Text} (hends : Ends behind) (h : EndsWord name (rest ++ behind)) :
    EndsWord name rest := by
  unfold EndsWord Text.boundary at h ⊢
  rwa [isWord?_append hends] at h

/-- The text before markup begins with a structural name if the text with the markup does. -/
theorem Named.of_append (hu : u ≠ []) (hends : Ends s) (h : Named (u ++ s)) : Named u := by
  obtain ⟨name, rest, hsplit, hname, hword⟩ := h
  have hfront : ∀ c ∈ ('@' :: name).tail, isSigil c = false := fun c hc =>
    isSigil_eq_false_of_isWord (isWordName_of_builtin (structuralNames_subset hname) c hc)
  obtain ⟨more, rfl, rfl⟩ := prefix_of_ends hfront hu hends hsplit
  exact ⟨name, more, rfl, hname, hword.of_append hends⟩

/-- A stretch that goes on across a border and does not end in a word holds the border. -/
theorem Border.across {more : Text} {c : Char} (h : Border u (w ++ more)) (hw : w.getLast? = some c) (hc : c ≠ '@')
    (hword : Text.isWord c = false) : Border u w := by
  obtain ⟨name, rest, hsplit, hname, hends⟩ := h.named
  have hnameWord := isWordName_of_builtin (structuralNames_subset hname)
  have hinside : ∀ left, '@' :: name ≠ w ++ left := by
    intro left hleft
    have hmem : c ∈ '@' :: name := by
      rw [hleft]
      exact List.mem_append_left _ (List.mem_of_getLast? hw)
    rcases List.mem_cons.mp hmem with rfl | hmem
    · exact absurd rfl hc
    · rw [isWordName_of_builtin (structuralNames_subset hname) c hmem] at hword
      cases hword
  refine ⟨h.ne_nil, h.last, ?_⟩
  rcases List.append_eq_append_iff.mp hsplit with ⟨left, hleft, -⟩ | ⟨rest', rfl, rfl⟩
  · exact absurd hleft (hinside left)
  · cases rest' with
    | nil => exact absurd (by simp) (hinside [])
    | cons d rest' => exact ⟨name, d :: rest', rfl, hname, hends⟩

/-! ## Names, interpolations and groups at a border -/

/-- Names without an `@` are found before a border as they are with the text behind it. -/
theorem nameAt?_append {names : List Text} (hnames : ∀ n ∈ names, '@' ∉ n) (s t : Text) :
    nameAt? names (s ++ '@' :: t) = (nameAt? names s).map fun (name, rest) => (name, rest ++ '@' :: t) := by
  have hends : Ends ('@' :: t) := by
    rintro _ ⟨⟩
    rfl
  unfold nameAt?
  induction names with
  | nil => rfl
  | cons n names ih =>
    obtain ⟨hn, hnames⟩ := List.forall_mem_cons.mp hnames
    rw [List.findSome?_cons, List.findSome?_cons, ih hnames, Text.after?_append_cons hn]
    cases Text.after? n s with
    | none => rfl
    | some rest =>
      simp only [Option.map_some]
      unfold Text.boundary
      rw [isWord?_append hends]
      generalize (Text.isWord? (n.getLast? <|> some '@') != Text.isWord? rest.head?) = ends
      cases ends <;> rfl

theorem directiveAt?_append {names : List Text} (hnames : ∀ n ∈ names, '@' ∉ n) (previous : Option Char) (hu : u ≠ [])
    (t : Text) : directiveAt? names previous (u ++ '@' :: t) =
      (directiveAt? names previous u).map fun (name, rest) => (name, rest ++ '@' :: t) := by
  obtain ⟨c, s, rfl⟩ := List.exists_cons_of_ne_nil hu
  unfold directiveAt?
  by_cases hc : c = '@'
  · subst hc
    simp only [List.cons_append]
    split
    · rfl
    · exact nameAt?_append hnames s t
  · simp [hc]

/-- A group that is whole before a border is read with the text behind the border too; one that is not is not read
there either, or goes on across the border. -/
theorem group?_append (s t : Text) :
    (∃ inner rest, Argument.group? ('(' :: s) = .ok (inner, rest) ∧
      Argument.group? ('(' :: (s ++ '@' :: t)) = .ok (inner, rest ++ '@' :: t)) ∨
    ∃ f, Argument.group? ('(' :: s) = .error f ∧
      ((∃ f', Argument.group? ('(' :: (s ++ '@' :: t)) = .error f') ∨
      ∃ inner w rest, Argument.group? ('(' :: (s ++ '@' :: t)) = .ok (inner, rest) ∧ '@' :: t = w ++ rest ∧
        w.getLast? = some ')') := by
  cases hgroup : Argument.group? ('(' :: s) with
  | ok found =>
    obtain ⟨inner, rest⟩ := found
    obtain ⟨hinner, hsplit⟩ := Argument.group?_isGroup hgroup
    have hread := Argument.IsGroup.reads hinner (rest ++ '@' :: t)
    have hwhole : '(' :: (s ++ '@' :: t) = '(' :: inner ++ ')' :: (rest ++ '@' :: t) := by
      rw [(List.cons.inj hsplit).2]
      simp
    rw [← hwhole] at hread
    exact .inl ⟨inner, rest, rfl, hread⟩
  | error f =>
    refine .inr ⟨f, rfl, ?_⟩
    cases hlonger : Argument.group? ('(' :: (s ++ '@' :: t)) with
    | error f' => exact .inl ⟨f', rfl⟩
    | ok found =>
      obtain ⟨inner, rest⟩ := found
      obtain ⟨hinner, hsplit⟩ := Argument.group?_isGroup hlonger
      have hwhole : s ++ '@' :: t = inner ++ [')'] ++ rest := by simpa using hsplit
      -- a group that ends before the border would have been read there
      have hinside : ∀ more, s ≠ inner ++ [')'] ++ more := by
        rintro more rfl
        have hread := Argument.IsGroup.reads hinner more
        have hsame : '(' :: inner ++ ')' :: more = '(' :: (inner ++ [')'] ++ more) := by simp
        rw [hsame, hgroup] at hread
        cases hread
      rcases List.append_eq_append_iff.mp hwhole with ⟨w, hw, hrest⟩ | ⟨more, hmore, -⟩
      · refine .inr ⟨inner, w, rest, rfl, hrest, ?_⟩
        have hne : w ≠ [] := by
          rintro rfl
          exact hinside [] (by simpa using hw.symm)
        have hlast : (s ++ w).getLast? = some ')' := by rw [← hw, List.getLast?_concat]
        rwa [List.getLast?_append, getLast?_or hne] at hlast
      · exact absurd hmore (hinside more)

/-- What is read behind a name before a border is what is read with the text behind the border, or nothing can be read
there, or a group goes on across the border. -/
theorem after_append (use : Use) (s t : Text) :
    (∃ args rest, Argument.after use s = .ok (args, rest) ∧
      Argument.after use (s ++ '@' :: t) = .ok (args, rest ++ '@' :: t)) ∨
    (∃ f f', Argument.after use s = .error f ∧ Argument.after use (s ++ '@' :: t) = .error f') ∨
    ∃ inner w rest, Argument.after use (s ++ '@' :: t) = .ok (some inner, rest) ∧ '@' :: t = w ++ rest ∧
      w.getLast? = some ')' := by
  unfold Argument.after
  by_cases huse : use = .bare
  · exact .inl ⟨none, s, by rw [if_pos huse], by rw [if_pos huse]⟩
  rw [if_neg huse, if_neg huse]
  cases hdrop : s.dropWhile isGap with
  | nil =>
    have hlonger : (s ++ '@' :: t).dropWhile isGap = '@' :: t := by
      rw [List.dropWhile_append, hdrop]
      rfl
    rw [hlonger]
    exact .inl ⟨none, s, rfl, rfl⟩
  | cons c behind =>
    have hlonger : (s ++ '@' :: t).dropWhile isGap = c :: (behind ++ '@' :: t) := by
      rw [List.dropWhile_append, hdrop]
      rfl
    rw [hlonger]
    by_cases hc : c = '('
    · subst hc
      simp only
      rcases group?_append behind t with ⟨inner, rest, hgroup, hread⟩ | ⟨f, hgroup, ⟨f', hread⟩ | ⟨inner, w, rest, hread, h⟩⟩ <;>
        rw [hgroup, hread]
      · exact .inl ⟨some inner, rest, rfl, rfl⟩
      · exact .inr (.inl ⟨f, f', rfl, rfl⟩)
      · exact .inr (.inr ⟨inner, w, rest, rfl, h⟩)
    · refine .inl ⟨none, s, ?_, ?_⟩ <;> split <;> simp_all

/-! ## Rules at a border -/

/-- What a rule says of the text before a border by itself, and with the text behind the border: the same, or a failure
both times, or with the text behind it takes something that goes on across the border. -/
inductive Says (u behind : Text) : Option (Verdict α) → Option (Verdict α) → Prop
  | same (v : Option (Verdict α)) : Says u behind v v
  | failed {n n' : Nat} {e e' : Error} :
    Says u behind (some (.accepted n (.error e))) (some (.accepted n' (.error e')))
  | across {v : Option (Verdict α)} {w rest : Text} {found : Except Error α} : behind = w ++ rest → Border u w →
    Says u behind v (some (.accepted (u ++ w).length found))

/-- A rule says before a border what it says with the text behind it, and behind a character other than `@` what it says
at the head of a text. -/
structure Rule.Bordered (rule : Rule α) : Prop where
  before : ∀ {previous line u behind}, Border u behind →
    Says u behind (rule ⟨previous, line, u⟩) (rule ⟨previous, line, u ++ behind⟩)
  behind : ∀ {previous line s}, previous ≠ some '@' → rule ⟨previous, line, s⟩ = rule ⟨none, line, s⟩

/-- What is taken before a text is as long as it is without that. -/
theorem used_append (u rest behind : Text) :
    (u ++ behind).length - (rest ++ behind).length = u.length - rest.length := by
  rw [List.length_append, List.length_append, Nat.add_sub_add_right]

theorem says_accept (template directive : Text) (previous : Option Char) (line : Int) (u behind rest : Text)
    (found : Except Raised α) :
    Says u behind (some (Place.accept template directive ⟨previous, line, u⟩ rest found))
      (some (Place.accept template directive ⟨previous, line, u ++ behind⟩ (rest ++ behind) found)) := by
  unfold Place.accept
  rw [used_append]
  cases found with
  | error e => exact .failed
  | ok a => exact .same _

theorem says_across {template directive rest : Text} {v : Option (Verdict α)} {found : Except Raised α} {c : Char}
    (h : Border u behind) (hbehind : behind = w ++ rest) (hlast : w.getLast? = some c) (hc : c ≠ '@')
    (hword : Text.isWord c = false) :
    Says u behind v (some (Place.accept template directive ⟨previous, line, u ++ behind⟩ rest found)) := by
  have hlength : (u ++ behind).length - rest.length = (u ++ w).length := by
    rw [hbehind, ← List.append_assoc, List.length_append, Nat.add_sub_cancel]
  unfold Place.accept
  rw [hlength]
  subst hbehind
  exact .across rfl (h.across hlast hc hword)

theorem Directive.read_says (d : Directive) (h : Border u behind) (template : Text) (rest : Text) :
    Says u behind (some (d.read template ⟨previous, line, u⟩ rest))
      (some (d.read template ⟨previous, line, u ++ behind⟩ (rest ++ behind))) := by
  obtain ⟨t, rfl⟩ := h.named.cons
  unfold Directive.read
  cases hlowering : d.lowering with
  | bare nodes => exact says_accept ..
  | optional nodes =>
    rcases after_append .optional rest t with ⟨args, rest', hshort, hlong⟩ | ⟨f, f', hshort, hlong⟩ |
      ⟨inner, w, rest', hlong, hbehind, hlast⟩
    · simp only [hshort, hlong]
      exact says_accept ..
    · simp only [hshort, hlong]
      exact .failed
    · simp only [hlong]
      exact says_across h hbehind hlast (by decide) (by decide)
  | required nodes =>
    rcases after_append .required rest t with ⟨args, rest', hshort, hlong⟩ | ⟨f, f', hshort, hlong⟩ |
      ⟨inner, w, rest', hlong, hbehind, hlast⟩
    · simp only [hshort, hlong]
      cases args with
      | none =>
        simp only [used_append]
        exact .same _
      | some args => exact says_accept ..
    · simp only [hshort, hlong]
      exact .failed
    · simp only [hlong]
      exact says_across h hbehind hlast (by decide) (by decide)

theorem at_not_mem_of_word {name : Text} (h : IsWordName name) : '@' ∉ name := fun hmem =>
  absurd (isSigil_eq_false_of_isWord (h '@' hmem)) (by decide)

theorem directiveAt?_behind (names : List Text) (h : previous ≠ some '@') (s : Text) :
    directiveAt? names previous s = directiveAt? names none s := by
  unfold directiveAt?
  split
  · rw [if_neg h, if_neg nofun]
  · rfl

/-- A family reads the directive that is found at a place. -/
theorem family_eq (template : Text) (ds : List Directive) (p : Place) : family template ds p =
    match directiveAt? (byLength (ds.map Directive.name)) p.previous p.rest with
    | none => none
    | some (name, rest) => (ds.find? (·.name = name)).map (Directive.read template p rest) := by
  unfold family
  split
  · rfl
  case h_2 hplain =>
    have hnone : directiveAt? (byLength (ds.map Directive.name)) p.previous p.rest = none := by
      unfold directiveAt?
      split
      case h_1 s hat => exact absurd hat (hplain s)
      · rfl
    rw [hnone]

theorem family_bordered {ds : List Directive} (hds : ∀ d ∈ ds, IsWordName d.name) :
    (family template ds).Bordered where
  before := by
    intro previous line u behind h
    obtain ⟨t, rfl⟩ := h.named.cons
    have hnames : ∀ n ∈ byLength (ds.map Directive.name), '@' ∉ n := fun n hn =>
      at_not_mem_of_word (familyNames_word hds n hn)
    rw [family_eq, family_eq, directiveAt?_append hnames previous h.ne_nil t]
    cases directiveAt? (byLength (ds.map Directive.name)) previous u with
    | none => exact .same none
    | some found =>
      obtain ⟨name, rest⟩ := found
      simp only [Option.map_some]
      cases ds.find? (·.name = name) with
      | none => exact .same none
      | some d => exact d.read_says h template rest
  behind := by
    intro previous line s h
    rw [family_eq, family_eq, directiveAt?_behind _ h s]
    rfl

/-- An interpolation before a border is read as it is with the text behind the border, or goes on across the border. -/
theorem delimited?_append (opener : Text) {closer : Text} (hopener : '@' ∉ opener) (hclosed : closer ≠ [])
    (hcloser : '@' ∉ closer) (s t : Text) : (delimited? opener closer (s ++ '@' :: t) =
      (delimited? opener closer s).map fun (inside, rest) => (inside, rest ++ '@' :: t)) ∨
    ∃ inside w rest, delimited? opener closer (s ++ '@' :: t) = some (inside, rest) ∧
      '@' :: t = w ++ closer ++ rest := by
  unfold delimited?
  rw [Text.after?_append_cons hopener]
  cases Text.after? opener s with
  | none => exact .inl rfl
  | some behind =>
    simp only [Option.map_some]
    rw [Text.cut?_append_cons hclosed hcloser]
    cases Text.cut? closer behind with
    | some found => exact .inl rfl
    | none =>
      simp only
      cases hcut : Text.cut? closer ('@' :: t) with
      | none => exact .inl rfl
      | some found =>
        obtain ⟨inside, rest⟩ := found
        exact .inr ⟨behind ++ inside, inside, rest, rfl, (cut?_eq_some hcut).1⟩

theorem rawEcho_bordered : (rawEcho template).Bordered where
  before := by
    intro previous line u behind h
    obtain ⟨t, rfl⟩ := h.named.cons
    unfold rawEcho
    have hclosed : ("!!\x7d" : Text) ≠ [] := List.cons_ne_nil _ _
    rcases delimited?_append "\x7b!!" (by decide) hclosed (by decide) u t with hsame | ⟨inside, w, rest, hlong, hbehind⟩
    · simp only [hsame]
      cases delimited? "\x7b!!" "!!\x7d" u with
      | none => exact .same none
      | some found => exact says_accept ..
    · simp only [hlong, Option.map_some]
      have hlast : (w ++ "!!\x7d").getLast? = some '\x7d' := by simp
      exact says_across h hbehind hlast (by decide) (by decide)
  behind := fun _ => rfl

theorem echo_brace {c : Char} (hc : c ≠ '@') : echo registry template ⟨previous, line, c :: s⟩ =
    (delimited? "\x7b\x7b" "\x7d\x7d" (c :: s)).map fun (inside, after) =>
      Place.accept template [] ⟨previous, line, c :: s⟩ after (echoNode registry line inside) := by
  unfold echo
  split
  case h_1 hat => exact absurd (List.cons.inj hat).1 hc
  · rfl

theorem echo_escaped (s : Text) : echo registry template ⟨previous, line, '@' :: s⟩ =
    (delimited? "\x7b\x7b" "\x7d\x7d" s).map fun (_, after) =>
      .accepted (('@' :: s).length - after.length) (.ok [.verbatim line (s.take (s.length - after.length))]) := rfl

theorem last_of_closer (w : Text) : (w ++ ("\x7d\x7d" : Text)).getLast? = some '\x7d' := by simp

/-- An escaped interpolation at a border. -/
theorem echo_says_escaped (h : Border ('@' :: s) ('@' :: t)) :
    Says ('@' :: s) ('@' :: t) (echo registry template ⟨previous, line, '@' :: s⟩)
      (echo registry template ⟨previous, line, '@' :: (s ++ '@' :: t)⟩) := by
  rw [echo_escaped, echo_escaped]
  have hclosed : ("\x7d\x7d" : Text) ≠ [] := List.cons_ne_nil _ _
  rcases delimited?_append "\x7b\x7b" (by decide) hclosed (by decide) s t with
    hsame | ⟨inside, w, rest, hlong, hbehind⟩
  · rw [hsame]
    cases delimited? "\x7b\x7b" "\x7d\x7d" s with
    | none => exact .same none
    | some found =>
      obtain ⟨inside, rest⟩ := found
      have hspan : ('@' :: (s ++ '@' :: t)).length - (rest ++ '@' :: t).length =
          ('@' :: s).length - rest.length := used_append ('@' :: s) rest ('@' :: t)
      have htake : (s ++ '@' :: t).take ((s ++ '@' :: t).length - (rest ++ '@' :: t).length) =
          s.take (s.length - rest.length) := by
        rw [used_append, List.take_append_of_le_length (Nat.sub_le _ _)]
      simp only [Option.map_some, hspan, htake]
      exact .same _
  · rw [hlong]
    simp only [Option.map_some]
    have hlength : ('@' :: (s ++ '@' :: t)).length - rest.length =
        (('@' :: s) ++ (w ++ "\x7d\x7d")).length := by
      rw [hbehind]
      simp
      omega
    rw [hlength]
    rw [hbehind] at h ⊢
    exact .across rfl (h.across (last_of_closer w) (by decide) (by decide))

theorem echo_bordered : (echo registry template).Bordered where
  before := by
    intro previous line u behind h
    obtain ⟨t, rfl⟩ := h.named.cons
    obtain ⟨c, s, rfl⟩ := List.exists_cons_of_ne_nil h.ne_nil
    by_cases hc : c = '@'
    · subst hc
      exact echo_says_escaped h
    · have hclosed : ("\x7d\x7d" : Text) ≠ [] := List.cons_ne_nil _ _
      have hlong := delimited?_append "\x7b\x7b" (by decide) hclosed (by decide) (c :: s) t
      rw [List.cons_append] at hlong ⊢
      rw [echo_brace hc, echo_brace hc]
      rcases hlong with hsame | ⟨inside, w, rest, hlong, hbehind⟩
      · rw [hsame]
        cases delimited? "\x7b\x7b" "\x7d\x7d" (c :: s) with
        | none => exact .same none
        | some found => exact says_accept ..
      · rw [hlong]
        exact says_across h hbehind (last_of_closer w) (by decide) (by decide)
  behind := fun _ => rfl

theorem escaped_bordered {names : List Text} (hnames : ∀ n ∈ names, IsWordName n) : (escaped names).Bordered where
  before := by
    intro previous line u behind h
    obtain ⟨t, rfl⟩ := h.named.cons
    have hat : ∀ n ∈ byLength names, '@' ∉ n := fun n hn => at_not_mem_of_word (hnames n (mem_byLength.mp hn))
    by_cases hdoubled : ∃ s, u = '@' :: '@' :: s
    · obtain ⟨s, rfl⟩ := hdoubled
      unfold escaped
      simp only [List.cons_append]
      rw [nameAt?_append hat]
      cases nameAt? (byLength names) s <;> exact .same _
    · have hwhole : ∀ s, u ++ '@' :: t ≠ '@' :: '@' :: s := by
        intro s hsplit
        match u, h with
        | [], h => exact h.ne_nil rfl
        | [c], h =>
          obtain rfl := (List.cons.inj hsplit).1
          exact h.last rfl
        | c :: d :: u, _ =>
          have hfirst := List.cons.inj hsplit
          have hsecond := List.cons.inj hfirst.2
          exact hdoubled ⟨u, by rw [hfirst.1, hsecond.1]⟩
      have hnone : ∀ {s : Text}, (∀ rest, s ≠ '@' :: '@' :: rest) → escaped names ⟨previous, line, s⟩ = none := by
        intro s hs
        unfold escaped
        split
        case h_1 rest hat => exact absurd hat (hs rest)
        · rfl
      rw [hnone hwhole, hnone fun rest hu => hdoubled ⟨rest, hu⟩]
      exact .same none
  behind := fun _ => rfl

/-- **Borders.**  Every rule behind structure says before a border what it says with the text behind the border. -/
theorem rules_bordered (hnames : ∀ name ∈ registry.directives.names, IsWordName name) {rule : Rule (List Node)}
    (hrule : rule ∈ rulesBehindStructure registry template) : rule.Bordered := by
  refine forall_rulesBehindStructure (family_bordered (custom_word hnames)) (fun ds hds => ?_) echo_bordered
    rawEcho_bordered ?_ (escaped_bordered (knownNames_word hnames)) rule hrule
  · exact family_bordered fun d hd => innerNames_word d (hds hd)
  · rw [inclusion_eq_family]
    have hinclude : [includeDirective] ∈ argumentFamilies := by simp [argumentFamilies]
    exact family_bordered (argumentFamilies_distinct hinclude).word

end Markup
end Stencil
