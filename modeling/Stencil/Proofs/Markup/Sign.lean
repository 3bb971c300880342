import Stencil.Proofs.Markup.Fragment
import Stencil.Proofs.Markup.Pass

/-!
# What the rules look for

Each rule looks for something that can be told of a place in a text, takes it from its first to its last character, and
takes all of it.

* `EndsWord` — a word ends behind a name; `name_unique` — then no other name stands at the place.
* `directiveSign`, `delimitedSign`, `doubledSign` — directives that can be read at a place, interpolations, and a
  doubled `@` before a known name.
* `family_neat`, `mark_neat`, … — every rule takes markup from its first to its last character.
* `family_takes`, `mark_takes`, … — every rule takes all that it looks for.
-/

namespace Stencil

open Argument (Use isGap)

namespace Markup

variable {registry : Registry} {template : Text} {names : List Text} {name rest s t : Text} {previous : Option Char}

/-! ## Names -/

/-- A name of word characters only. -/
def IsWordName (name : Text) : Prop := ∀ c ∈ name, Text.isWord c = true

/-- Built-in names have word characters only. -/
theorem isWordName_of_builtin (h : name ∈ builtinNames) : IsWordName name := by
  have hall : (builtinNames.all fun name => name.all Text.isWord) = true := by decide +kernel
  exact List.all_eq_true.mp (List.all_eq_true.mp hall name h)

theorem structuralNames_subset : structuralNames ⊆ builtinNames := by
  intro name hname
  have hname := mem_byLength.mp hname
  simp only [List.mem_cons, List.not_mem_nil, or_false] at hname
  rcases hname with rfl | rfl | rfl | rfl | rfl <;> simp [builtinNames, outerNames]

/-- A word ends behind a name that stands behind an `@`. -/
def EndsWord (name rest : Text) : Prop := Text.boundary (name.getLast? <|> some '@') rest.head? = true

theorem isSigil_eq_false_of_isWord {c : Char} (h : Text.isWord c = true) : isSigil c = false := by
  by_contra hsigil
  have hcases : c = '@' ∨ c = '\x7b' := by simpa [isSigil, or_iff_not_imp_left] using hsigil
  rcases hcases with rfl | rfl <;> exact absurd h (by decide)

theorem not_sigil_of_isWord {c : Char} (h : Text.isWord c = true) : c ≠ '@' ∧ c ≠ '\x7b' := by
  simpa [isSigil] using isSigil_eq_false_of_isWord h

/-- What begins where a text ends or markup starts is no word. -/
theorem Ends.not_word {c : Char} (h : Ends (c :: s)) : Text.isWord c = false := by
  by_contra hword
  have hsigil : isSigil c = true := h c rfl
  rw [isSigil_eq_false_of_isWord (by simpa using hword)] at hsigil
  cases hsigil

theorem familyNames_word {ds : List Directive} (hds : ∀ d ∈ ds, IsWordName d.name) :
    ∀ n ∈ byLength (ds.map Directive.name), IsWordName n := by
  intro n hn
  obtain ⟨d, hd, rfl⟩ := List.mem_map.mp (mem_byLength.mp hn)
  exact hds d hd

/-- Behind a name that is found a word ends. -/
theorem endsWord_of_nameAt? (h : nameAt? names s = some (name, rest)) : EndsWord name rest := by
  obtain ⟨name', -, hfound⟩ := List.exists_of_findSome?_eq_some h
  split at hfound
  · cases hfound
  · split at hfound
    · rename_i hends
      obtain ⟨rfl, rfl⟩ := Prod.mk.inj (Option.some.inj hfound)
      exact hends
    · cases hfound

/-- A name that stands at the head of a text is found there, or another one is. -/
theorem exists_nameAt? (hname : name ∈ names) (hends : EndsWord name rest) :
    ∃ found, nameAt? names (name ++ rest) = some found := by
  refine Option.isSome_iff_exists.mp (List.findSome?_isSome_iff.mpr ⟨name, hname, ?_⟩)
  rw [Text.after?_eq_some.mpr rfl]
  have hboundary : Text.boundary (name.getLast? <|> some '@') rest.head? = true := hends
  simp only [hboundary, if_true, Option.isSome_some]

theorem directiveAt?_eq_some' (h : directiveAt? names previous s = some (name, rest)) :
    name ∈ names ∧ s = '@' :: name ++ rest ∧ previous ≠ some '@' ∧ EndsWord name rest := by
  obtain ⟨hmem, hsplit⟩ := directiveAt?_eq_some h
  unfold directiveAt? at h
  split at h
  · split at h
    · cases h
    · exact ⟨hmem, hsplit, ‹_›, endsWord_of_nameAt? h⟩
  · cases h

theorem exists_directiveAt? (hname : name ∈ names) (hprevious : previous ≠ some '@') (hends : EndsWord name rest) :
    ∃ found, directiveAt? names previous ('@' :: name ++ rest) = some found := by
  obtain ⟨found, hfound⟩ := exists_nameAt? hname hends
  exact ⟨found, by rw [List.cons_append, directiveAt?, if_neg hprevious, hfound]⟩

/-- A name that is not empty is the whole word behind an `@`. -/
theorem takeWhile_of_endsWord (hname : IsWordName name) (hne : name ≠ []) (hends : EndsWord name rest) :
    (name ++ rest).takeWhile Text.isWord = name := by
  have hlast : Text.isWord? (name.getLast? <|> some '@') = true := by
    rw [List.getLast?_eq_some_getLast hne]
    exact hname _ (List.getLast_mem hne)
  have hhead : Text.isWord? rest.head? = false := by
    have hboundary : (Text.isWord? (name.getLast? <|> some '@') != Text.isWord? rest.head?) = true := hends
    rw [hlast] at hboundary
    simpa using hboundary
  rw [List.takeWhile_append_of_pos hname]
  cases rest with
  | nil => simp
  | cons c rest => simp [show Text.isWord c = false from hhead]

/-- At a place there is at most one name that is not empty. -/
theorem name_unique {name' rest' : Text} (hname : IsWordName name) (hname' : IsWordName name') (hne : name ≠ [])
    (hne' : name' ≠ []) (hends : EndsWord name rest) (hends' : EndsWord name' rest')
    (h : name ++ rest = name' ++ rest') : name = name' ∧ rest = rest' := by
  have hsame : name = name' := by
    rw [← takeWhile_of_endsWord hname hne hends, h, takeWhile_of_endsWord hname' hne' hends']
  subst hsame
  exact ⟨rfl, List.append_cancel_left h⟩

/-! ## Signs -/

/-- A text goes on with a group, behind spaces and tabs. -/
def Opens (s : Text) : Prop := (s.dropWhile isGap).head? = some '('

/-- A directive that can be read: of a name with its use, with a group if it needs one. -/
def directiveSign (uses : List (Text × Use)) : Sign := fun previous s =>
  previous ≠ some '@' ∧ ∃ name use after, (name, use) ∈ uses ∧ s = '@' :: name ++ after ∧ EndsWord name after ∧
    (use = .required → Opens after)

/-- What stands between an opener and a closer. -/
def delimitedSign (opener closer : Text) : Sign := fun _ s => ∃ inside after, s = opener ++ inside ++ closer ++ after

/-- A doubled `@` before a name. -/
def doubledSign (names : List Text) : Sign := fun _ s =>
  ∃ name ∈ names, ∃ after, s = '@' :: '@' :: name ++ after ∧ EndsWord name after

/-- Before the start of markup a word ends where it ends before nothing. -/
theorem EndsWord.append {behind : Text} (h : EndsWord name rest) (hends : Ends behind) :
    EndsWord name (rest ++ behind) := by
  cases rest with
  | cons c rest => exact h
  | nil =>
    cases behind with
    | nil => exact h
    | cons c behind =>
      change (Text.isWord? (name.getLast? <|> some '@') != Text.isWord c) = true
      rw [hends.not_word]
      exact h

theorem Opens.append (h : Opens s) (t : Text) : Opens (s ++ t) := by
  unfold Opens at h ⊢
  rw [List.dropWhile_append]
  split
  case isTrue hempty =>
    rw [List.isEmpty_iff.mp hempty] at h
    cases h
  case isFalse hne =>
    cases hdrop : s.dropWhile isGap with
    | nil => simp [hdrop] at hne
    | cons c rest => rwa [hdrop] at h

theorem directiveSign_lawful (uses : List (Text × Use)) : (directiveSign uses).Lawful where
  head := by
    rintro previous s ⟨-, name, use, after, -, rfl, -, -⟩
    exact ⟨_, _, rfl, rfl⟩
  stays := by
    rintro before around s behind ⟨hbefore, name, use, after, hmem, rfl, hends, hopens⟩ hbehind hparts
    refine ⟨?_, name, use, after ++ behind, hmem, by simp, hends.append hbehind, fun h => (hopens h).append behind⟩
    cases before with
    | none => exact fun haround => hparts rfl haround rfl
    | some c => exact hbefore

theorem doubledSign_lawful (names : List Text) : (doubledSign names).Lawful where
  head := by
    rintro previous s ⟨name, -, after, rfl, -⟩
    exact ⟨_, _, rfl, rfl⟩
  stays := by
    rintro before around s behind ⟨name, hmem, after, rfl, hends⟩ hbehind -
    exact ⟨name, hmem, after ++ behind, by simp, hends.append hbehind⟩

theorem delimitedSign_lawful {c : Char} {opener : Text} (hc : isSigil c = true) (closer : Text) :
    (delimitedSign (c :: opener) closer).Lawful where
  head := by
    rintro previous s ⟨inside, after, rfl⟩
    exact ⟨_, _, rfl, hc⟩
  stays := by
    rintro before around s behind ⟨inside, after, rfl⟩ - -
    exact ⟨inside, after ++ behind, by simp⟩

/-! ## Rules that take whole markup -/

section Neat

variable {α : Type} {p : Place} {used after : Text}

theorem neat_accept {directive : Text} {found : Except Raised α} (h : Span p used after) :
    (p.accept template directive after found).Neat p := by
  rw [Place.accept, length_sub_of_append h.whole]
  exact .accepted h

theorem neat_declined (h : Span p used after) (hparts : Parts p.previous used)
    (htail : ∀ c ∈ used.tail, isSigil c = false) :
    (Verdict.declined (p.rest.length - after.length) : Verdict α).Neat p := by
  rw [length_sub_of_append h.whole]
  exact .declined h hparts htail

/-- A stretch that ends with a name is apart from what stands behind it, if a word ends there. -/
theorem apart_of_endsWord {front : Text} (hname : IsWordName name) (hends : EndsWord name rest)
    (hfront : name = [] → front.length ≤ 1) : Apart (front ++ '@' :: name) rest := by
  have hboundary : (Text.isWord? (name.getLast? <|> some '@') != Text.isWord? rest.head?) = true := hends
  have hlast : (front ++ '@' :: name).getLast? = name.getLast?.or (some '@') := by
    rw [List.getLast?_append, getLast?_or (List.cons_ne_nil _ _), ← Option.or_none (o := ('@' :: name).getLast?),
      getLast?_or_cons]
  cases hname' : name.getLast? with
  | none =>
    rw [hname'] at hboundary hlast
    have hsign : (front ++ '@' :: name).getLast? = some '@' := hlast
    obtain rfl := List.getLast?_eq_none_iff.mp hname'
    refine ⟨fun hword => ?_, fun _ => ⟨?_, ?_⟩⟩
    · rw [hsign] at hword
      exact absurd hword (by decide)
    · simpa [Text.isWord?, show Text.isWord '@' = false by decide] using hboundary
    · have := hfront rfl
      simp only [List.length_append, List.length_singleton]
      omega
  | some c =>
    rw [hname'] at hboundary hlast
    have hword : Text.isWord c = true := hname c (List.mem_of_getLast? hname')
    have hsign : (front ++ '@' :: name).getLast? ≠ some '@' := by
      rw [hlast]
      rintro ⟨⟩
      exact absurd hword (by decide)
    refine ⟨fun _ => ?_, fun h => absurd h hsign⟩
    have hboundary : (Text.isWord c != Text.isWord? rest.head?) = true := hboundary
    rw [hword] at hboundary
    simpa using hboundary

/-- A stretch that ends with neither an `@` nor a word is apart from everything. -/
theorem apart_of_getLast? {c : Char} (h : s.getLast? = some c) (hc : c ≠ '@') (hword : Text.isWord c = false) :
    Apart s rest := by
  have hsign : s.getLast? ≠ some '@' := by rwa [h, ne_eq, Option.some.injEq]
  refine ⟨fun hlast => ?_, fun hlast => absurd hlast hsign⟩
  rw [h] at hlast
  exact absurd (hword.symm.trans hlast) (by decide)

theorem span_name (hname : IsWordName name) (hends : EndsWord name rest) (hp : p.rest = '@' :: name ++ rest) :
    Span p ('@' :: name) rest := by
  have hapart : Apart ([] ++ '@' :: name) rest := apart_of_endsWord hname hends fun _ => Nat.zero_le _
  exact ⟨hp, ⟨_, _, rfl, rfl⟩, hapart⟩

/-- A directive with its arguments is a span. -/
theorem span_arguments {use : Use} (hname : IsWordName name) (hends : EndsWord name rest)
    (hp : p.rest = '@' :: name ++ rest) (harguments : Arguments use used) (hrest : rest = used ++ after) :
    Span p ('@' :: name ++ used) after := by
  subst hrest
  cases harguments with
  | none =>
    rw [List.append_nil]
    exact span_name hname hends hp
  | group =>
    refine ⟨by rw [hp]; simp, ⟨_, _, rfl, rfl⟩, ?_⟩
    exact apart_of_getLast? (c := ')') (by simp [List.getLast?_cons]) (by decide) (by decide)

/-- A span that ends with one line break more. -/
theorem Span.lineBreak (h : Span p used rest) : ∃ more, Span p more (swallowBreak rest) := by
  obtain ⟨lineBreak, hbreak, hrest⟩ := swallowBreak_eq rest
  obtain ⟨c, tail, hused, hc⟩ := h.head
  have hwhole : p.rest = used ++ lineBreak ++ swallowBreak rest := by rw [List.append_assoc, ← hrest, h.whole]
  have hbreaks : ∀ {t : Text}, t.getLast? = some '\n' → Apart t (swallowBreak rest) := fun hlast =>
    apart_of_getLast? hlast (by decide) (by decide)
  simp only [List.mem_cons, List.not_mem_nil, or_false] at hbreak
  rcases hbreak with rfl | rfl | rfl
  · exact ⟨used, by simpa using hwhole, h.head, by rw [show swallowBreak rest = rest from hrest.symm]; exact h.apart⟩
  · exact ⟨_, hwhole, ⟨c, _, by rw [hused]; rfl, hc⟩, hbreaks (by simp)⟩
  · exact ⟨_, hwhole, ⟨c, _, by rw [hused]; rfl, hc⟩, hbreaks (by simp)⟩

/-- A directive that stays text holds no second sigil. -/
theorem neat_required (hname : IsWordName name) (hends : EndsWord name rest) (hprevious : p.previous ≠ some '@')
    (hp : p.rest = '@' :: name ++ rest) : (Verdict.declined (p.rest.length - rest.length) : Verdict α).Neat p :=
  neat_declined (span_name hname hends hp) (fun h => absurd h hprevious)
    fun c hc => isSigil_eq_false_of_isWord (hname c hc)

theorem Directive.read_neat {d : Directive} (hname : IsWordName d.name) (hends : EndsWord d.name rest)
    (hprevious : p.previous ≠ some '@') (hp : p.rest = '@' :: d.name ++ rest) : (d.read template p rest).Neat p := by
  have hbare := span_name hname hends hp
  unfold Directive.read
  cases d.lowering with
  | bare nodes => exact neat_accept hbare
  | optional nodes =>
    simp only
    split
    · exact neat_accept hbare
    case h_2 args after hafter =>
      rcases after_eq_ok hafter with ⟨-, rfl⟩ | ⟨used, hrest, harguments⟩
      · exact neat_accept hbare
      · exact neat_accept (span_arguments hname hends hp harguments hrest)
  | required nodes =>
    simp only
    split
    · exact neat_accept hbare
    · exact neat_required hname hends hprevious hp
    case h_3 args after hafter =>
      obtain ⟨used, hrest, harguments⟩ := after_eq_some hafter
      exact neat_accept (span_arguments hname hends hp harguments hrest)

theorem family_neat {ds : List Directive} (hds : ∀ d ∈ ds, IsWordName d.name) : (family template ds).Neat := by
  intro p v hv
  unfold family at hv
  split at hv
  · split at hv
    · cases hv
    case h_2 name rest hname =>
      obtain ⟨d, hfind, rfl⟩ := Option.map_eq_some_iff.mp hv
      obtain ⟨-, hp, hprevious, hends⟩ := directiveAt?_eq_some' hname
      obtain rfl : d.name = name := by simpa using List.find?_some hfind
      exact Directive.read_neat (hds d (List.mem_of_find?_eq_some hfind)) hends hprevious hp
  · cases hv

theorem inclusion_neat : (inclusion template).Neat := by
  intro p v hv
  unfold inclusion at hv
  split at hv
  · cases hv
  case h_2 name rest hname =>
    obtain ⟨hmem, hp, hprevious, hends⟩ := directiveAt?_eq_some' hname
    obtain rfl := List.mem_singleton.mp hmem
    have hword : IsWordName "include" := isWordName_of_builtin (by simp [builtinNames])
    split at hv
    · obtain rfl := Option.some.inj hv
      exact neat_accept (span_name hword hends hp)
    · obtain rfl := Option.some.inj hv
      exact neat_required hword hends hprevious hp
    case h_3 args after hafter =>
      obtain rfl := Option.some.inj hv
      obtain ⟨used, hrest, harguments⟩ := after_eq_some hafter
      exact neat_accept (span_arguments hword hends hp harguments hrest)

theorem mark_neat : (mark template).Neat := by
  intro p v hv
  unfold mark at hv
  split at hv
  · cases hv
  case h_2 name rest hname =>
    obtain ⟨hmem, hp, hprevious, hends⟩ := directiveAt?_eq_some' hname
    have hword : IsWordName name := isWordName_of_builtin (structuralNames_subset hmem)
    simp only at hv
    split at hv
    · obtain rfl := Option.some.inj hv
      obtain ⟨more, hspan⟩ := (span_name hword hends hp).lineBreak
      exact neat_accept hspan
    · split at hv
      · obtain rfl := Option.some.inj hv
        exact neat_accept (span_name hword hends hp)
      · obtain rfl := Option.some.inj hv
        exact neat_required hword hends hprevious hp
      case h_3 inner after hafter =>
        obtain rfl := Option.some.inj hv
        obtain ⟨used, hrest, harguments⟩ := after_eq_some hafter
        have hspan := span_arguments hword hends hp harguments hrest
        split
        · exact neat_accept hspan
        · obtain ⟨more, hspan⟩ := hspan.lineBreak
          exact neat_accept hspan

theorem escaped_neat {names : List Text} (hnames : ∀ name ∈ names, IsWordName name) : (escaped names).Neat := by
  intro p v hv
  unfold escaped at hv
  split at hv
  case h_1 s hp =>
    obtain ⟨⟨name, rest⟩, hfound, rfl⟩ := Option.map_eq_some_iff.mp hv
    obtain ⟨hmem, rfl⟩ := nameAt?_eq_some hfound
    have hapart : Apart (['@'] ++ '@' :: name) rest :=
      apart_of_endsWord (hnames name (mem_byLength.mp hmem)) (endsWord_of_nameAt? hfound) fun _ => Nat.le_refl _
    have hspan : Span p ('@' :: '@' :: name) rest := ⟨hp, ⟨_, _, rfl, rfl⟩, hapart⟩
    exact .accepted hspan
  · cases hv

/-- An interpolation ends with its closer. -/
theorem span_delimited {opener closer inside : Text} {c : Char} (hp : p.rest = opener ++ inside ++ closer ++ rest)
    (hopener : ∃ c tail, opener = c :: tail ∧ isSigil c) (hclosed : closer.getLast? = some c) (hc : c ≠ '@')
    (hword : Text.isWord c = false) : Span p (opener ++ inside ++ closer) rest := by
  obtain ⟨d, tail, rfl, hd⟩ := hopener
  refine ⟨hp, ⟨d, _, rfl, hd⟩, apart_of_getLast? (c := c) ?_ hc hword⟩
  rw [List.getLast?_append, hclosed, Option.some_or]

theorem rawEcho_neat : (rawEcho template).Neat := by
  intro p v hv
  obtain ⟨⟨inside, rest⟩, hfound, rfl⟩ := Option.map_eq_some_iff.mp hv
  exact neat_accept (span_delimited (delimited?_eq_some hfound).1 ⟨_, _, rfl, rfl⟩ rfl (by decide) (by decide))

theorem echo_neat : (echo registry template).Neat := by
  intro p v hv
  unfold echo at hv
  split at hv
  case h_1 s hp =>
    obtain ⟨⟨inside, rest⟩, hfound, rfl⟩ := Option.map_eq_some_iff.mp hv
    obtain ⟨rfl, -⟩ := delimited?_eq_some hfound
    have hspan : Span p ("@\x7b\x7b" ++ inside ++ "\x7d\x7d") rest :=
      span_delimited (by rw [hp]; rfl) ⟨_, _, rfl, rfl⟩ rfl (by decide) (by decide)
    simp only [length_sub_of_append hspan.whole]
    exact .accepted hspan
  case h_2 =>
    obtain ⟨⟨inside, rest⟩, hfound, rfl⟩ := Option.map_eq_some_iff.mp hv
    exact neat_accept (span_delimited (delimited?_eq_some hfound).1 ⟨_, _, rfl, rfl⟩ rfl (by decide) (by decide))

end Neat

/-! ## Rules that take all that they look for -/

section Takes

variable {α β : Type} {p : Place} {after : Text}

/-- Behind a directive that needs a group, an opening parenthesis is never passed over. -/
theorem after_of_opens (h : Opens s) {args : Option Text} (hafter : Argument.after .required s = .ok (args, rest)) :
    args ≠ none := by
  unfold Argument.after at hafter
  rw [if_neg (by decide)] at hafter
  split at hafter
  case h_1 behind _ =>
    cases hgroup : Argument.group? ('(' :: behind) with
    | error f =>
      rw [hgroup] at hafter
      cases hafter
    | ok found =>
      rw [hgroup] at hafter
      cases hafter
      exact fun h => nomatch h
  case h_2 hnone =>
    unfold Opens at h
    cases hdrop : s.dropWhile isGap with
    | nil =>
      rw [hdrop] at h
      cases h
    | cons c behind =>
      rw [hdrop, List.head?_cons, Option.some.injEq] at h
      exact absurd (h ▸ hdrop) (hnone behind)

theorem Directive.read_takes {d : Directive} (h : d.lowering.use = .required → Opens rest) :
    ∃ n found, d.read template p rest = .accepted n found := by
  unfold Directive.read
  cases hlowering : d.lowering with
  | bare nodes => exact ⟨_, _, rfl⟩
  | optional nodes =>
    simp only
    split <;> exact ⟨_, _, rfl⟩
  | required nodes =>
    simp only
    split
    · exact ⟨_, _, rfl⟩
    case h_2 hafter => exact absurd rfl (after_of_opens (h (by rw [hlowering]; rfl)) hafter)
    · exact ⟨_, _, rfl⟩

/-- The directives of a family with their uses. -/
def usesOf (ds : List Directive) : List (Text × Use) := ds.map fun d => (d.name, d.lowering.use)

/-- A family takes its directives, if another directive at the same place is read just as well. -/
theorem family_takes {ds : List Directive}
    (hds : ∀ d ∈ ds, ∀ d' ∈ ds, ∀ rest rest', d.name ++ rest = d'.name ++ rest' → EndsWord d.name rest →
      EndsWord d'.name rest' → (d.lowering.use = .required → Opens rest) → d'.lowering.use = .required → Opens rest') :
    (family template ds).Takes (directiveSign (usesOf ds)) := by
  rintro p ⟨hprevious, name, use, after, hmem, hp, hends, hopens⟩
  obtain ⟨d, hd, heq⟩ := List.mem_map.mp hmem
  obtain ⟨rfl, rfl⟩ := Prod.mk.inj heq
  have hname : d.name ∈ byLength (ds.map Directive.name) := mem_byLength.mpr (List.mem_map_of_mem hd)
  obtain ⟨⟨name', rest'⟩, hfound⟩ := exists_directiveAt? hname hprevious hends
  obtain ⟨hname', hsplit, -, hends'⟩ := directiveAt?_eq_some' hfound
  obtain ⟨d', hd', rfl⟩ := List.mem_map.mp (mem_byLength.mp hname')
  obtain ⟨d'', hfind⟩ := Option.isSome_iff_exists.mp
    (List.find?_isSome.mpr ⟨d', hd', decide_eq_true rfl⟩ : (ds.find? (·.name = d'.name)).isSome)
  have hsame : d''.name = d'.name := by simpa using List.find?_some hfind
  have hrest : d.name ++ after = d''.name ++ rest' := by rw [hsame]; exact List.cons.inj hsplit |>.2
  obtain ⟨n, found, hread⟩ : ∃ n found, d''.read template p rest' = .accepted n found := Directive.read_takes
    (hds d hd d'' (List.mem_of_find?_eq_some hfind) after rest' hrest hends (hsame ▸ hends') hopens)
  refine ⟨n, found, ?_⟩
  have hplace : directiveAt? (byLength (ds.map Directive.name)) p.previous p.rest = some (d'.name, rest') := by
    rw [hp]; exact hfound
  unfold family
  rw [hplace]
  simp only [hp, List.cons_append, hfind, Option.map_some, hread]

/-- Directives of a registry never need a group. -/
theorem custom_takes : (family template (custom registry)).Takes (directiveSign (usesOf (custom registry))) := by
  refine family_takes fun _ _ d' hd' _ _ _ _ _ _ hrequired => ?_
  obtain ⟨⟨name, handler⟩, -, rfl⟩ := List.mem_map.mp hd'
  cases hrequired

theorem innerNames_nodup : (innerDirectives.map Directive.name).Nodup := by decide +kernel

theorem innerNames_ne_nil : ∀ d ∈ innerDirectives, d.name ≠ [] := by
  have hall : (innerDirectives.all fun d => !d.name.isEmpty) = true := by decide +kernel
  intro d hd hempty
  have hd := List.all_eq_true.mp hall d hd
  rw [hempty] at hd
  cases hd

theorem innerNames_word : ∀ d ∈ innerDirectives, IsWordName d.name := fun _ hd =>
  isWordName_of_builtin (List.mem_append_left _ (List.mem_append_left _ (List.mem_map_of_mem hd)))

/-- Built-in directives have different names. -/
theorem innerFamily_takes {ds : List Directive} (hds : ds ⊆ innerDirectives) :
    (family template ds).Takes (directiveSign (usesOf ds)) := by
  refine family_takes fun d hd d' hd' rest rest' hsplit hends hends' hopens => ?_
  obtain ⟨hname, rfl⟩ := name_unique (innerNames_word d (hds hd)) (innerNames_word d' (hds hd'))
    (innerNames_ne_nil d (hds hd)) (innerNames_ne_nil d' (hds hd')) hends hends' hsplit
  have hsame : d = d' := List.inj_on_of_nodup_map innerNames_nodup (hds hd) (hds hd') hname
  exact hsame ▸ hopens

theorem inclusion_takes : (inclusion template).Takes (directiveSign [("include", .required)]) := by
  rintro p ⟨hprevious, name, use, after, hmem, hp, hends, hopens⟩
  obtain ⟨rfl, rfl⟩ := Prod.mk.inj (List.mem_singleton.mp hmem)
  obtain ⟨⟨name', rest'⟩, hfound⟩ := exists_directiveAt? (List.mem_singleton_self _) hprevious hends
  obtain ⟨hname', hsplit, -, -⟩ := directiveAt?_eq_some' hfound
  obtain rfl := List.mem_singleton.mp hname'
  obtain rfl := List.append_cancel_left hsplit
  unfold inclusion
  rw [hp, hfound]
  simp only
  split
  · exact ⟨_, _, rfl⟩
  case h_2 hafter => exact absurd rfl (after_of_opens (hopens rfl) hafter)
  · exact ⟨_, _, rfl⟩

/-- The structural directives with their uses. -/
def structuralUses : List (Text × Use) := ("yield", .required) :: breakingUses

theorem mark_takes : (mark template).Takes (directiveSign structuralUses) := by
  rintro p ⟨hprevious, name, use, after, hmem, hp, hends, hopens⟩
  have hnames : name ∈ structuralNames ∧ name ≠ [] ∧ (¬ (name = "endsection" ∨ name = "show") → use = .required) := by
    simp only [structuralUses, breakingUses, List.mem_cons, List.not_mem_nil, or_false, Prod.mk.injEq] at hmem
    rcases hmem with ⟨rfl, rfl⟩ | ⟨rfl, rfl⟩ | ⟨rfl, rfl⟩ | ⟨rfl, rfl⟩ | ⟨rfl, rfl⟩ <;>
      exact ⟨mem_byLength.mpr (by simp), by simp, by simp⟩
  obtain ⟨hname, hne, huse⟩ := hnames
  obtain ⟨⟨name', rest'⟩, hfound⟩ := exists_directiveAt? hname hprevious hends
  obtain ⟨hname', hsplit, -, hends'⟩ := directiveAt?_eq_some' hfound
  have hne' : name' ≠ [] := by
    rintro rfl
    exact absurd (mem_byLength.mp hname') (by simp)
  obtain ⟨rfl, rfl⟩ := name_unique (isWordName_of_builtin (structuralNames_subset hname))
    (isWordName_of_builtin (structuralNames_subset hname')) hne hne' hends hends' (List.cons.inj hsplit).2
  unfold mark
  rw [hp, hfound]
  simp only
  split
  · exact ⟨_, _, rfl⟩
  case isFalse hopening =>
    split
    · exact ⟨_, _, rfl⟩
    case h_2 hafter => exact absurd rfl (after_of_opens (hopens (huse hopening)) hafter)
    · exact ⟨_, _, rfl⟩

theorem escaped_takes {names : List Text} : (escaped names).Takes (doubledSign names) := by
  rintro p ⟨name, hmem, after, hp, hends⟩
  obtain ⟨⟨name', rest'⟩, hfound⟩ := exists_nameAt? (mem_byLength.mpr hmem) hends
  refine ⟨name'.length + 2, .ok [.verbatim p.line ('@' :: name')], ?_⟩
  unfold escaped
  rw [hp]
  simp only [List.cons_append, hfound, Option.map_some]

theorem exists_cut? (closer inside after : Text) :
    ∃ found, Text.cut? closer (inside ++ closer ++ after) = some found := by
  induction inside with
  | nil =>
    have hafter : Text.after? closer (closer ++ after) = some after := Text.after?_eq_some.mpr rfl
    cases hwhole : closer ++ after with
    | nil =>
      rw [hwhole] at hafter
      exact ⟨([], after), by rw [List.nil_append, hwhole, Text.cut?, hafter]; rfl⟩
    | cons c s =>
      rw [hwhole] at hafter
      exact ⟨([], after), by rw [List.nil_append, hwhole, Text.cut?, hafter]⟩
  | cons c inside ih =>
    obtain ⟨⟨before, behind⟩, hfound⟩ := ih
    rw [List.cons_append, List.cons_append, Text.cut?]
    split
    · exact ⟨_, rfl⟩
    · exact ⟨_, by rw [hfound]; rfl⟩

theorem exists_delimited? (opener closer inside after : Text) :
    ∃ found, delimited? opener closer (opener ++ inside ++ closer ++ after) = some found := by
  have hafter : Text.after? opener (opener ++ inside ++ closer ++ after) = some (inside ++ closer ++ after) :=
    Text.after?_eq_some.mpr (by simp)
  unfold delimited?
  rw [hafter]
  exact exists_cut? closer inside after

theorem rawEcho_takes : (rawEcho template).Takes (delimitedSign "\x7b!!" "!!\x7d") := by
  rintro p ⟨inside, after, hp⟩
  obtain ⟨found, hfound⟩ := exists_delimited? "\x7b!!" "!!\x7d" inside after
  unfold rawEcho
  rw [hp, hfound]
  exact ⟨_, _, rfl⟩

theorem echo_takes : (echo registry template).Takes (delimitedSign "\x7b\x7b" "\x7d\x7d") := by
  rintro p ⟨inside, after, hp⟩
  obtain ⟨found, hfound⟩ := exists_delimited? "\x7b\x7b" "\x7d\x7d" inside after
  unfold echo
  split
  case h_1 s hat =>
    rw [hp] at hat
    cases hat
  · rw [hp, hfound]
    exact ⟨_, _, rfl⟩

/-- What a rule finds may be made something else of. -/
theorem Rule.Neat.map {rule : Rule α} (h : rule.Neat) (f : α → β) : (rule.map f).Neat := by
  intro p v hv
  unfold Rule.map at hv
  cases hr : rule p with
  | none =>
    rw [hr] at hv
    cases hv
  | some w =>
    rw [hr] at hv
    cases h p w hr with
    | declined hspan hparts htail =>
      obtain rfl := Option.some.inj hv
      exact .declined hspan hparts htail
    | accepted hspan =>
      obtain rfl := Option.some.inj hv
      exact .accepted hspan

theorem Rule.Takes.map {rule : Rule α} {sign : Sign} (h : rule.Takes sign) (f : α → β) : (rule.map f).Takes sign := by
  intro p hp
  obtain ⟨n, found, hrule⟩ := h p hp
  exact ⟨n, found.map f, by rw [Rule.map, hrule]⟩

end Takes

end Markup
end Stencil
