import Stencil.Markup.Reading
import Stencil.Proofs.Step
import Stencil.Proofs.Markup.Tile
import Stencil.Proofs.Text.Split

/-!
# What markup looks like

The stretches of a template that the passes take out of its text, and that every pass takes such a stretch only and puts
nodes on its line there.

* `ClosedBy` — a closer ends what stands inside for the first time.
* `Arguments` — what a directive takes behind its name.
* `IsMarkup` — a directive, an interpolation, a comment, a region or a doubled `@`, as it is written.
* `Lowers` — what a pass makes of a stretch of markup.
* `comment_reads`, `family_reads`, … — every rule reads markup; `mark_reads` — so do the structural directives.
-/

namespace Stencil

open Argument (Use isGap)

namespace Markup

/-! ## Closers -/

/-- A closer behind `inside` is the first one there; what stands behind a closer may keep it from being one. -/
def ClosedBy (closer : Text) (ends : Option Char → Bool) (inside : Text) : Prop :=
  ∀ before rest, inside ++ closer = before ++ closer ++ rest → ends rest.head? → rest = []

namespace ClosedBy

variable {closer inside : Text} {ends : Option Char → Bool} {c : Char}

theorem nil : ClosedBy closer ends [] := by
  intro before rest h _
  have hlength := congrArg List.length h
  simp only [List.nil_append, List.length_append] at hlength
  exact List.length_eq_zero_iff.mp (by omega)

theorem cons (h : ClosedBy closer ends inside)
    (hfirst : ∀ rest, c :: inside ++ closer = closer ++ rest → ends rest.head? → rest = []) :
    ClosedBy closer ends (c :: inside) := by
  intro before rest hsplit hends
  cases before with
  | nil => exact hfirst rest hsplit hends
  | cons d before =>
    rw [List.cons_append, List.cons_append, List.cons_append, List.cons.injEq] at hsplit
    exact h before rest hsplit.2 hends

end ClosedBy

/-- A text is cut at the first closer. -/
theorem cut?_eq_some {closer s inside rest : Text} (h : Text.cut? closer s = some (inside, rest)) :
    s = inside ++ closer ++ rest ∧ ClosedBy closer (fun _ => true) inside := by
  induction s generalizing inside with
  | nil =>
    obtain ⟨rest', hafter, hpair⟩ := Option.map_eq_some_iff.mp h
    obtain ⟨rfl, rfl⟩ := Prod.mk.inj hpair
    exact ⟨Text.after?_eq_some.mp hafter, .nil⟩
  | cons c s ih =>
    rw [Text.cut?] at h
    cases hafter : Text.after? closer (c :: s) with
    | some rest' =>
      rw [hafter] at h
      obtain ⟨rfl, rfl⟩ := Prod.mk.inj (Option.some.inj h)
      exact ⟨Text.after?_eq_some.mp hafter, .nil⟩
    | none =>
      rw [hafter] at h
      obtain ⟨⟨inside', rest'⟩, hcut, hpair⟩ := Option.map_eq_some_iff.mp h
      obtain ⟨rfl, rfl⟩ := Prod.mk.inj hpair
      obtain ⟨rfl, hclosed⟩ := ih hcut
      refine ⟨rfl, hclosed.cons fun rest hrest _ => ?_⟩
      have hfirst : Text.after? closer (c :: (inside' ++ closer ++ rest')) = some (rest ++ rest') := by
        rw [Text.after?_eq_some, ← List.append_assoc, ← hrest]
        simp
      rw [hafter] at hfirst
      cases hfirst

/-- A region ends with the first whole word that closes it. -/
theorem untilWord_eq_some {name s inside rest : Text} (h : untilWord name s = some (inside, rest)) :
    s = inside ++ '@' :: name ++ rest ∧ ClosedBy ('@' :: name) (Text.boundary name.getLast?) inside := by
  induction s generalizing inside with
  | nil => cases h
  | cons c s ih =>
    -- the word does not stand here, or it goes on behind the name
    have hbehind : (∀ first, Text.after? ('@' :: name) (c :: s) = some first →
        Text.boundary name.getLast? first.head? = false) →
        (untilWord name s).map (fun found => (c :: found.1, found.2)) = some (inside, rest) →
        c :: s = inside ++ '@' :: name ++ rest ∧ ClosedBy ('@' :: name) (Text.boundary name.getLast?) inside := by
      intro hfirst h
      obtain ⟨⟨inside', rest'⟩, huntil, hpair⟩ := Option.map_eq_some_iff.mp h
      obtain ⟨rfl, rfl⟩ := Prod.mk.inj hpair
      obtain ⟨rfl, hclosed⟩ := ih huntil
      refine ⟨by simp, hclosed.cons fun rest hrest hends => ?_⟩
      have hgoes : Text.boundary name.getLast? (rest ++ rest').head? = false := by
        refine hfirst _ (Text.after?_eq_some.mpr ?_)
        rw [← List.append_assoc, ← hrest]
        simp
      cases rest with
      | nil => rfl
      | cons d rest =>
        rw [List.cons_append, List.head?_cons] at hgoes
        rw [List.head?_cons, hgoes] at hends
        cases hends
    rw [untilWord] at h
    cases hafter : Text.after? ('@' :: name) (c :: s) with
    | none =>
      rw [hafter] at h hbehind
      exact hbehind (fun _ h => nomatch h) h
    | some first =>
      rw [hafter] at h hbehind
      simp only at h
      split at h
      case isTrue =>
        obtain ⟨rfl, rfl⟩ := Prod.mk.inj (Option.some.inj h)
        exact ⟨Text.after?_eq_some.mp hafter, .nil⟩
      case isFalse hends => exact hbehind (fun _ h => by simpa [← Option.some.inj h] using hends) h

/-- An interpolation or a comment: what opens it, what stands inside, and what closes it for the first time. -/
theorem delimited?_eq_some {opener closer s inside rest : Text}
    (h : delimited? opener closer s = some (inside, rest)) :
    s = opener ++ inside ++ closer ++ rest ∧ ClosedBy closer (fun _ => true) inside := by
  unfold delimited? at h
  split at h
  · cases h
  case h_2 behind hopener =>
    obtain ⟨rfl, hclosed⟩ := cut?_eq_some h
    refine ⟨?_, hclosed⟩
    rw [Text.after?_eq_some.mp hopener]
    simp

/-! ## Names -/

theorem mem_byLength {names : List Text} {name : Text} : name ∈ byLength names ↔ name ∈ names := List.mem_mergeSort

theorem nameAt?_eq_some {names : List Text} {s name rest : Text} (h : nameAt? names s = some (name, rest)) :
    name ∈ names ∧ s = name ++ rest := by
  obtain ⟨name', hmem, hfound⟩ := List.exists_of_findSome?_eq_some h
  split at hfound
  · cases hfound
  case h_2 behind hafter =>
    split at hfound
    · obtain ⟨rfl, rfl⟩ := Prod.mk.inj (Option.some.inj hfound)
      exact ⟨hmem, Text.after?_eq_some.mp hafter⟩
    · cases hfound

theorem directiveAt?_eq_some {names : List Text} {previous : Option Char} {s name rest : Text}
    (h : directiveAt? names previous s = some (name, rest)) : name ∈ names ∧ s = '@' :: name ++ rest := by
  unfold directiveAt? at h
  split at h
  · split at h
    · cases h
    · obtain ⟨hmem, rfl⟩ := nameAt?_eq_some h
      exact ⟨hmem, rfl⟩
  · cases h

/-! ## Arguments -/

/-- What a directive takes behind its name: nothing unless it needs a group, or a group behind spaces and tabs unless it
takes none. -/
inductive Arguments : Use → Text → Prop
  | none {use : Use} : use ≠ .required → Arguments use []
  | group {use : Use} {gap inner : Text} : use ≠ .bare → (∀ c ∈ gap, isGap c) →
    Argument.group? ('(' :: inner ++ [')']) = .ok (inner, []) → Arguments use (gap ++ ('(' :: inner ++ [')']))

theorem before_eq_ok {ε α : Type} {c : Char} {x : Except ε (Text × α)} {inner : Text} {rest : α} :
    Argument.before c x = .ok (inner, rest) ↔ ∃ inner', x = .ok (inner', rest) ∧ inner = c :: inner' := by
  cases x with
  | error e => exact ⟨fun h => (nomatch h), fun ⟨_, h, _⟩ => (nomatch h)⟩
  | ok found =>
    obtain ⟨inner', rest'⟩ := found
    constructor
    · intro h
      obtain ⟨rfl, rfl⟩ := Prod.mk.inj (Except.ok.inj h)
      exact ⟨inner', rfl, rfl⟩
    · rintro ⟨_, h, rfl⟩
      obtain ⟨rfl, rfl⟩ := Prod.mk.inj (Except.ok.inj h)
      rfl

/-- One more character before items that are read up to a bracket. -/
theorem items_step {mode mode' : Argument.Mode} {closers closers' : List Char} {c last : Char} {s inner rest : Text}
    (hstep : ∀ s, Argument.items mode closers (c :: s) = Argument.before c (Argument.items mode' closers' s))
    (ih : ∀ inner, Argument.items mode' closers' s = .ok (inner, rest) →
      s = inner ++ last :: rest ∧ Argument.items mode' closers' (inner ++ [last]) = .ok (inner, []))
    (h : Argument.before c (Argument.items mode' closers' s) = .ok (inner, rest)) :
    c :: s = inner ++ last :: rest ∧ Argument.items mode closers (inner ++ [last]) = .ok (inner, []) := by
  obtain ⟨inner', h', rfl⟩ := before_eq_ok.mp h
  obtain ⟨hs, hread⟩ := ih inner' h'
  exact ⟨by rw [hs]; rfl, by rw [List.cons_append, hstep, hread]; rfl⟩

/-- Items are read up to the bracket that closes the outermost open one, and what stands behind it does not matter. -/
theorem items_eq_ok {mode : Argument.Mode} {closers : List Char} {last : Char} {s inner rest : Text}
    (hlast : closers.getLast? = some last) (h : Argument.items mode closers s = .ok (inner, rest)) :
    s = inner ++ last :: rest ∧ Argument.items mode closers (inner ++ [last]) = .ok (inner, []) := by
  fun_induction Argument.items mode closers s generalizing inner with
  | case1 => cases h
  | case2 => cases h
  | case3 q closers c s ih => exact items_step (fun _ => rfl) (fun _ => ih hlast) h
  | case4 q closers c s ih => exact items_step (fun _ => rfl) (fun _ => ih hlast) h
  | case5 closers c s hquote ih =>
    exact items_step (fun s => by simp [Argument.items, hquote]) (fun _ => ih hlast) h
  | case6 closers c s hquote closer hopener ih =>
    have hlast' : (closer :: closers).getLast? = some last := by simp [List.getLast?_cons, hlast]
    exact items_step (fun s => by simp [Argument.items, hquote, hopener]) (fun _ => ih hlast') h
  | case7 => cases h
  | case8 => cases h
  | case9 c s hquote hopener hcloser closer outer hsame hempty =>
    obtain rfl : outer = [] := List.isEmpty_iff.mp hempty
    obtain rfl : c = closer := by simpa using hsame
    obtain rfl : c = last := by simpa using hlast
    obtain ⟨rfl, rfl⟩ := Prod.mk.inj (Except.ok.inj h)
    exact ⟨rfl, by simp [Argument.items, hquote, hopener, hcloser]⟩
  | case10 c s hquote hopener hcloser closer outer hsame hempty ih =>
    obtain rfl : c = closer := by simpa using hsame
    have hlast' : outer.getLast? = some last := by
      cases outer with
      | nil => simp at hempty
      | cons d outer => rwa [List.getLast?_cons_cons] at hlast
    exact items_step (fun s => by simp [Argument.items, hquote, hopener, hcloser, hempty]) (fun _ => ih hlast') h
  | case11 closers c s hquote hopener hcloser ih =>
    exact items_step (fun s => by simp [Argument.items, hquote, hopener, hcloser]) (fun _ => ih hlast) h

theorem group?_eq_ok {s inner rest : Text} (h : Argument.group? ('(' :: s) = .ok (inner, rest)) :
    s = inner ++ ')' :: rest ∧ Argument.group? ('(' :: inner ++ [')']) = .ok (inner, []) :=
  items_eq_ok rfl h

/-- Without a group nothing is taken behind a name; a group stands right behind it. -/
theorem after_eq_ok {use : Use} {s rest : Text} {args : Option Text} (h : Argument.after use s = .ok (args, rest)) :
    (args = none ∧ rest = s) ∨ ∃ used, s = used ++ rest ∧ Arguments use used := by
  unfold Argument.after at h
  split at h
  · obtain ⟨rfl, rfl⟩ := Prod.mk.inj (Except.ok.inj h)
    exact .inl ⟨rfl, rfl⟩
  case isFalse huse =>
    split at h
    case h_1 behind hdrop =>
      cases hgroup : Argument.group? ('(' :: behind) with
      | error f =>
        rw [hgroup] at h
        cases h
      | ok found =>
        rw [hgroup] at h
        obtain ⟨inner, rest'⟩ := found
        obtain ⟨rfl, rfl⟩ := Prod.mk.inj (Except.ok.inj h)
        obtain ⟨rfl, hread⟩ := group?_eq_ok hgroup
        have hsplit : s = s.takeWhile isGap ++ '(' :: (inner ++ ')' :: rest') := by
          rw [← hdrop, List.takeWhile_append_dropWhile]
        have hgap : ∀ c ∈ s.takeWhile isGap, isGap c := fun c hc => List.all_eq_true.mp List.all_takeWhile c hc
        exact .inr ⟨_, by simpa using hsplit, .group huse hgap hread⟩
    · obtain ⟨rfl, rfl⟩ := Prod.mk.inj (Except.ok.inj h)
      exact .inl ⟨rfl, rfl⟩

theorem after_eq_some {use : Use} {s inner rest : Text} (h : Argument.after use s = .ok (some inner, rest)) :
    ∃ used, s = used ++ rest ∧ Arguments use used := by
  rcases after_eq_ok h with ⟨hnone, -⟩ | hgroup
  · cases hnone
  · exact hgroup

/-! ## Markup -/

/-- How a directive takes arguments. -/
def Lowering.use : Lowering → Use
  | .bare _ => .bare
  | .optional _ => .optional
  | .required _ => .required

/-- The directives that end with their arguments. -/
def plainUses (registry : Registry) : List (Text × Use) :=
  ("include", .required) :: ("yield", .required) ::
    (custom registry ++ innerDirectives).map fun d => (d.name, d.lowering.use)

/-- The directives that take one line break behind their arguments with them. -/
def breakingUses : List (Text × Use) :=
  [("extends", .required), ("section", .required), ("endsection", .bare), ("show", .bare)]

/-- What opens and closes interpolations, printed braces, raw interpolations and comments. -/
def delimiters : List (Text × Text) :=
  [("\x7b\x7b", "\x7d\x7d"), ("@\x7b\x7b", "\x7d\x7d"), ("\x7b!!", "!!\x7d"), ("\x7b\x7b--", "--\x7d\x7d")]

/-- The names that open and close regions. -/
def regionNames : List (Text × Text) := [("verbatim", "endverbatim"), ("python", "endpython")]

/-- A stretch of a template that is markup. -/
inductive IsMarkup (registry : Registry) : Text → Prop
  | directive {name args : Text} {use : Use} : (name, use) ∈ plainUses registry → Arguments use args →
    IsMarkup registry ('@' :: name ++ args)
  | breaking {name args lineBreak : Text} {use : Use} : (name, use) ∈ breakingUses → Arguments use args →
    lineBreak ∈ [("" : Text), "\n", "\r\n"] → IsMarkup registry ('@' :: name ++ args ++ lineBreak)
  | delimited {opener closer inside : Text} : (opener, closer) ∈ delimiters → ClosedBy closer (fun _ => true) inside →
    IsMarkup registry (opener ++ inside ++ closer)
  | region {opener closer inside : Text} : (opener, closer) ∈ regionNames →
    ClosedBy ('@' :: closer) (Text.boundary closer.getLast?) inside →
    IsMarkup registry ('@' :: opener ++ inside ++ '@' :: closer)
  | doubled {name : Text} : name ∈ knownNames registry → IsMarkup registry ('@' :: '@' :: name)

/-- What a pass makes of a stretch on a line: the stretch is markup, and what it became is on its line and not text. -/
def Lowers (registry : Registry) (line : Int) (s : Text) (nodes : List Node) : Prop :=
  IsMarkup registry s ∧ ∀ i ∈ items nodes, i.FinalAt line

variable {registry : Registry} {template : Text}

/-! ## Interpolations, comments, regions and doubled signs -/

theorem comment_reads : comment.Reads (Lowers registry) := by
  intro p v hv
  have hdelimited : comment p = (delimited? "\x7b\x7b--" "--\x7d\x7d" p.rest).map fun found =>
      .accepted (p.rest.length - found.2.length) (.ok []) := by
    unfold comment delimited?
    cases Text.after? "\x7b\x7b--" p.rest <;> rfl
  rw [hdelimited] at hv
  obtain ⟨⟨inside, rest⟩, hfound, rfl⟩ := Option.map_eq_some_iff.mp hv
  obtain ⟨hrest, hclosed⟩ := delimited?_eq_some hfound
  refine fits_accepted hrest (by simp) ?_
  rintro a ha
  obtain rfl := Except.ok.inj ha
  exact ⟨.delimited (by simp [delimiters]) hclosed, by simp⟩

theorem rawEcho_reads : (rawEcho template).Reads (Lowers registry) := by
  intro p v hv
  obtain ⟨⟨inside, rest⟩, hfound, rfl⟩ := Option.map_eq_some_iff.mp hv
  obtain ⟨hrest, hclosed⟩ := delimited?_eq_some hfound
  refine fits_accept hrest (by simp) ?_
  intro a ha
  refine ⟨.delimited (by simp [delimiters]) hclosed, ?_⟩
  unfold rawEchoNode at ha
  simp only at ha
  split at ha
  · cases ha
  · obtain rfl := Except.ok.inj ha
    simp

theorem echo_reads : (echo registry template).Reads (Lowers registry) := by
  intro p v hv
  unfold echo at hv
  split at hv
  case h_1 s hp =>
    obtain ⟨⟨inside, rest⟩, hfound, rfl⟩ := Option.map_eq_some_iff.mp hv
    obtain ⟨rfl, hclosed⟩ := delimited?_eq_some hfound
    have hspan : p.rest = "@\x7b\x7b" ++ inside ++ "\x7d\x7d" ++ rest := by
      rw [hp]
      rfl
    refine fits_accepted hspan (by simp) ?_
    intro a ha
    obtain rfl := Except.ok.inj ha
    exact ⟨.delimited (by simp [delimiters]) hclosed, by simp⟩
  case h_2 =>
    obtain ⟨⟨inside, rest⟩, hfound, rfl⟩ := Option.map_eq_some_iff.mp hv
    obtain ⟨hrest, hclosed⟩ := delimited?_eq_some hfound
    refine fits_accept hrest (by simp) fun a ha => ?_
    obtain ⟨⟨expr, safe⟩, -, ha⟩ := bind_eq_ok.mp ha
    obtain rfl := Except.ok.inj ha
    exact ⟨.delimited (by simp [delimiters]) hclosed, by simp⟩

theorem region?_eq_some {opener closer body rest : Text} {p : Place} (h : region? opener closer p = some (body, rest)) :
    p.rest = '@' :: opener ++ body ++ '@' :: closer ++ rest ∧
      ClosedBy ('@' :: closer) (Text.boundary closer.getLast?) body := by
  unfold region? at h
  split at h
  · cases h
  case h_2 name behind hname =>
    obtain ⟨hmem, hp⟩ := directiveAt?_eq_some hname
    obtain rfl := List.mem_singleton.mp hmem
    obtain ⟨rfl, hclosed⟩ := untilWord_eq_some h
    exact ⟨by rw [hp]; simp, hclosed⟩

theorem verbatim_reads : verbatim.Reads (Lowers registry) := by
  intro p v hv
  obtain ⟨⟨body, rest⟩, hfound, rfl⟩ := Option.map_eq_some_iff.mp hv
  obtain ⟨hrest, hclosed⟩ := region?_eq_some hfound
  refine fits_accepted hrest (by simp) fun a ha => ?_
  obtain rfl := Except.ok.inj ha
  exact ⟨.region (by simp [regionNames]) hclosed, by simp⟩

theorem program_reads : program.Reads (Lowers registry) := by
  intro p v hv
  obtain ⟨⟨body, rest⟩, hfound, rfl⟩ := Option.map_eq_some_iff.mp hv
  obtain ⟨hrest, hclosed⟩ := region?_eq_some hfound
  refine fits_accepted hrest (by simp) fun a ha => ?_
  refine ⟨.region (by simp [regionNames]) hclosed, ?_⟩
  obtain rfl := Except.ok.inj ha
  split <;> simp

theorem escaped_reads : (escaped (knownNames registry)).Reads (Lowers registry) := by
  intro p v hv
  unfold escaped at hv
  split at hv
  case h_1 s hp =>
    obtain ⟨⟨name, rest⟩, hfound, rfl⟩ := Option.map_eq_some_iff.mp hv
    obtain ⟨hmem, rfl⟩ := nameAt?_eq_some hfound
    have hused : (Verdict.accepted ('@' :: '@' :: name).length (.ok [Node.verbatim p.line ('@' :: name)])).Fits
        (Lowers registry) p := by
      have hspan : p.rest = '@' :: '@' :: name ++ rest := by
        rw [hp]
        rfl
      refine .found hspan (by simp) ⟨.doubled (mem_byLength.mp hmem), ?_⟩
      simp
    exact hused
  · cases hv

/-! ## Directives -/

/-- A directive becomes what is on its line and not text. -/
def Lowering.OnLine : Lowering → Prop
  | .bare nodes => ∀ line, ∀ i ∈ items (nodes line), i.FinalAt line
  | .optional nodes => ∀ line args found, nodes line args = .ok found → ∀ i ∈ items found, i.FinalAt line
  | .required nodes => ∀ line args found, nodes line args = .ok found → ∀ i ∈ items found, i.FinalAt line

/-- A directive fits the place at which it is read. -/
theorem Directive.read_fits {d : Directive} (huse : (d.name, d.lowering.use) ∈ plainUses registry)
    (hline : d.lowering.OnLine) {p : Place} {rest : Text} (hp : p.rest = '@' :: d.name ++ rest) :
    (d.read template p rest).Fits (Lowers registry) p := by
  have hname : '@' :: d.name ≠ [] := List.cons_ne_nil _ _
  -- what the directive takes behind its name
  have hspan : ∀ {used after : Text}, rest = used ++ after → p.rest = '@' :: d.name ++ used ++ after := by
    rintro used after rfl
    rw [hp, List.append_assoc]
  unfold Directive.read
  cases hlowering : d.lowering with
  | bare nodes =>
    rw [hlowering] at huse hline
    refine fits_accept hp hname fun a ha => ?_
    obtain rfl := Except.ok.inj ha
    exact ⟨by simpa using IsMarkup.directive huse (.none fun h => nomatch h), hline p.line⟩
  | optional nodes =>
    rw [hlowering] at huse hline
    simp only
    split
    · exact fits_accept hp hname fun a ha => nomatch ha
    case h_2 args after hafter =>
      obtain ⟨used, hused, harguments⟩ : ∃ used, rest = used ++ after ∧ Arguments .optional used := by
        rcases after_eq_ok hafter with ⟨-, rfl⟩ | h
        · exact ⟨[], rfl, .none (by decide)⟩
        · exact h
      exact fits_accept (hspan hused) (by simp) fun a ha => ⟨.directive huse harguments, hline _ _ a ha⟩
  | required nodes =>
    rw [hlowering] at huse hline
    simp only
    split
    · exact fits_accept hp hname fun a ha => nomatch ha
    · exact fits_declined hp hname
    case h_3 args after hafter =>
      obtain ⟨used, hused, harguments⟩ := after_eq_some hafter
      refine fits_accept (hspan hused) (by simp) fun a ha => ⟨.directive huse harguments, ?_⟩
      split at ha
      · cases ha
      · exact hline _ _ a ha

theorem family_reads {ds : List Directive}
    (hds : ∀ d ∈ ds, (d.name, d.lowering.use) ∈ plainUses registry ∧ d.lowering.OnLine) :
    (family template ds).Reads (Lowers registry) := by
  intro p v hv
  unfold family at hv
  split at hv
  · split at hv
    · cases hv
    case h_2 name rest hname =>
      obtain ⟨d, hfind, rfl⟩ := Option.map_eq_some_iff.mp hv
      obtain ⟨-, hp⟩ := directiveAt?_eq_some hname
      obtain ⟨huse, hline⟩ := hds d (List.mem_of_find?_eq_some hfind)
      have hsame : d.name = name := by simpa using List.find?_some hfind
      exact Directive.read_fits huse hline (hsame ▸ hp)
  · cases hv

theorem handledNodes_onLine (line : Int) (code : Option Text) :
    ∀ i ∈ items (handledNodes line code), i.FinalAt line := by
  unfold handledNodes
  split
  · simp
  · split <;> simp

theorem custom_onLine {d : Directive} (hd : d ∈ custom registry) : d.lowering.OnLine := by
  obtain ⟨⟨name, handler⟩, -, rfl⟩ := List.mem_map.mp hd
  intro line args found hfound
  have hfound : ((handler args).mapError (handledFailure name)).map (handledNodes line) = .ok found := hfound
  cases hcode : handler args with
  | error e =>
    rw [hcode] at hfound
    cases hfound
  | ok code =>
    rw [hcode] at hfound
    obtain rfl := Except.ok.inj hfound
    exact handledNodes_onLine line code

theorem loop_onLine (name before after : Text) (prologue : List Text) :
    (loop name before after prologue).lowering.OnLine := by
  intro line args found hfound
  simp only at hfound
  split at hfound
  · cases hfound
  · obtain rfl := Except.ok.inj hfound
    simp

theorem jump_onLine (name : Text) : (jump name).lowering.OnLine := by
  intro line args found hfound
  simp only at hfound
  split at hfound <;>
  · obtain rfl := Except.ok.inj hfound
    simp

theorem onLine_bare_iff {nodes : Int → List Node} :
    (Lowering.bare nodes).OnLine ↔ ∀ line, ∀ i ∈ items (nodes line), i.FinalAt line := Iff.rfl

/-- A directive that always succeeds is on its line if its nodes are. -/
theorem onLine_required_iff {nodes : Int → Text → List Node} :
    (Lowering.required fun line args => .ok (nodes line args)).OnLine ↔
      ∀ line args, ∀ i ∈ items (nodes line args), i.FinalAt line := by
  refine ⟨fun h line args => h line args _ rfl, ?_⟩
  intro h line args found hfound
  obtain rfl := Except.ok.inj hfound
  exact h line args

theorem innerDirectives_onLine : ∀ d ∈ innerDirectives, d.lowering.OnLine := by
  simp [innerDirectives, csrf, json, control, auth, parent, permission, component, componentSlot, push, closer, opener,
    bareOpener, printer, callPrinter, caller, bareStatement, loop_onLine, jump_onLine, onLine_bare_iff,
    onLine_required_iff]

/-- Every family of built-in directives reads markup. -/
theorem innerFamily_reads {ds : List Directive} (hds : ds ⊆ innerDirectives) :
    (family template ds).Reads (Lowers registry) := by
  refine family_reads fun d hd => ⟨?_, innerDirectives_onLine d (hds hd)⟩
  simp only [plainUses, List.mem_cons]
  exact .inr (.inr (List.mem_map_of_mem (List.mem_append_right _ (hds hd))))

theorem customFamily_reads : (family template (custom registry)).Reads (Lowers registry) := by
  refine family_reads fun d hd => ⟨?_, custom_onLine hd⟩
  simp only [plainUses, List.mem_cons]
  exact .inr (.inr (List.mem_map_of_mem (List.mem_append_left _ hd)))

/-! ## Includes and structure -/

theorem inclusionOf_eq_ok {p : Place} {args : Text} {found : Inclusion × List Node}
    (h : inclusionOf p args = .ok found) :
    found.1.line = p.line ∧ found.1.excerpt = p.excerpt ∧
      ∃ data, found.2 =
        [.echo p.line ("_view.make_partial(" ++ Text.quoted found.1.name ++ ", " ++ data ++ ")") false] := by
  unfold inclusionOf at h
  obtain ⟨literal, -, h⟩ := bind_eq_ok.mp h
  cases literal with
  | none => cases h
  | some name =>
    obtain rfl := Except.ok.inj h
    exact ⟨rfl, rfl, _, rfl⟩

theorem inclusionOf_onLine {p : Place} {args : Text} {found : Inclusion × List Node}
    (h : inclusionOf p args = .ok found) : ∀ i ∈ items found.2, i.FinalAt p.line := by
  obtain ⟨-, -, data, hnodes⟩ := inclusionOf_eq_ok h
  simp [hnodes]

theorem inclusion_reads :
    (inclusion template).Reads fun line s found => Lowers registry line s found.2 := by
  intro p v hv
  unfold inclusion at hv
  split at hv
  · cases hv
  case h_2 name rest hname =>
    obtain ⟨hmem, hp⟩ := directiveAt?_eq_some hname
    obtain rfl := List.mem_singleton.mp hmem
    split at hv
    · obtain rfl := Option.some.inj hv
      exact fits_accept hp (by simp) fun a ha => nomatch ha
    · obtain rfl := Option.some.inj hv
      exact fits_declined hp (by simp)
    case h_3 args after hafter =>
      obtain rfl := Option.some.inj hv
      obtain ⟨used, rfl, harguments⟩ := after_eq_some hafter
      have hspan : p.rest = '@' :: "include" ++ used ++ after := by
        rw [hp, List.append_assoc]
      refine fits_accept hspan (by simp) fun a ha => ?_
      refine ⟨.directive (by simp [plainUses]) harguments, ?_⟩
      split at ha
      · cases ha
      · exact inclusionOf_onLine ha

/-- One line break at most is taken. -/
theorem swallowBreak_eq (s : Text) : ∃ lineBreak ∈ [("" : Text), "\n", "\r\n"], s = lineBreak ++ swallowBreak s := by
  unfold swallowBreak
  split
  · exact ⟨"\r\n", by simp, rfl⟩
  · exact ⟨"\n", by simp, rfl⟩
  · exact ⟨"", by simp, rfl⟩

theorem mark_reads : (mark template).Reads fun _ s _ => IsMarkup registry s := by
  intro p v hv
  unfold mark at hv
  split at hv
  · cases hv
  case h_2 name rest hname =>
    obtain ⟨hmem, hp⟩ := directiveAt?_eq_some hname
    simp only at hv
    split at hv
    case isTrue hcloses =>
      obtain rfl := Option.some.inj hv
      obtain ⟨lineBreak, hbreak, hrest⟩ := swallowBreak_eq rest
      have huse : (name, Use.bare) ∈ breakingUses := by
        rcases hcloses with rfl | rfl <;> simp [breakingUses]
      have hspan : p.rest = '@' :: name ++ [] ++ lineBreak ++ swallowBreak rest := by
        rw [hp, List.append_nil, List.append_assoc, ← hrest]
      exact fits_accept hspan (by simp) fun a _ => .breaking huse (.none fun h => nomatch h) hbreak
    case isFalse hopens =>
      have huse : name = "yield" ∨ (name, Use.required) ∈ breakingUses := by
        have hnames := mem_byLength.mp hmem
        simp only [List.mem_cons, List.not_mem_nil, or_false] at hnames
        rcases hnames with rfl | rfl | rfl | rfl | rfl
        · exact .inr (by simp [breakingUses])
        · exact .inr (by simp [breakingUses])
        · exact absurd (.inl rfl) hopens
        · exact absurd (.inr rfl) hopens
        · exact .inl rfl
      split at hv
      · obtain rfl := Option.some.inj hv
        exact fits_accept hp (by simp) fun a ha => nomatch ha
      · obtain rfl := Option.some.inj hv
        exact fits_declined hp (by simp)
      case h_3 inner after hafter =>
        obtain rfl := Option.some.inj hv
        obtain ⟨used, rfl, harguments⟩ := after_eq_some hafter
        by_cases hyield : name = "yield"
        · rw [if_pos hyield]
          have hspan : p.rest = '@' :: name ++ used ++ after := by
            rw [hp, List.append_assoc]
          exact fits_accept hspan (by simp) fun a _ => .directive (by simp [plainUses, hyield]) harguments
        · rw [if_neg hyield]
          obtain ⟨lineBreak, hbreak, hrest⟩ := swallowBreak_eq after
          have hspan : p.rest = '@' :: name ++ used ++ lineBreak ++ swallowBreak after := by
            rw [hp, List.append_assoc _ lineBreak, ← hrest, List.append_assoc]
          exact fits_accept hspan (by simp) fun a _ => .breaking (huse.resolve_left hyield) harguments hbreak

end Markup
end Stencil
