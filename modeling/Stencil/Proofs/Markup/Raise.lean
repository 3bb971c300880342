import Stencil.Proofs.Argument.Parts
import Stencil.Proofs.Markup.Place
import Stencil.Proofs.Program.Nesting

/-!
# What the rules raise

Every failure of a rule is raised at a place, which it is then told with: text that cannot be cut, a fault of the
template, a literal that cannot be worked out, or what a handler of the registry raised.  What a directive's handler raises
is taken for a failure to expand the directive, unless it says itself that the template is at fault.  So reading a
template fails at a place of its source, and the error shows the line of this place and text that stands there; a section
that is never closed is told with its line alone.

* `RaisedAt` — what is raised where a text stands.
* `Rule.Raises` — a rule raises nothing else; one `…_raises` for each rule, `rules_raise` for all of them.
* `Registry.Quiet` — no handler of a registry says that a template is at fault.
* `CompileError.Placed`, `CompileError.Bare` — an error shows line and text of a source, or a line alone.
* `Rule.Raises.placed` — where a rule says that a template is at fault, it shows the place.
* `read_shown` — how reading fails, and where what is read stands; `inclusion_stands` — where an include stands.
-/

namespace Stencil

/-- What a rule raises where a text stands. -/
inductive RaisedAt (registry : Registry) (rest : Text) : Raised → Prop
  /-- Argument text cannot be cut. -/
  | scan (detail : Text) : RaisedAt registry rest (.scan detail)
  /-- The template is at fault. -/
  | bare (cause : Cause) : RaisedAt registry rest (.ofCause cause)
  /-- The template is at fault, and the markup is shown. -/
  | shown (cause : Cause) {excerpt : Text} : excerpt <:+: rest →
    RaisedAt registry rest (.compile { cause, excerpt := some excerpt })
  /-- A literal that stands there cannot be worked out. -/
  | literal {s : Text} {f : Fault} : s <:+: rest → Argument.literal s = .error f → RaisedAt registry rest (.fault f)
  /-- A directive's handler says that the template is at fault. -/
  | directive {entry : Text × DirectiveHandler} {args : Option Text} {e : CompileError} :
    entry ∈ registry.directives → entry.2 args = .error (.compile e) → RaisedAt registry rest (.compile e)
  /-- A filter's handler raises anything. -/
  | filter {entry : Text × Filter} {value : Text} {args : Option Text} {r : Raised} :
    entry ∈ registry.filters → entry.2.handler value args = .error r → RaisedAt registry rest r

namespace Markup

variable {α : Type} {registry : Registry} {template : Text} {p : Place} {e : Error}

/-- A rule fails by what is raised at its place, told with it. -/
def Rule.Raises (registry : Registry) (template : Text) (rule : Rule α) : Prop :=
  ∀ p n e, rule p = some (.accepted n (.error e)) →
    ∃ r directive, RaisedAt registry p.rest r ∧ e = r.locate template p.line p.excerpt directive

theorem accept_raises {directive after : Text} {found : Except Raised α} {n : Nat}
    (hfound : ∀ r, found = .error r → RaisedAt registry p.rest r)
    (h : p.accept template directive after found = .accepted n (.error e)) :
    ∃ r directive, RaisedAt registry p.rest r ∧ e = r.locate template p.line p.excerpt directive := by
  obtain ⟨r, hr, rfl⟩ := mapError_eq_error.mp (Verdict.accepted.inj h).2
  exact ⟨r, directive, hfound r hr, rfl⟩

/-! ## Directives -/

/-- What a directive becomes fails by what is raised wherever it stands. -/
def Lowering.Raises (registry : Registry) : Lowering → Prop
  | .bare _ => True
  | .optional nodes => ∀ line args r, nodes line args = .error r → ∀ rest, RaisedAt registry rest r
  | .required nodes => ∀ line args r, nodes line args = .error r → ∀ rest, RaisedAt registry rest r

theorem Directive.read_raises {d : Directive} (hd : d.lowering.Raises registry) {rest : Text} {n : Nat}
    (h : d.read template p rest = .accepted n (.error e)) :
    ∃ r directive, RaisedAt registry p.rest r ∧ e = r.locate template p.line p.excerpt directive := by
  unfold Directive.read at h
  split at h
  · exact accept_raises (fun r hr => by cases hr) h
  case h_2 nodes hlowering =>
    rw [hlowering] at hd
    split at h
    · exact accept_raises (fun r hr => Except.error.inj hr ▸ .scan _) h
    · exact accept_raises (fun r hr => hd _ _ r hr _) h
  case h_3 nodes hlowering =>
    rw [hlowering] at hd
    split at h
    · exact accept_raises (fun r hr => Except.error.inj hr ▸ .scan _) h
    · cases h
    · refine accept_raises (fun r hr => ?_) h
      split at hr
      · exact Except.error.inj hr ▸ .bare _
      · exact hd _ _ r hr _

theorem family_raises {ds : List Directive} (hds : ∀ d ∈ ds, d.lowering.Raises registry) :
    (family template ds).Raises registry template := by
  intro p n e h
  unfold family at h
  split at h
  · split at h
    · cases h
    · obtain ⟨d, hfind, h⟩ := Option.map_eq_some_iff.mp h
      exact Directive.read_raises (hds d (List.mem_of_find?_eq_some hfind)) h
  · cases h

/-- Whatever a directive's handler raises, only faults of the template come out of it. -/
theorem custom_raises : ∀ d ∈ custom registry, d.lowering.Raises registry := by
  intro d hd
  obtain ⟨entry, hentry, rfl⟩ := List.mem_map.mp hd
  intro line args r hr rest
  obtain ⟨raised, hhandler, rfl⟩ := mapError_eq_error.mp (map_eq_error.mp hr)
  cases raised with
  | compile e => exact .directive hentry hhandler
  | scan detail => exact .bare _
  | fault f => exact .bare _

theorem loop_raises (name before after : Text) (prologue : List Text) :
    (loop name before after prologue).lowering.Raises registry := by
  intro line args r hr rest
  simp only at hr
  split at hr
  · exact Except.error.inj hr ▸ .bare _
  · cases hr

theorem jump_raises (name : Text) : (jump name).lowering.Raises registry := by
  intro line args r hr
  simp only at hr
  split at hr <;> cases hr

theorem raises_bare (nodes : Int → List Node) : (Lowering.bare nodes).Raises registry := trivial

theorem raises_required (nodes : Int → Text → List Node) :
    (Lowering.required fun line args => .ok (nodes line args)).Raises registry := nofun

theorem innerDirectives_raise : ∀ d ∈ innerDirectives, d.lowering.Raises registry := by
  simp [innerDirectives, csrf, json, control, auth, parent, permission, component, componentSlot, push, closer, opener,
    bareOpener, printer, callPrinter, caller, bareStatement, loop_raises, jump_raises, raises_bare, raises_required]

theorem innerFamily_raises {ds : List Directive} (hds : ds ⊆ innerDirectives) :
    (family template ds).Raises registry template :=
  family_raises fun d hd => innerDirectives_raise d (hds hd)

/-! ## Interpolations -/

/-- A pipeline is at fault with the whole interpolation, or a filter fails. -/
theorem applyAll_raises {whole rest : Text} (hwhole : whole <:+: rest) (result : Text × Bool) (segments : List Text)
    {r : Raised} (h : Filter.applyAll registry whole result segments = .error r) : RaisedAt registry rest r := by
  induction segments generalizing result with
  | nil => cases h
  | cons segment more ih =>
    rcases bind_eq_error.mp h with h | ⟨result', -, h⟩
    · unfold Filter.apply at h
      split at h
      · exact Except.error.inj h ▸ .shown _ hwhole
      · split at h
        · exact Except.error.inj h ▸ .shown _ hwhole
        case h_2 name args _ _ filter hfilter =>
          exact .filter (Table.mem_of_get? hfilter) (map_eq_error.mp h)
    · exact ih result' h

theorem pipeline_raises {whole rest : Text} (hwhole : whole <:+: rest) {r : Raised}
    (h : Filter.pipeline registry whole = .error r) : RaisedAt registry rest r := by
  unfold Filter.pipeline at h
  split at h
  · exact Except.error.inj h ▸ .shown _ hwhole
  · exact Except.error.inj h ▸ .shown _ hwhole
  · exact applyAll_raises hwhole _ _ h

theorem echo_raises : (echo registry template).Raises registry template := by
  intro p n e h
  unfold echo at h
  split at h
  · obtain ⟨_, -, h⟩ := Option.map_eq_some_iff.mp h
    cases h
  · obtain ⟨⟨inside, after⟩, hfound, h⟩ := Option.map_eq_some_iff.mp h
    obtain ⟨hrest, -⟩ := delimited?_eq_some hfound
    refine accept_raises (fun r hr => ?_) h
    have hinside : Text.strip inside <:+: p.rest := by
      rw [hrest]
      exact (Text.strip_isInfix inside).trans ⟨"\x7b\x7b", "\x7d\x7d" ++ after, by simp⟩
    rcases bind_eq_error.mp hr with hr | ⟨_, -, hr⟩
    · exact pipeline_raises hinside hr
    · cases hr

theorem rawEcho_raises : (rawEcho template).Raises registry template := by
  intro p n e h
  obtain ⟨⟨inside, after⟩, -, h⟩ := Option.map_eq_some_iff.mp h
  refine accept_raises (fun r hr => ?_) h
  unfold rawEchoNode at hr
  simp only at hr
  split at hr
  · exact Except.error.inj hr ▸ .bare _
  · cases hr

/-! ## Includes and structure -/

/-- An argument of a group behind a name stands where the name stands. -/
theorem isInfix_of_after {use : Argument.Use} {s name inner after arg : Text}
    (h : Argument.after use s = .ok (some inner, after)) (hrest : p.rest = name ++ s)
    (harg : arg ∈ Argument.arguments (some inner)) : arg <:+: p.rest := by
  obtain ⟨gap, -, rfl⟩ := Argument.after_inner h
  exact (Argument.isInfix_of_arguments harg).trans ⟨name ++ gap ++ ['('], ')' :: after, by simp [hrest]⟩

theorem literal_raises {s rest : Text} (hs : s <:+: rest) {r : Raised}
    (h : (Argument.literal s).mapError Raised.fault = .error r) : RaisedAt registry rest r := by
  obtain ⟨f, hf, rfl⟩ := mapError_eq_error.mp h
  exact .literal hs hf

theorem inclusion_raises : (inclusion template).Raises registry template := by
  intro p n e h
  unfold inclusion at h
  split at h
  · cases h
  case h_2 name rest hname =>
    obtain ⟨-, hrest⟩ := directiveAt?_eq_some hname
    split at h
    · exact accept_raises (fun r hr => Except.error.inj hr ▸ .scan _) (Option.some.inj h)
    · cases Option.some.inj h
    case h_3 args after hafter =>
      refine accept_raises (fun r hr => ?_) (Option.some.inj h)
      split at hr
      · exact Except.error.inj hr ▸ .bare _
      · unfold inclusionOf at hr
        have hfirst : (Argument.arguments (some args)).headD [] <:+: p.rest := by
          cases hargs : Argument.arguments (some args) with
          | nil => exact List.nil_infix
          | cons arg more => exact isInfix_of_after hafter hrest (by simp [hargs])
        rcases bind_eq_error.mp hr with hr | ⟨literal, -, hr⟩
        · exact literal_raises hfirst hr
        · split at hr
          · exact Except.error.inj hr ▸ .bare _
          · cases hr

theorem Rule.Raises.map {β : Type} {rule : Rule α} (h : rule.Raises registry template) (f : α → β) :
    (rule.map f).Raises registry template := by
  intro p n e hmap
  unfold Rule.map at hmap
  split at hmap
  · cases hmap
  · cases hmap
  case h_3 n' found hrule =>
    obtain ⟨rfl, hfound⟩ := Verdict.accepted.inj (Option.some.inj hmap)
    obtain rfl := map_eq_error.mp hfound
    exact h p n' e hrule

theorem markOf_raises {directive rest : Text} {args : List Text} (hargs : ∀ arg ∈ args, arg <:+: rest) {r : Raised}
    (h : markOf directive args = .error r) : RaisedAt registry rest r := by
  unfold markOf at h
  split at h
  · exact Except.error.inj h ▸ .bare _
  case h_2 first more =>
    obtain ⟨hfirst, hmore⟩ := List.forall_mem_cons.mp hargs
    split at h
    · cases h
    · rcases bind_eq_error.mp h with h | ⟨name, -, h⟩
      · unfold nameArgument at h
        rcases bind_eq_error.mp h with h | ⟨literal, -, h⟩
        · exact literal_raises hfirst h
        · split at h <;> cases h
      · simp only at h
        split at h
        · rcases bind_eq_error.mp h with h | ⟨default, -, h⟩
          · unfold defaultArgument at h
            split at h
            · cases h
            · rcases bind_eq_error.mp h with h | ⟨literal, -, h⟩
              · exact literal_raises (hmore _ List.mem_cons_self) h
              · cases h
          · cases h
        · split at h <;> cases h

theorem mark_raises : (mark template).Raises registry template := by
  intro p n e h
  unfold mark at h
  split at h
  · cases h
  case h_2 name rest hname =>
    obtain ⟨-, hrest⟩ := directiveAt?_eq_some hname
    simp only at h
    split at h
    · exact accept_raises (fun r hr => by cases hr) (Option.some.inj h)
    · split at h
      · exact accept_raises (fun r hr => Except.error.inj hr ▸ .scan _) (Option.some.inj h)
      · cases Option.some.inj h
      case h_3 inner after hafter =>
        have hargs : ∀ arg ∈ Argument.arguments (some inner), arg <:+: p.rest := fun _ =>
          isInfix_of_after hafter hrest
        exact accept_raises (fun r hr => markOf_raises hargs (map_eq_error.mp hr)) (Option.some.inj h)

/-! ## All rules -/

theorem verbatim_raises : verbatim.Raises registry template := by
  intro p n e h
  obtain ⟨_, -, h⟩ := Option.map_eq_some_iff.mp h
  cases h

theorem program_raises : program.Raises registry template := by
  intro p n e h
  obtain ⟨_, -, h⟩ := Option.map_eq_some_iff.mp h
  cases h

theorem comment_raises : comment.Raises registry template := by
  intro p n e h
  unfold comment at h
  split at h
  · cases h
  · obtain ⟨_, -, h⟩ := Option.map_eq_some_iff.mp h
    cases h

theorem escaped_raises (names : List Text) : (escaped names).Raises registry template := by
  intro p n e h
  unfold escaped at h
  split at h
  · obtain ⟨_, -, h⟩ := Option.map_eq_some_iff.mp h
    cases h
  · cases h

/-- **What is raised.**  Every rule that a template is read by fails by what is raised at its place. -/
theorem rules_raise {rule : Rule (List Node)} (h : rule ∈ rules registry template) :
    rule.Raises registry template := by
  simp only [rules, List.mem_append, List.mem_cons, List.not_mem_nil, or_false] at h
  rcases h with (((rfl | rfl | rfl) | hbefore) | rfl) | hafter
  · exact verbatim_raises
  · exact program_raises
  · exact comment_raises
  · exact forall_rulesBeforeIncludes (family_raises custom_raises) (fun _ => innerFamily_raises) echo_raises
      rawEcho_raises rule hbefore
  · exact inclusion_raises.map _
  · exact forall_rulesAfterIncludes (fun _ => innerFamily_raises) (escaped_raises _) rule hafter

end Markup
end Stencil

/-! # Where reading fails -/

namespace Stencil

/-! ## Errors that show a place -/

/-- A cause that is told without the markup in which it was found. -/
def Cause.isBare : Cause → Bool
  | .openSection _ => true
  | cause => cause.unbalanced

/-- An error shows a line of a source and text that stands in it. -/
structure CompileError.Placed (template source : Text) (e : CompileError) : Prop where
  template : e.template = some template
  line : ∃ line, e.line = some line ∧ IsLineOf source line
  excerpt : ∃ excerpt, e.excerpt = some excerpt ∧ excerpt <:+: source

/-- An error shows a line of a source and no text, since its cause is told without markup. -/
structure CompileError.Bare (template source : Text) (e : CompileError) : Prop where
  cause : e.cause.isBare = true
  template : e.template = some template
  line : ∃ line, e.line = some line ∧ IsLineOf source line
  excerpt : e.excerpt = none

/-- An error shows a line of a source, and text that stands in it if its cause is told with markup. -/
def CompileError.Shown (template source : Text) (e : CompileError) : Prop :=
  e.Placed template source ∨ e.Bare template source

/-- No handler of a registry says that a template is at fault. -/
structure Registry.Quiet (registry : Registry) : Prop where
  directives : ∀ entry ∈ registry.directives, ∀ args e, entry.2 args ≠ .error (.compile e)
  filters : ∀ entry ∈ registry.filters, ∀ value args e, entry.2.handler value args ≠ .error (.compile e)

theorem standard_quiet : Registry.standard.Quiet where
  directives := nofun
  filters := by
    simp [Registry.standard, Registry.builtinFilters, Registry.wrapFilter, Registry.helperFilter]

namespace Markup

variable {α : Type} {registry : Registry} {template source : Text} {p : Place} {e : CompileError}

theorem excerpt_isInfix (p : Place) : p.excerpt <:+: p.rest := (List.take_prefix _ _).isInfix

/-- What is raised at a place and says that the template is at fault shows the line and text that stands there. -/
theorem placed_of_raised (hquiet : registry.Quiet) {r : Raised} {directive : Text} (hr : RaisedAt registry p.rest r)
    (h : r.locate template p.line p.excerpt directive = .compile e) :
    e.template = some template ∧ e.line = some p.line ∧ ∃ excerpt, e.excerpt = some excerpt ∧ excerpt <:+: p.rest := by
  cases hr with
  | scan => exact Error.compile.inj h ▸ ⟨rfl, rfl, _, rfl, excerpt_isInfix p⟩
  | bare => exact Error.compile.inj h ▸ ⟨rfl, rfl, _, rfl, excerpt_isInfix p⟩
  | shown _ hexcerpt => exact Error.compile.inj h ▸ ⟨rfl, rfl, _, rfl, hexcerpt⟩
  | literal => cases h
  | directive hentry hhandler => exact absurd hhandler (hquiet.directives _ hentry _ _)
  | filter hentry hhandler =>
    cases r with
    | compile e' => exact absurd hhandler (hquiet.filters _ hentry _ _ _)
    | scan => exact Error.compile.inj h ▸ ⟨rfl, rfl, _, rfl, excerpt_isInfix p⟩
    | fault => cases h

theorem Rule.Raises.placed {rule : Rule α} (hrule : rule.Raises registry template) (hquiet : registry.Quiet)
    (h : rule.Finds source p (.error (.compile e))) : e.Placed template source := by
  obtain ⟨hstands, n, h⟩ := h
  obtain ⟨r, directive, hr, he⟩ := hrule p n _ h
  obtain ⟨htemplate, hline, excerpt, hexcerpt, hinfix⟩ := placed_of_raised hquiet hr he.symm
  exact ⟨htemplate, ⟨_, hline, hstands.isLineOf⟩, excerpt, hexcerpt, hstands.isInfix hinfix⟩

/-- A structural directive is found with the markup at its place. -/
theorem excerpt_of_mark {m : Mark} {excerpt : Text} {n : Nat}
    (h : mark template p = some (.accepted n (.ok (m, excerpt)))) : excerpt = p.excerpt := by
  have haccept : ∀ {directive after : Text} (found : Except Raised Mark),
      p.accept template directive after (found.map fun m => (m, p.excerpt)) = .accepted n (.ok (m, excerpt)) →
        excerpt = p.excerpt := by
    intro directive after found h
    obtain ⟨m', -, heq⟩ := map_eq_ok.mp (accept_eq_ok h)
    exact (Prod.mk.inj heq).2.symm
  unfold mark at h
  split at h
  · cases h
  · simp only at h
    split at h
    · exact haccept (.ok _) (Option.some.inj h)
    · split at h
      · cases Option.some.inj h
      · cases Option.some.inj h
      · exact haccept _ (Option.some.inj h)
/-! ## Reading a template -/

/-- Grouping into sections shows where it fails. -/
theorem StructureFault.shown (hquiet : registry.Quiet) (h : StructureFault template source (.compile e)) :
    e.Shown template source := by
  generalize herror : Error.compile e = error at h
  cases h with
  | found hfinds =>
    subst herror
    exact .inl (Rule.Raises.placed mark_raises hquiet hfinds)
  | nested hfinds =>
    obtain rfl := Error.compile.inj herror
    obtain ⟨hstands, n, hmark⟩ := hfinds
    obtain rfl := excerpt_of_mark hmark
    exact .inl ⟨rfl, ⟨_, rfl, hstands.isLineOf⟩, _, rfl, hstands.isInfix (excerpt_isInfix _)⟩
  | unfinished hline =>
    obtain rfl := Error.compile.inj herror
    exact .inr ⟨rfl, rfl, ⟨_, rfl, hline⟩, rfl⟩

/-- **Reading fails at a place.**  Where reading a template says that it is at fault, the error shows a line of the
source and text that stands in it, or a line alone. -/
theorem read_shown (hquiet : registry.Quiet) (h : (read registry template source).nodes = .error (.compile e)) :
    e.Shown template source := by
  generalize herror : Error.compile e = error at h
  cases (read_fails registry template source).1 error h with
  | rule hrule hfinds =>
    subst herror
    exact .inl ((rules_raise hrule).placed hquiet hfinds)
  | outline hfault =>
    subst herror
    exact hfault.shown hquiet

theorem inclusion_of_finds {i : Inclusion} {n : Nat}
    (h : (inclusion template).map Prod.fst p = some (.accepted n (.ok i))) :
    i.line = p.line ∧ i.excerpt = p.excerpt := by
  unfold Rule.map at h
  split at h
  · cases h
  · cases h
  case h_3 m found hrule =>
    obtain ⟨-, hmap⟩ := Verdict.accepted.inj (Option.some.inj h)
    obtain ⟨a, rfl, rfl⟩ := map_eq_ok.mp hmap
    unfold inclusion at hrule
    split at hrule
    · cases hrule
    · split at hrule
      · cases accept_eq_ok (Option.some.inj hrule)
      · cases Option.some.inj hrule
      · have hfound := accept_eq_ok (Option.some.inj hrule)
        split at hfound
        · cases hfound
        · obtain ⟨hline, hexcerpt, -⟩ := inclusionOf_eq_ok hfound
          exact ⟨hline, hexcerpt⟩

/-- An include that is met stands in the source: its line is one of the source, and its excerpt is part of it. -/
theorem inclusion_stands {i : Inclusion} (h : i ∈ (read registry template source).inclusions) :
    IsLineOf source i.line ∧ i.excerpt <:+: source := by
  unfold read at h
  split at h
  · cases h
  case h_2 nodes hinner =>
    obtain ⟨structured, hstructured, hrules⟩ := bind_eq_ok.mp hinner
    obtain ⟨plain, hplain, hstructured⟩ := bind_eq_ok.mp hstructured
    obtain ⟨regions, hregions, hcomment⟩ := bind_eq_ok.mp hplain
    rw [← runPasses_rewrite] at hrules
    have hregions := extractRegions_stands hregions
    have hreads : comment.Reads (Lowers registry) := comment_reads
    have hplain := (rewrite_refines hreads _ hcomment).standsIn hregions
    have hrefines : Refines (IsMarkup registry) (items plain) (items structured) := structure_refines hstructured
    have hstructured := hrefines.standsIn hplain
    have hsub : (rulesBeforeIncludes registry template).map rewrite ⊆ passes registry template := fun pass hpass => by
      rw [passes]
      exact List.mem_append_left _ (List.mem_append_left _ (List.mem_append_right _ hpass))
    have hnodes := (runPasses_fails hsub hstructured).2 nodes hrules
    obtain ⟨p, hstands, n, hp⟩ := mem_findings nodes hnodes (mem_of_untilFailure h)
    obtain ⟨hline, hexcerpt⟩ := inclusion_of_finds hp
    exact ⟨hline ▸ hstands.isLineOf, hexcerpt ▸ hstands.isInfix (excerpt_isInfix p)⟩

end Markup
end Stencil
