import Stencil.Proofs.Compile.Failure
import Stencil.Proofs.Program.Refusal

/-!
# The place that an error names

An error that is raised while a template is compiled names this template, a line of its source and text that stands in
it, as far as its cause is told with them.  What is missing is filled in once, by an include that the template was come
to by; so a line or an excerpt that was missing is one of the including template.

* `Compiler.sourceOf` — the source that is compiled under a name.
* `CompileError.Raised` — an error as it is raised while a source is compiled under a name.
* `Placing` — an error of compiling a source under a name: as it was raised, or filled in once.
* `Fails.placing` — where compiling fails, the error is one of these; `compile_error_lies` — the source that the place of
  an error is of.
-/

namespace Stencil

/-- A loader never says that a template is at fault. -/
def Loader.Quiet (load : Loader) : Prop := ∀ name e, load name ≠ .error (.compile e)

namespace CompileError

/-- What was filled in stays. -/
theorem filled_filled (template template' : Text) (i i' : Markup.Inclusion) (e : CompileError) :
    (e.filled template i).filled template' i' = e.filled template i := by
  obtain ⟨cause, t, line, excerpt⟩ := e
  cases t <;> cases line <;> cases excerpt <;> rfl

/-- An error as it is raised while a source is compiled under a name: it shows its place, or says only that the template
is nested too deeply. -/
inductive Raised (template source : Text) (e : CompileError) : Prop
  | shown : e.Shown template source → Raised template source e
  | deep {limit : Int} : e = { cause := .depth limit, template := some template } → Raised template source e

/-- The line that an error shows, if any, is one of a source. -/
def LineIn (source : Text) (e : CompileError) : Prop := ∀ line, e.line = some line → IsLineOf source line

/-- The text that an error shows, if any, is part of a source. -/
def ExcerptIn (source : Text) (e : CompileError) : Prop := ∀ excerpt, e.excerpt = some excerpt → excerpt <:+: source

variable {template source : Text} {e : CompileError}

theorem Raised.template_eq (h : e.Raised template source) : e.template = some template := by
  rcases h with (h | h) | rfl
  · exact h.template
  · exact h.template
  · rfl

/-- As it is raised, an error shows nothing that is not of the source. -/
theorem Raised.lies (h : e.Raised template source) : e.LineIn source ∧ e.ExcerptIn source := by
  rcases h with (⟨-, ⟨line, hline, hlies⟩, excerpt, hexcerpt, hinfix⟩ | ⟨-, -, ⟨line, hline, hlies⟩, hexcerpt⟩) | rfl
  · refine ⟨fun line' hline' => ?_, fun excerpt' hexcerpt' => ?_⟩
    · rw [hline] at hline'
      exact Option.some.inj hline' ▸ hlies
    · rw [hexcerpt] at hexcerpt'
      exact Option.some.inj hexcerpt' ▸ hinfix
  · refine ⟨fun line' hline' => ?_, fun excerpt' hexcerpt' => ?_⟩
    · rw [hline] at hline'
      exact Option.some.inj hline' ▸ hlies
    · rw [hexcerpt] at hexcerpt'
      cases hexcerpt'
  · exact ⟨nofun, nofun⟩

/-- What an include fills in is of the including source; only errors that are told without markup leave it something. -/
theorem Raised.filled_lies {template' source' : Text} {i : Markup.Inclusion} (h : e.Raised template source)
    (hline : IsLineOf source' i.line) (hexcerpt : i.excerpt <:+: source') :
    (e.filled template' i).LineIn source ∧ (e.filled template' i).ExcerptIn source ∨
      (e.filled template' i).ExcerptIn source' ∧ (e.cause.isBare = true ∧ (e.filled template' i).LineIn source ∨
        (∃ limit, e.cause = .depth limit) ∧ (e.filled template' i).LineIn source') := by
  obtain ⟨cause, t, line, excerpt⟩ := e
  have hlies := h.lies
  rcases h with (⟨-, ⟨line', hline', -⟩, excerpt', hexcerpt', -⟩ | ⟨hbare, -, ⟨line', hline', -⟩, hnone⟩) | heq
  · obtain rfl : line = some line' := hline'
    obtain rfl : excerpt = some excerpt' := hexcerpt'
    exact .inl hlies
  · obtain rfl : line = some line' := hline'
    obtain rfl : excerpt = none := hnone
    refine .inr ⟨fun shown hshown => ?_, .inl ⟨hbare, hlies.1⟩⟩
    obtain rfl : i.excerpt = shown := Option.some.inj hshown
    exact hexcerpt
  · obtain ⟨rfl, rfl, rfl, rfl⟩ := CompileError.mk.inj heq
    refine .inr ⟨fun shown hshown => ?_, .inr ⟨⟨_, rfl⟩, fun shown hshown => ?_⟩⟩
    · obtain rfl : i.excerpt = shown := Option.some.inj hshown
      exact hexcerpt
    · obtain rfl : i.line = shown := Option.some.inj hshown
      exact hline

end CompileError

namespace Compiler

variable {c : Compiler} {α β : Type} {source source' name n s t : Text} {around : List Text} {e : CompileError}
  {load : Loader} {log : Log}

/-- The source that is compiled under a name while `source` is compiled under `name`: everything else is loaded. -/
def sourceOf (c : Compiler) (source name t : Text) : Option Text :=
  if t = name then some source else c.loader.bind fun load => (load t).toOption.map Prod.fst

@[simp] theorem sourceOf_self (c : Compiler) (source name : Text) : c.sourceOf source name name = some source :=
  if_pos rfl

/-- Below an included template, the same sources are compiled under all other names. -/
theorem sourceOf_included (hload : c.loader = some load) (hn : load n = .ok (source', log)) (ht : t ≠ name) :
    c.sourceOf source name t = c.sourceOf source' n t := by
  unfold sourceOf
  rw [if_neg ht, hload]
  split
  case isTrue htn => simp [htn, hn, Except.toOption]
  case isFalse => rfl

/-- An error of compiling a source under a name below the templates `around`. -/
inductive Placing (c : Compiler) (around : List Text) (source name : Text) : CompileError → Prop
  | unplaced (cause : Cause) : Placing c around source name { cause }
  | program {e : CompileError} : e.cause = .invalidProgram → Placing c around source name e
  | raised {t s : Text} {e : CompileError} : t ∉ around → c.sourceOf source name t = some s → e.Raised t s →
    Placing c around source name e
  | filled {t s t' s' : Text} {e : CompileError} {i : Markup.Inclusion} : t ∉ around → t ≠ name → t' ∉ around → t' ≠ t →
    c.sourceOf source name t = some s → c.sourceOf source name t' = some s' → e.Raised t s →
    IsLineOf s' i.line → i.excerpt <:+: s' → Placing c around source name (e.filled t' i)

/-- An error of compiling what a template includes. -/
def Below (c : Compiler) (around : List Text) (name : Text) (e : CompileError) : Prop :=
  ∃ load n source' log, c.loader = some load ∧ load n = .ok (source', log) ∧ Placing c (around ++ [name]) source' n e

theorem not_mem_concat : t ∉ around ++ [name] ↔ t ∉ around ∧ t ≠ name := by simp

/-- An error of an included template is one of the including template. -/
theorem Below.placing (h : Below c around name e) (source : Text) : Placing c around source name e := by
  obtain ⟨load, n, source', log, hload, hn, h⟩ := h
  have hsame : ∀ {t}, t ≠ name → c.sourceOf source name t = c.sourceOf source' n t := sourceOf_included hload hn
  cases h with
  | unplaced cause => exact .unplaced cause
  | program hcause => exact .program hcause
  | raised ht hs hraised =>
    obtain ⟨ht, htname⟩ := not_mem_concat.mp ht
    exact .raised ht ((hsame htname).trans hs) hraised
  | filled ht _ ht' htt' hs hs' hraised hline hexcerpt =>
    obtain ⟨ht, htname⟩ := not_mem_concat.mp ht
    obtain ⟨ht', htname'⟩ := not_mem_concat.mp ht'
    exact .filled ht htname ht' htt' ((hsame htname).trans hs) ((hsame htname').trans hs') hraised hline hexcerpt

/-- An error of an included template has missing parts of its place filled in by the include. -/
theorem Below.filled (h : Below c around name e) (hname : name ∉ around) {i : Markup.Inclusion}
    (hline : IsLineOf source i.line) (hexcerpt : i.excerpt <:+: source) :
    Placing c around source name (e.filled name i) := by
  obtain ⟨load, n, source', log, hload, hn, hbelow⟩ := h
  have hsame : ∀ {t}, t ≠ name → c.sourceOf source name t = c.sourceOf source' n t := sourceOf_included hload hn
  cases hbelow with
  | unplaced cause =>
    exact .raised hname (sourceOf_self c source name) (.shown (.inl ⟨rfl, ⟨_, rfl, hline⟩, _, rfl, hexcerpt⟩))
  | program hcause => exact .program hcause
  | raised ht hs hraised =>
    obtain ⟨ht, htname⟩ := not_mem_concat.mp ht
    have hsource := (hsame htname).trans hs
    exact .filled ht htname hname htname.symm hsource (sourceOf_self c source name) hraised hline hexcerpt
  | filled ht hn' ht' htt' hs hs' hraised hline' hexcerpt' =>
    rw [CompileError.filled_filled]
    have hfilled := Placing.filled ht hn' ht' htt' hs hs' hraised hline' hexcerpt'
    exact Below.placing ⟨load, n, source', log, hload, hn, hfilled⟩ source

/-! ## Compiling -/

theorem invalid_of_checkProgram {b : Program.Builder} (h : checkProgram name b = .error (.compile e)) :
    e.cause = .invalidProgram := by
  unfold checkProgram at h
  split at h
  · cases h
  · cases h
  · obtain rfl := Error.compile.inj (Except.error.inj h)
    rfl

/-- **Compiling.**  Where no handler and no loader says that a template is at fault, compiling fails by an error as it was
raised, or filled in once. -/
theorem Fails.placing (hquiet : c.registry.Quiet) (hloader : ∀ load, c.loader = some load → load.Quiet)
    (h : Fails c around source name (.compile e)) : Placing c around source name e := by
  generalize herror : Error.compile e = error at h
  induction h generalizing e with
  | cycle names =>
    obtain rfl := Error.compile.inj herror
    exact .unplaced _
  | deep hname =>
    obtain rfl := Error.compile.inj herror
    exact .raised hname (sourceOf_self ..) (.deep rfl)
  | unread hname hread =>
    subst herror
    exact .raised hname (sourceOf_self ..) (.shown (Markup.read_shown hquiet hread))
  | unmade hname hread hmade =>
    subst herror
    have hstands := (Markup.read_fails c.registry _ _).2 _ hread
    exact .raised hname (sourceOf_self ..) (.shown (.inr (Program.generate_bare hstands hmade)))
  | unfit _ _ _ hcheck =>
    subst herror
    exact .program (invalid_of_checkProgram hcheck)
  | unloaded hload hn =>
    subst herror
    exact absurd hn (hloader _ hload _ _)
  | remembered hname hload hn _ ih => exact Below.placing ⟨_, _, _, _, hload, hn, ih herror⟩ _
  | unfollowed hname hi hload hn =>
    obtain ⟨e', rfl, -⟩ := Error.filled_eq_compile.mp herror.symm
    exact absurd hn (hloader _ hload _ _)
  | included hname hi hload hn _ ih =>
    obtain ⟨e', rfl, rfl⟩ := Error.filled_eq_compile.mp herror.symm
    obtain ⟨hline, hexcerpt⟩ := Markup.inclusion_stands hi
    exact Below.filled ⟨_, _, _, _, hload, hn, ih rfl⟩ hname hline hexcerpt

/-- **Error locations.**  Where no handler and no loader says that a template is at fault, an error of compiling that
names a template and is not about the program shows a line of the source that is compiled under this name and text that
is part of it.  The only exceptions are errors of an included template that are told without markup: these show text of
another template that is compiled, and the error that templates are nested too deeply shows a line of it as well. -/
theorem compile_error_lies (c : Compiler) (hquiet : c.registry.Quiet)
    (hloader : ∀ load, c.loader = some load → load.Quiet) (m : Memory) (source name : Text) {e : CompileError}
    {t : Text} (h : (runFrom (c.compile source name) m).1 = .error (.compile e)) (hcause : e.cause ≠ .invalidProgram)
    (ht : e.template = some t) :
    ∃ s, c.sourceOf source name t = some s ∧
      (e.LineIn s ∧ e.ExcerptIn s ∨
        t ≠ name ∧ ∃ t' s', t' ≠ t ∧ c.sourceOf source name t' = some s' ∧ e.ExcerptIn s' ∧
          (e.cause.isBare = true ∧ e.LineIn s ∨ (∃ limit, e.cause = .depth limit) ∧ e.LineIn s')) := by
  have hplacing : Placing c m.stack source name e := (compile_fails c m source name h).placing hquiet hloader
  cases hplacing with
  | unplaced => cases ht
  | program hprogram => exact absurd hprogram hcause
  | raised _ hs hraised =>
    obtain rfl := Option.some.inj (hraised.template_eq.symm.trans ht)
    exact ⟨_, hs, .inl hraised.lies⟩
  | @filled t₀ s₀ t' s' e i _ htname _ htt' hs hs' hraised hline hexcerpt =>
    have htemplate : (e.filled t' i).template = some t₀ := by
      simp [CompileError.filled, CompileError.locate, CompileError.excerpted, hraised.template_eq]
    obtain rfl := Option.some.inj (htemplate.symm.trans ht)
    refine ⟨s₀, hs, (hraised.filled_lies hline hexcerpt).imp_right fun ⟨hborrowed, hkind⟩ => ?_⟩
    exact ⟨htname, t', s', htt', hs', hborrowed, hkind⟩

/-- A compiler whose loader finds a template with a block that is not closed. -/
def openChild : Compiler := { registry := .standard, loader := some fun _ => .ok ("@if(x)", []) }

/-- A source that includes this template. -/
def includesChild : Text := "@include('child')"

/-- The error that the block is not closed, with the markup of the include. -/
def openChildError : CompileError := ⟨.openBlock "if" [], some "child", some 1, some includesChild⟩

theorem read_includesChild : Markup.read .standard "page" includesChild =
    ⟨[⟨"child", 1, includesChild⟩], .ok [.echo 1 "_view.make_partial('child', {})" false]⟩ := by cbv

theorem read_openChild :
    Markup.read .standard "child" "@if(x)" = ⟨[], .ok [.openBlock 1 "if" "if x:" "if" []]⟩ := by cbv

theorem generate_openChild : Program.generate (some "child") [.openBlock 1 "if" "if x:" "if" []] =
    .error (.compile ⟨.openBlock "if" [], some "child", some 1, none⟩) := by decide +kernel

/-- A template fails as the first template does that it includes, with the place of the include filled in. -/
theorem translate_of_inner {inner : Text → Compile Unit} {i : Markup.Inclusion} {more : List Markup.Inclusion}
    {m : Memory} (hread : (Markup.read c.registry name source).inclusions = i :: more)
    (h : ∀ m' : Memory, m'.stack = m.stack → m'.results = m.results →
      (runFrom (inner i.name) m').1 = .error (.compile e)) :
    (runFrom (translate c inner source name) m).1 = .error (.compile (e.filled name i)) := by
  have hlocated : ∀ m' : Memory, m'.stack = m.stack → m'.results = m.results →
      (runFrom (located name i (inner i.name)) m').1 = .error (.compile (e.filled name i)) := by
    intro m' hstack hresults
    have hinner : runFrom (inner i.name) m' = (.error (.compile e), (runFrom (inner i.name) m').2) :=
      Prod.ext (h m' hstack hresults) rfl
    rw [located, runFrom_tryCatch, hinner]
    rfl
  rw [translate, report, runFrom_bind, runFrom_modify]
  simp only [hread]
  exact fst_runFrom_bind (fst_runFrom_bind (hlocated _ rfl rfl))

theorem translate_openChild (inner : Text → Compile Unit) (m : Memory) :
    (runFrom (translate openChild inner "@if(x)" "child") m).1 =
      .error (.compile ⟨.openBlock "if" [], some "child", some 1, none⟩) := by
  have hread : Markup.read openChild.registry "child" "@if(x)" = _ := read_openChild
  simp only [translate, report, runFrom_bind, runFrom_modify, hread, List.forM, runFrom_pure, runFrom_liftM,
    generate_openChild]

theorem follow_openChild (m : Memory) (hstack : m.stack = [("page" : Text)]) (hresults : m.results = []) :
    (runFrom (follow openChild (compileAt openChild 49) "child") m).1 =
      .error (.compile ⟨.openBlock "if" [], some "child", some 1, none⟩) := by
  have hloader : openChild.loader = some fun _ => .ok ("@if(x)", []) := rfl
  rw [follow, hloader]
  simp only [runFrom_bind, runFrom_liftM, runFrom_modify]
  have hchild : (runFrom (compileAt openChild (48 + 1) "@if(x)" "child") { m with log := m.log ++ [] }).1 =
      .error (.compile ⟨.openBlock "if" [], some "child", some 1, none⟩) := by
    refine compileAt_of_translate ?_ ?_ (translate_openChild _ _)
    · simp [hstack]
    · simp [hresults, Table.get?]
  have hbound := fst_runFrom_bind (f := fun _ => pure ()) hchild
  rw [runFrom_bind] at hbound
  exact hbound

theorem compile_openChild :
    (runFrom (openChild.compile includesChild "page") {}).1 = .error (.compile openChildError) := by
  have hlevels : (openChild.maxDepth - (([] : List Text).length : Int)).toNat = 49 + 1 := rfl
  have hread : (Markup.read openChild.registry "page" includesChild).inclusions = [⟨"child", 1, includesChild⟩] :=
    congrArg Markup.Reading.inclusions read_includesChild
  rw [Compiler.compile, runFrom_bind, runFrom_get]
  simp only [hlevels]
  exact compileAt_of_translate List.not_mem_nil rfl
    (translate_of_inner hread fun m hstack hresults => follow_openChild m hstack hresults)

theorem openChild_quiet : ∀ load, openChild.loader = some load → load.Quiet := by
  intro load hload
  obtain rfl := Option.some.inj hload
  exact nofun

theorem compile_error_lies_openChild : ∃ s, openChild.sourceOf includesChild "page" "child" = some s ∧
    (openChildError.LineIn s ∧ openChildError.ExcerptIn s ∨
      ("child" : Text) ≠ "page" ∧ ∃ t' s' : Text, t' ≠ "child" ∧ openChild.sourceOf includesChild "page" t' = some s' ∧
        openChildError.ExcerptIn s' ∧ (openChildError.cause.isBare = true ∧ openChildError.LineIn s ∨
          (∃ limit, openChildError.cause = .depth limit) ∧ openChildError.LineIn s')) :=
  compile_error_lies openChild standard_quiet openChild_quiet {} includesChild "page" compile_openChild
    (by simp [openChildError]) rfl

/-- The text that this error shows is not part of the source that is compiled under the name that it names. -/
theorem excerpt_borrowed : openChild.registry.Quiet ∧ (∀ load, openChild.loader = some load → load.Quiet) ∧
    (runFrom (openChild.compile includesChild "page") {}).1 = .error (.compile openChildError) ∧
    openChildError.cause ≠ .invalidProgram ∧ openChildError.template = some "child" ∧
    openChild.sourceOf includesChild "page" "child" = some "@if(x)" ∧ ¬ openChildError.ExcerptIn "@if(x)" := by
  refine ⟨standard_quiet, openChild_quiet, compile_openChild, by simp [openChildError], rfl, ?_, fun h => ?_⟩
  · simp [sourceOf, openChild, Except.toOption]
  · have hle := (h includesChild rfl).length_le
    revert hle
    decide

end Compiler
end Stencil
