import Stencil.Proofs.Table
import Stencil.Proofs.Text.Split
import Stencil.Proofs.View.Tree
import Stencil.View.Capture

/-!
# What a page collects under names

Slots, pushes and sections are kept under names.  A slot that is filled again holds what it was filled with last, trimmed;
a push holds all its bodies in the order in which they came.

The definitions of a section come from the page outwards: each one fills what the ones before it have left open for
their parent.  What the page shows in the end is the same as if the outermost layout were put into the one inside it,
this one into the next, and so on up to the page.

* `getSlot_fillAll` — what a slot holds behind any slots being filled.
* `pushed_addAll` — what a push holds behind any bodies being added.
* `SectionPart` — a piece of a definition; `SectionPart.textOf` — a definition as a page writes it.
* `SectionPart.resolve` — a chain of definitions put into each other, from the outermost inwards.
* `SectionPart.replace_textOf`, `contains_textOf` — marks inside a text are the parents of its definition, and nothing
  else.
* `lookup_define` — one more definition fills what is open; `lookup_foldl_define` — all of them give the chain resolved.
* `sections_resolve` — what a page finds that has defined a section several times.
-/

namespace Stencil

/-! ## Slots -/

namespace Bag

/-- Filling a slot with markup. -/
theorem setSlot_str (b : Bag) (name text : Text) :
    b.setSlot (.str name) (.markup text) =
      .ok { b with slots := Value.bind (.str name) (.markup (Text.strip text)) b.slots } := rfl

/-- Slots are filled one after the other. -/
def fillAll (b : Bag) (fills : List (Text × Text)) : Except Fault Bag :=
  fills.foldlM (fun b fill => b.setSlot (.str fill.1) (.markup fill.2)) b

/-- What a slot is filled with last, trimmed. -/
def lastFill? (name : Text) (fills : List (Text × Text)) : Option Value :=
  (fills.findRev? fun fill => fill.1 = name).map fun fill => .markup (Text.strip fill.2)

/-- A slot holds what it was filled with last, trimmed, or what it held before. -/
theorem getSlot_fillAll (b : Bag) (fills : List (Text × Text)) (name : Text) (default : Value) :
    ∃ b', b.fillAll fills = .ok b' ∧
      b'.getSlot (.str name) default = (lastFill? name fills).getD (b.getSlot (.str name) default) := by
  induction fills generalizing b with
  | nil => exact ⟨b, rfl, rfl⟩
  | cons fill fills ih =>
    obtain ⟨b', hb', hslot⟩ := ih { b with slots := Value.bind (.str fill.1) (.markup (Text.strip fill.2)) b.slots }
    refine ⟨b', ?_, hslot.trans ?_⟩
    · rw [fillAll, List.foldlM_cons, setSlot_str]
      exact hb'
    · rw [lastFill?, lastFill?, List.findRev?]
      cases fills.findRev? fun fill => fill.1 = name with
      | some found => rfl
      | none =>
        rw [getSlot, Value.lookup_bind]
        by_cases hname : fill.1 = name <;> simp [hname, getSlot]

end Bag

/-! ## Pushes -/

namespace Pass

/-- Bodies are added to pushes one after the other. -/
def addAll (p : Pass) (bodies : List (Text × Text)) : Pass :=
  bodies.foldl (fun p body => p.addPush (.str body.1) body.2) p

/-- A push holds its bodies in the order in which they were added, behind what it held before. -/
theorem pushed_addAll (p : Pass) (bodies : List (Text × Text)) (name : Text) :
    (p.addAll bodies).pushed (.str name) =
      p.pushed (.str name) ++ ((bodies.filter fun body => body.1 = name).map Prod.snd).flatten := by
  induction bodies generalizing p with
  | nil => exact (List.append_nil _).symm
  | cons body bodies ih =>
    have hadd : (p.addPush (.str body.1) body.2).pushed (.str name) =
        p.pushed (.str name) ++ if body.1 = name then body.2 else [] := by
      rw [pushed, addPush, Value.lookup_bind, pushed]
      by_cases hname : body.1 = name
      · simp [hname]
      · simp [hname]
    rw [addAll, List.foldl_cons, ← addAll, ih, hadd, List.append_assoc]
    by_cases hname : body.1 = name
    · simp [hname]
    · simp [hname]

end Pass
end Stencil

namespace Stencil

/-- A piece of a section's definition: text that cannot be part of a mark, or the place for the section's parent. -/
inductive SectionPart where
  | literal (s : Text) (plain : '#' ∉ s)
  | parent

namespace SectionPart

variable {d e : List SectionPart} {ds : List (List SectionPart)}

/-- A piece with a text in the place of the parent. -/
def textWith (above : Text) : SectionPart → Text
  | literal s _ => s
  | parent => above

/-- A piece with a definition in the place of the parent. -/
def fillWith (above : List SectionPart) : SectionPart → List SectionPart
  | literal s plain => [literal s plain]
  | parent => above

/-- A definition with a mark for each parent. -/
def textOf (d : List SectionPart) : Text := d.flatMap (textWith parentMark)

/-- A chain of definitions, the page's first: what comes behind a definition stands where it has its parent.  Behind the
last one nothing comes, and its parents stay marks. -/
def resolve : List (List SectionPart) → Text
  | [] => parentMark
  | d :: ds => d.flatMap (textWith (resolve ds))

/-! ## Marks in a text -/

theorem parentMark_ne_nil : parentMark ≠ [] := List.cons_ne_nil _ _

/-- No mark begins in a literal piece. -/
theorem occurrences_literal {s : Text} (plain : '#' ∉ s) (t : Text) :
    Text.occurrences parentMark (s ++ t) = Text.occurrences parentMark t := by
  induction s with
  | nil => rfl
  | cons c s ih =>
    rw [List.mem_cons, not_or] at plain
    have hnot : ¬ parentMark <+: c :: (s ++ t) := fun h => plain.1 (List.cons_prefix_cons.mp h).1
    rw [List.cons_append, Text.occurrences_cons, if_neg hnot, ih plain.2, Nat.zero_add]

/-- The text of a definition holds a mark exactly if the definition has a parent. -/
theorem contains_textOf (d : List SectionPart) : Text.contains parentMark (textOf d) = true ↔ parent ∈ d := by
  have hpart : Text.contains parentMark (textOf d) = true ↔ parentMark <:+: textOf d := by
    rw [← Decidable.not_iff_not, Bool.not_eq_true, Text.contains_eq_false_iff]
  rw [hpart]
  constructor
  · intro h
    refine Classical.byContradiction fun hparent => ?_
    have hsign : '#' ∈ textOf d := h.subset List.mem_cons_self
    obtain ⟨part, hmem, hsign⟩ := List.mem_flatMap.mp hsign
    cases part with
    | literal s plain => exact plain hsign
    | parent => exact hparent hmem
  · intro h
    obtain ⟨before, behind, rfl⟩ := List.append_of_mem h
    exact ⟨textOf before, textOf behind, by simp [textOf, textWith]⟩

/-- Replacing the marks in the text of a definition fills its parents. -/
theorem replace_textOf (above : Text) (d : List SectionPart) :
    Text.replace parentMark above (textOf d) = d.flatMap (textWith above) := by
  have hreplace : ∀ s, Text.replace parentMark above s = Text.replaceFrom parentMark above 0 s := fun s => if_neg (by decide)
  rw [hreplace]
  induction d with
  | nil => rfl
  | cons part d ih =>
    have hcons : textOf (part :: d) = part.textWith parentMark ++ textOf d := rfl
    rw [hcons, List.flatMap_cons, ← ih]
    cases part with
    | literal s plain => exact Text.replaceFrom_over (Nat.le_of_eq (occurrences_literal plain _))
    | parent => exact Text.replaceFrom_at parentMark_ne_nil above _

/-! ## Filling and resolving -/

/-- A definition without a parent hides all that come behind it. -/
theorem resolve_of_not_mem (h : parent ∉ d) : resolve (d :: ds) = textOf d := by
  rw [resolve, textOf, List.flatMap_def, List.flatMap_def]
  refine congrArg List.flatten (List.map_congr_left fun part hpart => ?_)
  cases part with
  | literal s plain => rfl
  | parent => exact absurd hpart h

/-- Behind a definition without a parent everything is ignored. -/
theorem resolve_append_of_not_mem (h : parent ∉ e) (before behind : List (List SectionPart)) :
    resolve (before ++ e :: behind) = resolve (before ++ [e]) := by
  induction before with
  | nil => rw [List.nil_append, List.nil_append, resolve_of_not_mem h, resolve_of_not_mem h]
  | cons d before ih => rw [List.cons_append, List.cons_append, resolve, resolve, ih]

/-- Substituting twice is substituting what was substituted into. -/
theorem flatMap_fillWith (above : Text) (d e : List SectionPart) :
    (d.flatMap (fillWith e)).flatMap (textWith above) = d.flatMap (textWith (e.flatMap (textWith above))) := by
  rw [List.flatMap_assoc]
  refine congrArg (List.flatMap · d) (funext fun part => ?_)
  cases part with
  | literal s plain => exact List.append_nil s
  | parent => rfl

/-- Filling a definition from the next one does not change what the chain comes to. -/
theorem resolve_fillWith (d e : List SectionPart) (ds : List (List SectionPart)) :
    resolve (d.flatMap (fillWith e) :: ds) = resolve (d :: e :: ds) := flatMap_fillWith (resolve ds) d e

/-- Nothing is left of the marks of a definition whose parents are filled with nothing. -/
theorem contains_replace_textOf (d : List SectionPart) :
    Text.contains parentMark (Text.replace parentMark [] (textOf d)) = false := by
  have hfilled : textOf (d.flatMap (fillWith [])) = d.flatMap (textWith []) := flatMap_fillWith parentMark d []
  rw [replace_textOf, ← hfilled, ← Bool.not_eq_true, contains_textOf]
  intro hparent
  obtain ⟨part, -, hpart⟩ := List.mem_flatMap.mp hparent
  cases part with
  | literal s plain => cases List.mem_singleton.mp hpart
  | parent => cases hpart

end SectionPart

/-! ## Defining a section again and again -/

namespace Pass

open SectionPart

variable {name : Text} {p : Pass} {d : List SectionPart}

theorem lookup_define_new (h : Value.lookup (.str name) p.sections = none) (content : Text) :
    Value.lookup (.str name) (p.define (.str name) content).sections = some content := by
  rw [define, h]
  exact (Value.lookup_bind name name content p.sections).trans (if_pos rfl)

/-- One more definition fills the parents of the one that is there. -/
theorem lookup_define (h : Value.lookup (.str name) p.sections = some (textOf d)) (e : List SectionPart) :
    Value.lookup (.str name) (p.define (.str name) (textOf e)).sections = some (textOf (d.flatMap (fillWith e))) := by
  have hfilled : textOf (d.flatMap (fillWith e)) = d.flatMap (textWith (textOf e)) := flatMap_fillWith parentMark d e
  rw [define, h, hfilled]
  dsimp only
  split
  case isTrue =>
    rw [replace_textOf]
    exact (Value.lookup_bind name name _ p.sections).trans (if_pos rfl)
  case isFalse hnone =>
    rw [contains_textOf] at hnone
    have hkept : resolve [d, e] = textOf d := resolve_of_not_mem hnone
    rw [h, ← hkept]
    rfl

/-- What is left of a section behind further definitions is the chain of all of them, resolved. -/
theorem lookup_foldl_define (h : Value.lookup (.str name) p.sections = some (textOf d)) (ds : List (List SectionPart)) :
    Value.lookup (.str name) (ds.foldl (fun p e => p.define (.str name) (textOf e)) p).sections =
      some (resolve (d :: ds)) := by
  induction ds generalizing p d with
  | nil => exact h
  | cons e ds ih =>
    rw [List.foldl_cons, ih (lookup_define h e), resolve_fillWith]

end Pass

/-! ## What a page does -/

namespace Run

/-- A text never changes. -/
theorem runFrom_now_str (text : Text) (s : State) : runFrom (now (.str text)) s = (.ok (.str text), s) := by
  have hnow : s.now (.str text) = .str text := by unfold State.now Value.now; split <;> rfl
  simp only [now, runFrom_bind, runFrom_get, runFrom_pure, hnow]

/-- A section is filled with a text as it is. -/
theorem runFrom_fillSection (inner : Inner) (name content : Text) (s : State) :
    runFrom (fillSection inner (.str name) (.str content)) s =
      (.ok (), { s with pass := s.pass.define (.str name) content }) := by
  have hsection : runFrom (sectionText? (.str name)) s = (.ok (Value.lookup (.str name) s.pass.sections), s) := rfl
  have hdefine : runFrom (printed inner (.str content) >>= fun w => define (.str name) (characters w)) s =
      (.ok (), { s with pass := s.pass.define (.str name) content }) := by
    rw [runFrom_bind_ok (runFrom_printed_text (.inl rfl) inner s)]
    rfl
  rw [fillSection, runFrom_bind_ok hsection]
  cases hold : Value.lookup (.str name) s.pass.sections with
  | none => exact hdefine
  | some old =>
    dsimp only
    split
    case isTrue => exact hdefine
    case isFalse hnone =>
      have hkept : s.pass.define (.str name) content = s.pass := by
        rw [Pass.define, hold]
        exact if_neg hnone
      rw [hkept]
      rfl

end Run

namespace View

open SectionPart

/-- The text of a piece, where the view is asked for the mark of a parent. -/
def write (v : View) : SectionPart → Run Text
  | .literal s _ => return s
  | .parent => return Run.characters (← v.call "parent_section" [])

/-- Defines a section by the pieces of a definition. -/
def setSection (v : View) (name : Text) (d : List SectionPart) : Run Unit := do
  let texts ← d.mapM v.write
  let _ ← v.call "set_section" [.str name, .str texts.flatten]

variable (v : View) (s : State)

theorem runFrom_call_setSection (name content : Text) :
    runFrom (v.call "set_section" [.str name, .str content]) s =
      (.ok .null, { s with pass := s.pass.define (.str name) content }) := by
  have hcall : v.call "set_section" [.str name, .str content] =
      (Run.fillSection v.inner (.str name) (.str content) >>= fun _ => pure .null) >>= Run.now := rfl
  have hnow : ∀ t : State, t.now .null = .null := fun t => by unfold State.now Value.now; split <;> rfl
  simp only [hcall, runFrom_bind, Run.runFrom_fillSection, runFrom_pure, Run.now, runFrom_get, hnow]

theorem runFrom_write (part : SectionPart) : runFrom (v.write part) s = (.ok (part.textWith parentMark), s) := by
  cases part with
  | literal s plain => rfl
  | parent =>
    have hcall : v.write .parent = (Run.now (.str parentMark) >>= fun w => pure (Run.characters w)) := rfl
    rw [hcall, runFrom_bind_ok (Run.runFrom_now_str _ s)]
    rfl

theorem runFrom_mapM_write (d : List SectionPart) :
    runFrom (d.mapM v.write) s = (.ok (d.map (textWith parentMark)), s) := by
  induction d with
  | nil => rfl
  | cons part d ih =>
    rw [List.mapM_cons, runFrom_bind_ok (runFrom_write v s part), runFrom_bind_ok ih]
    rfl

theorem runFrom_setSection (name : Text) (d : List SectionPart) :
    runFrom (v.setSection name d) s = (.ok (), { s with pass := s.pass.define (.str name) (textOf d) }) := by
  rw [setSection, runFrom_bind_ok (runFrom_mapM_write v s d), runFrom_bind_ok (runFrom_call_setSection v s name _)]
  rfl

theorem runFrom_forM_setSection (name : Text) (ds : List (List SectionPart)) :
    runFrom (forM ds (v.setSection name)) s =
      (.ok (), { s with pass := ds.foldl (fun p d => p.define (.str name) (textOf d)) s.pass }) := by
  induction ds generalizing s with
  | nil => rfl
  | cons d ds ih =>
    rw [List.forM_cons, runFrom_bind_ok (runFrom_setSection v s name d), ih]
    rfl

/-- Settling arguments keeps their number, texts, and everything that the page has collected. -/
theorem runFrom_mapM_settle (name : Text) (default : Option Value) :
    ∃ (default' : Option Value) (t : State), t.pass = s.pass ∧
      runFrom ((.str name :: default.toList).mapM Run.settle) s = (.ok (.str name :: default'.toList), t) := by
  cases default with
  | none => exact ⟨none, s, rfl, rfl⟩
  | some w =>
    obtain ⟨w', t, hpass, hsettle⟩ : ∃ w' t, State.pass t = s.pass ∧ runFrom (Run.settle w) s = (.ok w', t) := by
      unfold Run.settle
      split
      · exact ⟨w, s, rfl, rfl⟩
      · exact ⟨_, { s with births := s.births + 1 }, rfl, rfl⟩
    refine ⟨some w', t, hpass, ?_⟩
    have hname : runFrom (Run.settle (.str name)) s = (.ok (.str name), s) := rfl
    simp only [Option.toList_some, List.mapM_cons, List.mapM_nil, runFrom_bind, hname, hsettle, runFrom_pure]

/-- A section that is defined is yielded, whatever default is given. -/
theorem runFrom_call_yieldSection {s : State} {name content : Text}
    (h : Value.lookup (.str name) s.pass.sections = some content) (default : Option Value) :
    (runFrom (v.call "yield_section" (.str name :: default.toList)) s).1 = .ok (.str content) := by
  obtain ⟨default', t, hpass, hargs⟩ := runFrom_mapM_settle s name default
  have hyield : ∀ w, runFrom (Run.yieldSection v.inner (.str name) w) t = (.ok (.str content), t) := by
    intro w
    have hsection : runFrom (Run.sectionText? (.str name)) t = (.ok (Value.lookup (.str name) t.pass.sections), t) := rfl
    rw [Run.yieldSection, runFrom_bind_ok hsection, hpass, h]
    rfl
  have hmethod : ∃ w, (Engine.mk v v.inner).callMethod .view "yield_section" (.str name :: default'.toList) [] =
      Run.yieldSection v.inner (.str name) w := by
    cases default' with
    | none => exact ⟨.str [], rfl⟩
    | some w => exact ⟨w, rfl⟩
  obtain ⟨w, hmethod⟩ := hmethod
  rw [call, runFrom_bind_ok hargs, hmethod, runFrom_bind_ok (hyield w), Run.runFrom_now_str]

/-- **Sections inherit by substitution.**  A page defines a section that is not yet defined, then its layout does, and so
on outwards; each definition is any sequence of literal pieces and of marks that the view gave for the parent.  The view
then yields the chain of the definitions put into each other: the first one with the rest of the chain in the place of
each parent.  What comes behind the first definition without a parent is ignored. -/
theorem sections_resolve (name : Text) (d : List SectionPart) (ds : List (List SectionPart)) (default : Option Value)
    (hnew : Value.lookup (.str name) s.pass.sections = none) :
    (runFrom (do
        forM (d :: ds) (v.setSection name)
        v.call "yield_section" (.str name :: default.toList)) s).1 = .ok (.str (resolve (d :: ds))) ∧
      ∀ before e behind, d :: ds = before ++ e :: behind → parent ∉ e →
        resolve (d :: ds) = resolve (before ++ [e]) := by
  constructor
  · have hfirst : Value.lookup (.str name) (s.pass.define (.str name) (textOf d)).sections = some (textOf d) :=
      Pass.lookup_define_new hnew _
    rw [runFrom_bind_ok (runFrom_forM_setSection v s name (d :: ds))]
    exact runFrom_call_yieldSection v (Pass.lookup_foldl_define hfirst ds) default
  · intro before e behind heq hparent
    rw [heq, resolve_append_of_not_mem hparent]

/-- A page with two parents side by side. -/
def twiceParent : List SectionPart :=
  [.literal "a" (by decide), .parent, .parent, .literal "b" (by decide)]

/-- Around the page a layout with a parent of its own, an empty definition, and one that comes too late. -/
def outerDefinitions : List (List SectionPart) :=
  [[.parent, .literal "-" (by decide)], [], [.literal "late" (by decide)]]

/-- What the page shows of them; the last one could as well be missing. -/
theorem sections_resolve_layouts :
    Value.lookup (.str "content") Run.lonePage.pass.sections = none ∧
      (runFrom (do
        forM (twiceParent :: outerDefinitions) (Run.plainView.setSection "content")
        Run.plainView.call "yield_section" [.str "content"]) Run.lonePage).1 = .ok (.str "a--b") ∧
      resolve (twiceParent :: outerDefinitions) = resolve (twiceParent :: outerDefinitions.take 2) := by
  have hresolve := sections_resolve Run.plainView Run.lonePage "content" twiceParent outerDefinitions none rfl
  exact ⟨rfl, hresolve.1, hresolve.2 (twiceParent :: outerDefinitions.take 1) [] _ rfl List.not_mem_nil⟩

end View
end Stencil
