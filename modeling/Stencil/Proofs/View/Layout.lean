import Mathlib.Data.List.Chain
import Mathlib.Data.List.Perm.Subperm
import Stencil.Proofs.View.Scope
import Stencil.Proofs.View.Section

/-!
# Layouts follow each other

A page asks for a layout, the layout for a layout of its own, and so on.  Rendering evaluates the templates of this chain
one behind the other and stops where no layout is asked for any more, or where one is asked for again.

* `Pass.asks?` — the layout that a pass asks for; `LayoutChain` — different templates, each the layout of the one before.
* `View.evaluateInTurn` — templates evaluated one behind the other, whatever they ask for.
* `runFrom_followLayouts_asks` — one more layout; `runFrom_followLayouts_chain` — all of a chain.
* `exists_layoutChain` — among finitely many templates a chain ends or comes back.
* `View.render_layouts` — what a page is that goes through layouts.
-/

namespace Stencil

open Run

/-- The layout that a pass asks for, which is none or has a name. -/
def Pass.asks? (p : Pass) : Option (Option Text) :=
  match p.layout with
  | .null => some none
  | layout => layout.text?.map some

theorem Pass.asks?_eq_none {p : Pass} (h : p.asks? = some none) : p.layout = .null := by
  unfold Pass.asks? at h
  split at h
  · assumption
  · rw [Option.map_eq_some_iff] at h
    obtain ⟨_, -, h⟩ := h
    cases h

theorem Pass.asks?_eq_some {p : Pass} {layout : Text} : p.asks? = some (some layout) ↔ p.layout.text? = some layout := by
  unfold Pass.asks?
  split
  case h_1 hnull =>
    rw [hnull]
    exact ⟨nofun, nofun⟩
  case h_2 => simp

/-- A template and layouts, all different, each of them the layout that the one before asks for. -/
structure LayoutChain (next : Text → Option Text) (name : Text) (layouts : List Text) : Prop where
  linked : (name :: layouts).IsChain fun t layout => next t = some layout
  nodup : (name :: layouts).Nodup

namespace View

/-- Evaluates a layout of a page; no further layout is asked for yet. -/
def evaluateLayout (v : View) (page : Text) (data : List (Value × Value)) (layout : Text) : Run Text := do
  modifyPass fun p => { p with layout := .null }
  report .debug ("Rendering layout " ++ layout ++ " for " ++ page) false
  v.inner.evaluate layout data

/-- Evaluates the template of a page and layouts one behind the other, each once and with the same data; what they collect
adds up, and the text is that of the last one. -/
def evaluateInTurn (v : View) (page : Text) (data : List (Value × Value)) (layouts : List Text) : Run Text := do
  layouts.foldlM (fun _ layout => v.evaluateLayout page data layout) (← v.inner.evaluate page data)

end View

variable {v : View} {page name : Text} {data : List (Value × Value)} {s : State} {next : Text → Option Text}

/-! ## Chains -/

namespace LayoutChain

variable {layouts : List Text}

theorem nil (next : Text → Option Text) (name : Text) : LayoutChain next name [] :=
  ⟨.singleton name, List.nodup_singleton name⟩

/-- A chain goes on with the layout that its last template asks for, unless it comes back. -/
theorem concat (h : LayoutChain next name layouts) {layout : Text} (hnext : next (layouts.getLastD name) = some layout)
    (hnew : layout ∉ name :: layouts) : LayoutChain next name (layouts ++ [layout]) := by
  refine ⟨?_, ?_⟩
  · rw [← List.cons_append]
    refine h.linked.append (.singleton layout) fun t ht l hl => ?_
    rw [List.getLast?_cons, Option.mem_some_iff, ← List.getLastD_eq_getLast?] at ht
    rw [← ht, ← Option.mem_some_iff.mp hl]
    exact hnext
  · rw [← List.cons_append, List.nodup_append_comm]
    exact List.nodup_cons.mpr ⟨hnew, h.nodup⟩

theorem getLastD_mem (name : Text) (layouts : List Text) : layouts.getLastD name ∈ name :: layouts := by
  rw [List.getLastD_eq_getLast?]
  cases hlast : layouts.getLast? with
  | none => exact List.mem_cons_self
  | some last => exact List.mem_cons_of_mem name (List.mem_of_getLast? hlast)

end LayoutChain

/-- Among finitely many templates a chain ends, or it comes back to one of its templates. -/
theorem exists_layoutChain {names : List Text} (hname : name ∈ names)
    (hclosed : ∀ t ∈ names, ∀ layout, next t = some layout → layout ∈ names) :
    ∃ layouts, LayoutChain next name layouts ∧ name :: layouts ⊆ names ∧
      ∀ layout, next (layouts.getLastD name) = some layout → layout ∈ name :: layouts := by
  -- a chain that can go on gets longer, and no chain has more templates than there are
  suffices hgrow : ∀ room layouts, LayoutChain next name layouts → name :: layouts ⊆ names →
      names.length ≤ layouts.length + room → ∃ layouts, LayoutChain next name layouts ∧ name :: layouts ⊆ names ∧
        ∀ layout, next (layouts.getLastD name) = some layout → layout ∈ name :: layouts from
    hgrow names.length [] (.nil next name) (List.cons_subset.mpr ⟨hname, List.nil_subset names⟩) (by simp)
  intro room
  induction room with
  | zero =>
    intro layouts hchain hsubset hlength
    have := (List.subperm_of_subset hchain.nodup hsubset).length_le
    rw [List.length_cons] at this
    omega
  | succ room ih =>
    intro layouts hchain hsubset hlength
    by_cases hback : ∀ layout, next (layouts.getLastD name) = some layout → layout ∈ name :: layouts
    · exact ⟨layouts, hchain, hsubset, hback⟩
    · push Not at hback
      obtain ⟨layout, hnext, hnew⟩ := hback
      have hlast : layouts.getLastD name ∈ names := hsubset (LayoutChain.getLastD_mem name layouts)
      refine ih (layouts ++ [layout]) (hchain.concat hnext hnew) ?_ (by rw [List.length_append]; simp; omega)
      have hlayout : [layout] ⊆ names := by simpa using hclosed _ hlast layout hnext
      rw [← List.cons_append]
      exact List.append_subset.mpr ⟨hsubset, hlayout⟩

namespace Run

/-! ## Following layouts -/

variable {inner : Inner} {chain : List Text} {rounds : Nat} {text layout : Text} {u : State}

/-- Without a layout that is asked for a page is complete. -/
theorem runFrom_followLayouts_none (hasks : u.pass.asks? = some none) :
    runFrom (followLayouts v inner page data (rounds + 1) chain text) u = (.ok text, u) := by
  rw [followLayouts, runFrom_bind_ok (runFrom_pass u), Pass.asks?_eq_none hasks]
  rfl

/-- A layout that is asked for again is refused. -/
theorem runFrom_followLayouts_again (hasks : u.pass.asks? = some (some layout)) (hold : layout ∈ chain) :
    runFrom (followLayouts v inner page data (rounds + 1) chain text) u =
      (.error (.ofCause (.cycle (chain ++ [layout]))), { u with pass := { u.pass with layout := .null } }) := by
  have htext := Pass.asks?_eq_some.mp hasks
  rw [followLayouts, runFrom_bind_ok (runFrom_pass u)]
  split
  case h_1 hnull =>
    rw [hnull] at htext
    cases htext
  case h_2 =>
    rw [runFrom_bind_ok (runFrom_modifyPass _ u), templateName, htext, pure_bind, if_pos hold]
    rfl

/-- A layout that is asked for the first time is evaluated next. -/
theorem runFrom_followLayouts_asks (hasks : u.pass.asks? = some (some layout)) (hnew : layout ∉ chain) :
    runFrom (followLayouts v inner page data (rounds + 1) chain text) u =
      runFrom (inner.evaluate layout data >>= followLayouts v inner page data rounds (chain ++ [layout]))
        (asked page layout u) := by
  have htext := Pass.asks?_eq_some.mp hasks
  rw [followLayouts, runFrom_bind_ok (runFrom_pass u)]
  split
  case h_1 hnull =>
    rw [hnull] at htext
    cases htext
  case h_2 =>
    rw [runFrom_bind_ok (runFrom_modifyPass _ u), templateName, htext, pure_bind, if_neg hnew]
    rfl

/-- Following the layouts of a chain is evaluating them one behind the other. -/
theorem runFrom_followLayouts_chain
    (hnext : ∀ chain t u, Follows v v.inner page data s chain t u →
      ∃ text w, runFrom (v.inner.evaluate t data) u = (.ok text, w) ∧ w.pass.asks? = some (next t))
    {layouts : List Text} {t : Text} {w : State} (hfollows : Follows v v.inner page data s chain t u)
    (hrun : runFrom (v.inner.evaluate t data) u = (.ok text, w)) (hasks : w.pass.asks? = some (next t))
    (hlinked : (t :: layouts).IsChain fun t layout => next t = some layout) (hnodup : (chain ++ t :: layouts).Nodup)
    (hlength : layouts.length < rounds) :
    ∃ text' w', runFrom (layouts.foldlM (fun _ layout => v.evaluateLayout page data layout) text) w = (.ok text', w') ∧
      w'.pass.asks? = some (next (layouts.getLastD t)) ∧
      runFrom (followLayouts v v.inner page data rounds (chain ++ [t]) text) w =
        runFrom (followLayouts v v.inner page data (rounds - layouts.length) (chain ++ t :: layouts) text') w' := by
  induction layouts generalizing chain t u w text rounds with
  | nil => exact ⟨text, w, rfl, hasks, rfl⟩
  | cons layout layouts ih =>
    obtain ⟨hlink, hlinked⟩ := List.isChain_cons_cons.mp hlinked
    obtain ⟨rounds, rfl⟩ := Nat.exists_eq_succ_of_ne_zero (Nat.ne_of_gt (Nat.lt_of_le_of_lt (Nat.zero_le _) hlength))
    rw [hlink] at hasks
    have hnodup' : ((chain ++ [t]) ++ layout :: layouts).Nodup := by rwa [List.append_assoc]
    have hnew : layout ∉ chain ++ [t] := fun hold => (List.nodup_append.mp hnodup').2.2 _ hold _ List.mem_cons_self rfl
    have hlayout := hfollows.layout hrun (Pass.asks?_eq_some.mp hasks) hnew
    obtain ⟨text₁, w₁, hrun₁, hasks₁⟩ := hnext _ _ _ hlayout
    obtain ⟨text', w', hturn, hlast, hrest⟩ := ih hlayout hrun₁ hasks₁ hlinked hnodup' (Nat.lt_of_succ_lt_succ hlength)
    have hone : runFrom (v.evaluateLayout page data layout) w = (.ok text₁, w₁) := hrun₁
    refine ⟨text', w', ?_, ?_, ?_⟩
    · rw [List.foldlM_cons, runFrom_bind_ok hone, hturn]
    · rwa [List.getLastD_cons]
    · rw [runFrom_followLayouts_asks hasks hnew, runFrom_bind_ok hrun₁, hrest, List.append_assoc, List.length_cons,
        Nat.succ_sub_succ]
      rfl

/-- A page that is put together from its layouts is the text of the page. -/
theorem runFrom_render_ok {text : Text} {u : State}
    (h : runFrom (pageText v v.inner (.str name) (.dict data none)) { s with pass := {} } = (.ok text, u)) :
    runFrom (v.render name data) s = (.ok text, u) := by
  rw [View.render, renderPage, reset, runFrom_bind_ok (runFrom_modifyPass _ s), runFrom_tryCatch, h]

/-- An error of compiling ends a page, debugging or not. -/
theorem runFrom_render_compile {e : CompileError} {u : State}
    (h : runFrom (pageText v v.inner (.str name) (.dict data none)) { s with pass := {} } = (.error (.compile e), u)) :
    runFrom (v.render name data) s = (.error (.compile e), { u with pass := {} }) := by
  rw [View.render, renderPage, reset, runFrom_bind_ok (runFrom_modifyPass _ s), runFrom_tryCatch, h]
  rfl

end Run

/-- **Layouts follow each other.**  Suppose that a template, evaluated behind those that led to it, always asks for the
layout that `next` tells.  A page that goes along a chain of templates evaluates them one behind the other, each once, with
the same data and on top of what the ones before have collected.  If the last one asks for no layout, its text is the
page, without the marks that are left for parents.  If it asks for one of the chain, the page fails, debugging or not,
with the chain up to this layout, and nothing more is evaluated.  Among finitely many templates one of the two happens. -/
theorem View.render_layouts (v : View) (name : Text) (data : List (Value × Value)) (s : State)
    (next : Text → Option Text)
    (hnext : ∀ chain t u, Follows v v.inner name (given s data) (started s) chain t u →
      ∃ text w, runFrom (v.inner.evaluate t (given s data)) u = (.ok text, w) ∧ w.pass.asks? = some (next t)) :
    (∀ layouts, LayoutChain next name layouts → layouts.length < v.rounds →
      ∃ text u, runFrom (v.evaluateInTurn name (given s data) layouts) (started s) = (.ok text, u) ∧
        (next (layouts.getLastD name) = none →
          runFrom (v.render name data) s = (.ok (Text.replace parentMark [] text), u) ∧
            ∀ d, text = SectionPart.textOf d → Text.contains parentMark (Text.replace parentMark [] text) = false) ∧
        ∀ again ∈ name :: layouts, next (layouts.getLastD name) = some again →
          runFrom (v.render name data) s =
            (.error (.ofCause (.cycle (name :: layouts ++ [again]))), { u with pass := {} })) ∧
    ∀ names : List Text, name ∈ names → (∀ t ∈ names, ∀ layout, next t = some layout → layout ∈ names) →
      names.length ≤ v.rounds →
      ∃ layouts, LayoutChain next name layouts ∧ name :: layouts ⊆ names ∧ layouts.length < v.rounds ∧
        ∀ again, next (layouts.getLastD name) = some again → again ∈ name :: layouts := by
  refine ⟨fun layouts hchain hlength => ?_, fun names hname hclosed hrounds => ?_⟩
  · obtain ⟨text₀, u₀, hrun, hasks₀⟩ := hnext _ _ _ .page
    obtain ⟨text, u, hturn, hasks, hfollow⟩ :=
      runFrom_followLayouts_chain hnext .page hrun hasks₀ hchain.linked hchain.nodup hlength
    obtain ⟨rounds, hleft⟩ : ∃ rounds, v.rounds - layouts.length = rounds + 1 := ⟨v.rounds - layouts.length - 1, by omega⟩
    rw [hleft] at hfollow
    -- the page is what follows the chain, whatever its last template asks for
    have hpage : runFrom (pageText v v.inner (.str name) (.dict data none)) { s with pass := {} } =
        runFrom (do
          let out ← followLayouts v v.inner name (given s data) (rounds + 1) (name :: layouts) text
          return Text.replace parentMark [] out) u := by
      rw [List.nil_append, List.nil_append] at hfollow
      rw [runFrom_pageText, runFrom_bind_ok hrun, runFrom_bind, hfollow, ← runFrom_bind]
    refine ⟨text, u, (runFrom_bind_ok hrun _).trans hturn, fun hnone => ⟨?_, ?_⟩, fun again hagain hsome => ?_⟩
    · rw [hnone] at hasks
      exact runFrom_render_ok (hpage.trans (runFrom_bind_ok (runFrom_followLayouts_none hasks) _))
    · rintro d rfl
      exact SectionPart.contains_replace_textOf d
    · rw [hsome] at hasks
      have hrefused := hpage.trans (runFrom_bind_error (runFrom_followLayouts_again hasks hagain) _)
      have hfailed := runFrom_render_compile hrefused
      exact hfailed
  · obtain ⟨layouts, hchain, hsubset, hback⟩ := exists_layoutChain hname hclosed
    have hlength := (List.subperm_of_subset hchain.nodup hsubset).length_le
    rw [List.length_cons] at hlength
    exact ⟨layouts, hchain, hsubset, by omega, hback⟩

/-! ## Pages with layouts -/

/-- A template with one layout that asks for none, or asks for one of the two again: what both leave behind is what all
templates of the page leave behind. -/
theorem Run.asks_of_pair {inner : Inner} (page layout : Text) (hlayout : next page = some layout)
    (hback : ∀ again, next layout = some again → again ∈ [page, layout])
    (hpage : ∃ text u, runFrom (inner.evaluate page data) s = (.ok text, u) ∧ u.pass.asks? = some (some layout))
    (hlast : ∃ text u, runFrom (inner.evaluate layout data) (asked page layout (runFrom (inner.evaluate page data) s).2) =
      (.ok text, u) ∧ u.pass.asks? = some (next layout))
    {chain : List Text} {t : Text} {u : State} (h : Follows v inner page data s chain t u) :
    ∃ text w, runFrom (inner.evaluate t data) u = (.ok text, w) ∧ w.pass.asks? = some (next t) := by
  obtain ⟨text₁, u₁, hrun₁, hasks₁⟩ := hpage
  obtain ⟨text₂, u₂, hrun₂, hasks₂⟩ := hlast
  rw [hrun₁] at hrun₂
  suffices hplace : (chain = [] ∧ t = page ∧ u = s) ∨ (chain = [page] ∧ t = layout ∧ u = asked page layout u₁) by
    rcases hplace with ⟨-, rfl, rfl⟩ | ⟨-, rfl, rfl⟩
    · exact ⟨text₁, u₁, hrun₁, hlayout ▸ hasks₁⟩
    · exact ⟨text₂, u₂, hrun₂, hasks₂⟩
  induction h with
  | page => exact .inl ⟨rfl, rfl, rfl⟩
  | layout _ hrun hnext hnew ih =>
    rcases ih with ⟨rfl, rfl, rfl⟩ | ⟨rfl, rfl, rfl⟩
    · rw [hrun₁] at hrun
      cases hrun
      rw [Pass.asks?_eq_some.mp hasks₁] at hnext
      cases hnext
      exact .inr ⟨rfl, rfl, rfl⟩
    · rw [hrun₂] at hrun
      cases hrun
      rw [Pass.asks?_eq_some.mpr hnext] at hasks₂
      exact absurd (hback _ (Option.some.inj hasks₂).symm) hnew

/-- The files of a template that prints something and may ask for a layout, and of its artifact. -/
def storedTemplate (name code : Text) : List (List Text × Entry) :=
  [(["app", name ++ ".html"], .file ("\x7b\x7b " ++ code ++ " \x7d\x7d") 0),
    (["app", "cache", Digest.ofText name ++ Store.ending], .file ("_echo(" ++ code ++ ")\n") 0)]

/-- A manifest that knows templates, and nothing else about them. -/
def storedManifest (names : List Text) : Text :=
  "\x7b" ++ Text.join ", " (names.map fun name => "\"" ++ name ++ "\": \x7b\x7d") ++ "\x7d"

/-- The files of a page in a frame, and of two templates that are the layout of each other. -/
def layoutFiles : List (List Text × Entry) :=
  (["app"], .directory) :: (["app", "cache"], .directory) ::
    (["app", "cache", "manifest.json"], .file (storedManifest ["page", "frame", "odd", "even"]) 0) ::
    (storedTemplate "page" "view.extends_layout('frame')" ++
      storedTemplate "frame" "'<' + view.parent_section() + '>'" ++
      storedTemplate "odd" "view.extends_layout('even')" ++ storedTemplate "even" "view.extends_layout('odd')")

/-- Nothing has been rendered of them. -/
def layoutPages : State where
  disk := { files := { entries := layoutFiles } }

/-- The layouts that its templates ask for. -/
def layoutOf (t : Text) : Option Text :=
  if t = "page" then some "frame" else if t = "odd" then some "even" else if t = "even" then some "odd" else none

/-- What a template leaves behind that ends well. -/
theorem exists_asks {r : Except Error Text × State} {layout : Option Text}
    (h : r.1.toOption.map (fun _ => r.2.pass.asks?) = some (some layout)) :
    ∃ text u, r = (.ok text, u) ∧ u.pass.asks? = some layout := by
  obtain ⟨result, u⟩ := r
  cases result with
  | error e => cases h
  | ok text => exact ⟨text, u, rfl, Option.some.inj h⟩

/-- The page is what its frame shows, without the mark; of the other two templates each asks for the other one, and the
page that begins with one of them comes back to it. -/
theorem View.render_layouts_pages :
    (∀ chain t u, Follows plainView plainView.inner "odd" (given layoutPages []) (started layoutPages) chain t u →
      ∃ text w, runFrom (plainView.inner.evaluate t (given layoutPages [])) u = (.ok text, w) ∧
        w.pass.asks? = some (layoutOf t)) ∧
      LayoutChain layoutOf "odd" ["even"] ∧
      (runFrom (plainView.render "odd" []) layoutPages).1 = .error (.ofCause (.cycle ["odd", "even", "odd"])) ∧
      (runFrom (plainView.render "page" []) layoutPages).1 = .ok "<>" := by
  have hframe : ∀ chain t u, Follows plainView plainView.inner "page" (given layoutPages []) (started layoutPages) chain t u →
      ∃ text w, runFrom (plainView.inner.evaluate t (given layoutPages [])) u = (.ok text, w) ∧
        w.pass.asks? = some (layoutOf t) := fun _ _ _ =>
    asks_of_pair "page" "frame" rfl (fun _ h => by cases h)
      (exists_asks (by decide +kernel)) (exists_asks (by decide +kernel))
  have heven : ∀ chain t u, Follows plainView plainView.inner "odd" (given layoutPages []) (started layoutPages) chain t u →
      ∃ text w, runFrom (plainView.inner.evaluate t (given layoutPages [])) u = (.ok text, w) ∧
        w.pass.asks? = some (layoutOf t) := fun _ _ _ =>
    asks_of_pair "odd" "even" rfl (fun _ h => by cases h; decide)
      (exists_asks (by decide +kernel)) (exists_asks (by decide +kernel))
  have hchain : ∀ {first layout : Text}, layoutOf first = some layout → first ≠ layout → LayoutChain layoutOf first [layout] :=
    fun hlink hne => ⟨.cons_cons hlink (.singleton _), by simpa using hne⟩
  have hlength : (1 : Nat) < plainView.rounds := by decide
  have hodd : LayoutChain layoutOf "odd" ["even"] := hchain rfl (by decide)
  obtain ⟨_, _, -, -, hcycle⟩ := (plainView.render_layouts "odd" [] layoutPages layoutOf heven).1 ["even"] hodd hlength
  obtain ⟨text, u, hturn, hend, -⟩ :=
    (plainView.render_layouts "page" [] layoutPages layoutOf hframe).1 ["frame"] (hchain rfl (by decide)) hlength
  have htext : (runFrom (plainView.evaluateInTurn "page" (given layoutPages []) ["frame"]) (started layoutPages)
      ).1.toOption.map (Text.replace parentMark []) = some ("<>" : Text) := by decide +kernel
  rw [hturn] at htext
  refine ⟨heven, hodd, congrArg Prod.fst (hcycle "odd" (by simp) rfl), ?_⟩
  rw [(hend rfl).1, ← Option.some.inj htext]

end Stencil
