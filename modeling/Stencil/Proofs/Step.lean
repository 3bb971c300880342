import Mathlib.Order.Defs.Unbundled
import Stencil.Error

/-!
# Steps that keep what they changed

Compiling, work on the disk and rendering are all steps over a state that may fail and whose changes survive a failure.
Here is what such a step does from a given state, and when it keeps a relation between the state before and behind it.

* `runFrom act s` — the result of a step and the state it leaves behind.
* `Keeps R act` — every run of a step goes from a state to a related one, however it ends.
* `Composed P C act` — a step is put together from elementary ones, by sequencing and by catching errors where `C` says;
  what all elementary steps keep is kept by every step that is composed of them (`Composed.keeps`).
-/

namespace Stencil

/-- A step over a state that may fail; what it changed stays changed. -/
abbrev Step (ε σ α : Type) := ExceptT ε (StateM σ) α

variable {ε σ α β : Type}

/-- The result of a step from a state, and the state behind it. -/
def runFrom (act : Step ε σ α) (s : σ) : Except ε α × σ := act.run s

/-- A sequence succeeds only if both parts do. -/
theorem bind_eq_ok {x : Except ε α} {f : α → Except ε β} {b : β} :
    x >>= f = .ok b ↔ ∃ a, x = .ok a ∧ f a = .ok b := by
  cases x with
  | error e => simp [bind, Except.bind]
  | ok a => simp [bind, Except.bind]

/-- A sequence fails only if one of its parts does. -/
theorem bind_eq_error {x : Except ε α} {f : α → Except ε β} {e : ε} :
    x >>= f = .error e ↔ x = .error e ∨ ∃ a, x = .ok a ∧ f a = .error e := by
  cases x with
  | error e' => simp [bind, Except.bind]
  | ok a => simp [bind, Except.bind]

/-- Renaming errors makes nothing succeed. -/
theorem mapError_eq_ok {ε' : Type} {x : Except ε α} {f : ε → ε'} {a : α} : x.mapError f = .ok a ↔ x = .ok a := by
  cases x with
  | error e => exact ⟨fun h => (by cases h), fun h => (by cases h)⟩
  | ok b => exact ⟨fun h => congrArg _ (Except.ok.inj h), fun h => congrArg _ (Except.ok.inj h)⟩

theorem mapError_eq_error {ε' : Type} {x : Except ε α} {f : ε → ε'} {e' : ε'} :
    x.mapError f = .error e' ↔ ∃ e, x = .error e ∧ f e = e' := by
  cases x with
  | error e => exact ⟨fun h => ⟨e, rfl, Except.error.inj h⟩, fun ⟨_, h, hf⟩ => by cases h; exact congrArg _ hf⟩
  | ok a => exact ⟨fun h => (by cases h), fun ⟨_, h, _⟩ => (by cases h)⟩

theorem map_eq_ok {x : Except ε α} {f : α → β} {b : β} : x.map f = .ok b ↔ ∃ a, x = .ok a ∧ f a = b := by
  cases x <;> simp [Except.map]

theorem map_eq_error {x : Except ε α} {f : α → β} {e : ε} : x.map f = .error e ↔ x = .error e := by
  cases x <;> simp [Except.map]

/-! ## What single steps do -/

@[simp] theorem runFrom_pure (a : α) (s : σ) : runFrom (pure a : Step ε σ α) s = (.ok a, s) := rfl

@[simp] theorem runFrom_throw (e : ε) (s : σ) : runFrom (throw e : Step ε σ α) s = (.error e, s) := rfl

@[simp] theorem runFrom_get (s : σ) : runFrom (get : Step ε σ σ) s = (.ok s, s) := rfl

@[simp] theorem runFrom_modify (f : σ → σ) (s : σ) : runFrom (modify f : Step ε σ PUnit) s = (.ok ⟨⟩, f s) := rfl

@[simp] theorem runFrom_modifyGet (f : σ → α × σ) (s : σ) :
    runFrom (modifyGet f : Step ε σ α) s = (.ok (f s).1, (f s).2) := rfl

@[simp] theorem runFrom_mk (f : σ → Except ε α × σ) (s : σ) : runFrom (ExceptT.mk f : Step ε σ α) s = f s := rfl

@[simp] theorem runFrom_liftM (r : Except ε α) (s : σ) : runFrom (liftM r : Step ε σ α) s = (r, s) := by
  cases r <;> rfl

/-- A step behind another one starts where that one ended, if it ended well. -/
theorem runFrom_bind (x : Step ε σ α) (f : α → Step ε σ β) (s : σ) :
    runFrom (x >>= f) s = match runFrom x s with
      | (.ok a, t) => runFrom (f a) t
      | (.error e, t) => (.error e, t) := by
  simp only [runFrom, bind, ExceptT.bind, ExceptT.run, ExceptT.mk, StateT.bind]
  rcases x s with ⟨e | a, t⟩ <;> rfl

theorem runFrom_bind_ok {x : Step ε σ α} {s t : σ} {a : α} (h : runFrom x s = (.ok a, t)) (f : α → Step ε σ β) :
    runFrom (x >>= f) s = runFrom (f a) t := by
  rw [runFrom_bind, h]

theorem runFrom_bind_error {x : Step ε σ α} {s t : σ} {e : ε} (h : runFrom x s = (.error e, t))
    (f : α → Step ε σ β) : runFrom (x >>= f) s = (.error e, t) := by
  rw [runFrom_bind, h]

/-- A sequence ends well only if both of its parts do. -/
theorem runFrom_bind_eq_ok {x : Step ε σ α} {f : α → Step ε σ β} {s t : σ} {b : β} :
    runFrom (x >>= f) s = (.ok b, t) ↔ ∃ a u, runFrom x s = (.ok a, u) ∧ runFrom (f a) u = (.ok b, t) := by
  rw [runFrom_bind]
  rcases runFrom x s with ⟨e | a, u⟩
  · simp
  · constructor
    · exact fun h => ⟨a, u, rfl, h⟩
    · rintro ⟨a', u', h, h'⟩
      cases h
      exact h'

/-- An error is handled in the state in which it was raised. -/
theorem runFrom_tryCatch (x : Step ε σ α) (h : ε → Step ε σ α) (s : σ) :
    runFrom (tryCatch x h) s = match runFrom x s with
      | (.ok a, t) => (.ok a, t)
      | (.error e, t) => runFrom (h e) t := by
  simp only [runFrom, tryCatch, tryCatchThe, MonadExceptOf.tryCatch, ExceptT.tryCatch, ExceptT.run, ExceptT.mk, bind,
    StateT.bind]
  rcases x s with ⟨e | a, t⟩ <;> rfl

/-- Choosing by steps that change nothing. -/
theorem runFrom_filterM {f : α → Step ε σ Bool} {choose : α → Bool} {l : List α} {s : σ}
    (h : ∀ a ∈ l, runFrom (f a) s = (.ok (choose a), s)) : runFrom (l.filterM f) s = (.ok (l.filter choose), s) := by
  have haux : ∀ kept : List α, runFrom (l.filterAuxM f kept) s = (.ok ((l.filter choose).reverse ++ kept), s) := by
    induction l with
    | nil => exact fun kept => rfl
    | cons a l ih =>
      intro kept
      rw [List.filterAuxM, runFrom_bind_ok (h a List.mem_cons_self), ih fun b hb => h b (List.mem_cons_of_mem _ hb)]
      cases hchoose : choose a <;> simp [hchoose]
  rw [List.filterM, runFrom_bind_ok (haux [])]
  simp

/-! ## Relations that steps keep -/

/-- However the step ends, it leads from a state to a related one. -/
def Keeps (R : σ → σ → Prop) (act : Step ε σ α) : Prop := ∀ s, R s (runFrom act s).2

/-- The relation between two states that a statement which holds of the first one also holds of the second. -/
def Kept (I : σ → Prop) (s t : σ) : Prop := I s → I t

instance (I : σ → Prop) : IsPreorder σ (Kept I) where
  refl _ h := h
  trans _ _ _ h₁ h₂ h := h₂ (h₁ h)

namespace Keeps

variable {R : σ → σ → Prop}

theorem modify {f : σ → σ} (h : ∀ s, R s (f s)) : Keeps R (modify f : Step ε σ PUnit) := h

/-- A step that looks at the state first. -/
theorem get_bind {f : σ → Step ε σ β} (h : ∀ s, R s (runFrom (f s) s).2) : Keeps R (MonadState.get >>= f) := by
  intro s
  rw [runFrom_bind, runFrom_get]
  exact h s

variable [IsPreorder σ R]

theorem pure (a : α) : Keeps R (Pure.pure a : Step ε σ α) := fun s => refl s

theorem throw (e : ε) : Keeps R (MonadExcept.throw e : Step ε σ α) := fun s => refl s

theorem get : Keeps R (MonadState.get : Step ε σ σ) := fun s => refl s

theorem liftM (r : Except ε α) : Keeps R (liftM r : Step ε σ α) := fun s => by
  rw [runFrom_liftM]
  exact refl s

theorem bind {x : Step ε σ α} {f : α → Step ε σ β} (hx : Keeps R x) (hf : ∀ a, Keeps R (f a)) : Keeps R (x >>= f) := by
  intro s
  have h := hx s
  rw [runFrom_bind]
  rcases hr : runFrom x s with ⟨e | a, t⟩ <;> rw [hr] at h
  · exact h
  · exact IsTrans.trans _ _ _ h (hf a t)

theorem tryCatch {x : Step ε σ α} {h : ε → Step ε σ α} (hx : Keeps R x) (hh : ∀ e, Keeps R (h e)) :
    Keeps R (MonadExcept.tryCatch x h) := by
  intro s
  have hs := hx s
  rw [runFrom_tryCatch]
  rcases hr : runFrom x s with ⟨e | a, t⟩ <;> rw [hr] at hs
  · exact IsTrans.trans _ _ _ hs (hh e t)
  · exact hs

theorem forM {f : α → Step ε σ PUnit} {l : List α} (hf : ∀ a ∈ l, Keeps R (f a)) : Keeps R (l.forM f) := by
  induction l with
  | nil => exact pure _
  | cons a l ih => exact bind (hf a (by simp)) fun _ => ih fun b hb => hf b (by simp [hb])

end Keeps

/-! ## Steps that are composed of others -/

/-- A step is put together from elementary ones by sequencing them and by catching errors in some of them. -/
inductive Composed (P : {α : Type} → Step ε σ α → Prop) (C : {α : Type} → Step ε σ α → (ε → Step ε σ α) → Prop) :
    {α : Type} → Step ε σ α → Prop
  | elementary {α : Type} {act : Step ε σ α} : P act → Composed P C act
  | pure {α : Type} (a : α) : Composed P C (Pure.pure a : Step ε σ α)
  | throw {α : Type} (e : ε) : Composed P C (MonadExcept.throw e : Step ε σ α)
  | bind {α β : Type} {x : Step ε σ α} {f : α → Step ε σ β} :
    Composed P C x → (∀ a, Composed P C (f a)) → Composed P C (x >>= f)
  | tryCatch {α : Type} {x : Step ε σ α} {h : ε → Step ε σ α} :
    C x h → Composed P C x → (∀ e, Composed P C (h e)) → Composed P C (MonadExcept.tryCatch x h)

namespace Composed

variable {P : {α : Type} → Step ε σ α → Prop} {C : {α : Type} → Step ε σ α → (ε → Step ε σ α) → Prop}

/-- What all elementary steps keep is kept by every step that is composed of them. -/
theorem keeps {R : σ → σ → Prop} [IsPreorder σ R] (hP : ∀ {α : Type} {act : Step ε σ α}, P act → Keeps R act)
    {act : Step ε σ α} (h : Composed P C act) : Keeps R act := by
  induction h with
  | elementary h => exact hP h
  | pure a => exact .pure a
  | throw e => exact .throw e
  | bind _ _ ihx ihf => exact .bind ihx ihf
  | tryCatch _ _ _ ihx ihh => exact .tryCatch ihx ihh

theorem map (f : α → β) {x : Step ε σ α} (hx : Composed P C x) : Composed P C (f <$> x) := by
  rw [← bind_pure_comp]
  exact .bind hx fun a => .pure (f a)

theorem liftM (r : Except ε α) : Composed P C (liftM r : Step ε σ α) := by
  cases r with
  | error e => exact .throw e
  | ok a => exact .pure a

theorem mapM {f : α → Step ε σ β} (hf : ∀ a, Composed P C (f a)) (l : List α) : Composed P C (l.mapM f) := by
  induction l with
  | nil => rw [List.mapM_nil]; exact .pure _
  | cons a l ih =>
    rw [List.mapM_cons]
    exact .bind (hf a) fun b => .bind ih fun bs => .pure _

theorem forM {f : α → Step ε σ PUnit} (hf : ∀ a, Composed P C (f a)) (l : List α) : Composed P C (l.forM f) := by
  induction l with
  | nil => exact .pure _
  | cons a l ih => exact .bind (hf a) fun _ => ih

theorem filterM {f : α → Step ε σ Bool} (hf : ∀ a, Composed P C (f a)) (l : List α) : Composed P C (l.filterM f) := by
  have haux : ∀ kept, Composed P C (l.filterAuxM f kept) := by
    induction l with
    | nil => exact fun kept => .pure kept
    | cons a l ih => exact fun kept => .bind (hf a) fun _ => ih _
  exact .bind (haux []) fun _ => .pure _

end Composed
end Stencil
