import Stencil.Text.Basic

/-!
# Tables

A table binds names to things and keeps them in the order in which the names were first bound.
-/

namespace Stencil

/-- Names with what they are bound to, first bound first. -/
abbrev Table (α : Type) := List (Text × α)

namespace Table

variable {α : Type}

/-- The thing bound to a name. -/
def get? (name : Text) : Table α → Option α
  | [] => none
  | (n, a) :: t => if n = name then some a else get? name t

/-- A name is bound. -/
def has (name : Text) (t : Table α) : Bool := (get? name t).isSome

/-- Binds a name; a name already bound keeps its place. -/
def put (name : Text) (a : α) : Table α → Table α
  | [] => [(name, a)]
  | (n, b) :: t => if n = name then (name, a) :: t else (n, b) :: put name a t

@[simp] theorem get?_put (name other : Text) (a : α) (t : Table α) :
    get? name (put other a t) = if other = name then some a else get? name t := by
  induction t with
  | nil => rfl
  | cons p t ih =>
    by_cases h : p.1 = other
    · simp only [put, get?, h, if_true]
      split <;> rfl
    · simp only [put, get?, h, if_false, ih]
      split
      · rw [if_neg fun e => h (by simp_all)]
      · rfl

/-- What is bound to a name is among the bindings. -/
theorem mem_of_get? {name : Text} {a : α} {t : Table α} (h : get? name t = some a) : (name, a) ∈ t := by
  induction t with
  | nil => cases h
  | cons p t ih =>
    unfold get? at h
    split at h
    case isTrue hp =>
      obtain rfl := Option.some.inj h
      exact hp ▸ List.mem_cons_self
    case isFalse => exact List.mem_cons_of_mem _ (ih h)

/-- Removes a name. -/
def erase (name : Text) (t : Table α) : Table α := t.filter fun (n, _) => n ≠ name

/-- Leaving out names by what they are leaves what the others are bound to. -/
theorem get?_filter (keep : Text → Bool) (name : Text) (t : Table α) :
    get? name (t.filter fun p => keep p.1) = if keep name then get? name t else none := by
  induction t with
  | nil => simp [get?]
  | cons p t ih =>
    by_cases hk : keep p.1
    · rw [List.filter_cons_of_pos (by simpa using hk), get?, get?, ih]
      by_cases hp : p.1 = name
      · simp [← hp, hk]
      · simp [hp]
    · rw [List.filter_cons_of_neg (by simpa using hk), get?, ih]
      by_cases hp : p.1 = name
      · simp [← hp, hk]
      · simp [hp]

/-- What is bound after names were left out was bound to the same before. -/
theorem get?_of_filter {keep : Text → Bool} {name : Text} {a : α} {t : Table α}
    (h : get? name (t.filter fun p => keep p.1) = some a) : get? name t = some a := by
  rw [get?_filter] at h
  split at h
  · exact h
  · cases h

/-- The names in order. -/
def names (t : Table α) : List Text := t.map Prod.fst

/-- The entries by ascending name. -/
def sorted (t : Table α) : Table α := t.mergeSort fun (m, _) (n, _) => Text.le m n

end Table

/-- The distinct names of a list in ascending order. -/
def sortedNames (names : List Text) : List Text := (names.eraseDups).mergeSort Text.le

end Stencil
