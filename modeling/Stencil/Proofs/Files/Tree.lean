import Mathlib.Data.List.Induction
import Stencil.Files.Basic
import Stencil.Proofs.Step

/-!
# Files as a tree

Where paths lead, and what the single operations change in a tree of files.

* `ahead`, `placeOf` — the place that a path names if all directories on the way are there.
* `IsTree` — whatever there is stands in a directory.
* `set`, `erase` — what stands where behind a change; `put_eq_ok`, `remove_eq_ok` … — which changes the operations make.
-/

namespace Stencil.Files

variable {f f' : Files} {p : Path} {place q : List Text} {e : Entry}

/-! ## Places -/

/-- The place that parts lead to, whatever stands on the way. -/
def ahead (place : List Text) : List Text → List Text
  | [] => place
  | part :: rest => if part = ['.', '.'] then ahead place.dropLast rest else ahead (place ++ [part]) rest

/-- The place that a path names if all directories on the way are there. -/
def placeOf (here : List Text) (p : Path) : List Text := ahead (if p.isAbsolute then [] else here) p.parts

theorem ahead_append (place : List Text) (parts more : List Text) :
    ahead place (parts ++ more) = ahead (ahead place parts) more := by
  induction parts generalizing place with
  | nil => rfl
  | cons part parts ih =>
    simp only [List.cons_append, ahead]
    split
    · exact ih _
    · exact ih _

/-- Parts that are no steps up lead straight down. -/
theorem ahead_straight {parts : List Text} (h : ['.', '.'] ∉ parts) (place : List Text) :
    ahead place parts = place ++ parts := by
  induction parts generalizing place with
  | nil => simp [ahead]
  | cons part parts ih =>
    rw [List.mem_cons, not_or] at h
    rw [ahead, if_neg (Ne.symm h.1), ih h.2, List.append_assoc, List.singleton_append]

theorem placeOf_child {last : Text} (h : last ≠ ['.', '.']) (here : List Text) (p : Path) :
    placeOf here (p.child last) = placeOf here p ++ [last] := by
  have hlast : ['.', '.'] ∉ [last] := by simpa using Ne.symm h
  exact (ahead_append _ p.parts [last]).trans (ahead_straight hlast _)

theorem walk_eq_ok {parts : List Text} (h : f.walk place parts = .ok q) : q = ahead place parts := by
  induction parts generalizing place with
  | nil => exact (Except.ok.inj h).symm
  | cons part parts ih =>
    rw [walk] at h
    rw [ahead]
    split at h
    · cases h
    · cases h
    · split at h
      case isTrue hup => rw [if_pos hup, ih h]
      case isFalse hup =>
        split at h
        · cases h
        · rw [if_neg hup, ih h]

/-- A path leads to the place that it names, if anywhere. -/
theorem place_eq_ok (h : f.place p = .ok q) : q = placeOf f.here p := by
  rw [place] at h
  split at h
  · cases h
  · exact walk_eq_ok h

theorem walk_append (parts more : List Text) :
    f.walk place (parts ++ more) = (f.walk place parts >>= fun q => f.walk q more) := by
  induction parts generalizing place with
  | nil => rfl
  | cons part parts ih =>
    rw [List.cons_append, walk, walk]
    split
    · rfl
    · rfl
    · split
      · exact ih
      · split
        · rfl
        · exact ih

/-- A walk through directories that are still there leads to the same place. -/
theorem walk_mono (h : ∀ place, f.entryAt? place = some .directory → f'.entryAt? place = some .directory)
    {parts : List Text} (hw : f.walk place parts = .ok q) : f'.walk place parts = .ok q := by
  induction parts generalizing place with
  | nil => exact hw
  | cons part parts ih =>
    rw [walk] at hw ⊢
    split at hw
    · cases hw
    · cases hw
    · rename_i hdir
      rw [h _ hdir]
      dsimp only
      split at hw
      case isTrue hup => rw [if_pos hup, ih hw]
      case isFalse hup =>
        rw [if_neg hup]
        split at hw
        · cases hw
        case isFalse hlong => rw [if_neg hlong, ih hw]

/-! ## Trees -/

/-- Whatever there is stands in a directory. -/
def IsTree (f : Files) : Prop := ∀ place e, f.entryAt? place = some e → f.entryAt? place.dropLast = some .directory

/-- Above anything there are only directories. -/
theorem IsTree.above (h : f.IsTree) {more : List Text} (he : f.entryAt? (place ++ more) = some e) (hm : more ≠ []) :
    f.entryAt? place = some .directory := by
  induction more using List.reverseRecOn generalizing e with
  | nil => exact absurd rfl hm
  | append_singleton more last ih =>
    have hdir := h _ _ he
    rw [← List.append_assoc, List.dropLast_concat] at hdir
    cases more with
    | nil => simpa using hdir
    | cons m more => exact ih hdir (List.cons_ne_nil _ _)

/-- Straight down to something that is there leads a walk, unless a name on the way is too long. -/
theorem IsTree.walk (h : f.IsTree) {parts : List Text} (hs : ['.', '.'] ∉ parts)
    (he : f.entryAt? (place ++ parts) = some e) :
    f.walk place parts = .ok (place ++ parts) ∨ f.walk place parts = .error .nameTooLong := by
  induction parts generalizing place with
  | nil => exact .inl (by simp [Files.walk])
  | cons part parts ih =>
    rw [List.mem_cons, not_or] at hs
    have hdir : f.entryAt? place = some .directory := h.above he (List.cons_ne_nil _ _)
    have hsame : place ++ part :: parts = (place ++ [part]) ++ parts := by simp
    rw [Files.walk, hdir, hsame]
    dsimp only
    rw [if_neg (Ne.symm hs.1)]
    split
    · exact .inr rfl
    · rw [hsame] at he
      exact ih hs.2 he

/-! ## Changes -/

theorem find?_filter_ne (entries : List (List Text × Entry)) (place q : List Text) :
    (entries.filter fun old => old.1 ≠ place).find? (fun old => old.1 = q) =
      if q = place then none else entries.find? fun old => old.1 = q := by
  rw [List.find?_filter]
  split
  case isTrue hq =>
    subst hq
    simp
  case isFalse hq =>
    congr 1
    funext old
    by_cases ho : old.1 = q
    · simp [ho, hq]
    · simp [ho]

/-- What stands where behind a change at one place. -/
theorem entryAt?_set (f : Files) (place q : List Text) (e : Entry) :
    (f.set place e).entryAt? q = if q = [] then some .directory else if q = place then some e else f.entryAt? q := by
  cases q with
  | nil => rfl
  | cons part q =>
    rw [if_neg (List.cons_ne_nil _ _)]
    simp only [entryAt?, set, List.isEmpty_cons, Bool.false_eq_true, if_false, List.find?_cons]
    by_cases hq : part :: q = place
    · simp [hq]
    · rw [if_neg hq]
      simp only [Ne.symm hq, decide_false]
      rw [find?_filter_ne, if_neg hq]

theorem entryAt?_erase (f : Files) (place q : List Text) :
    (f.erase place).entryAt? q = if q = [] then some .directory else if q = place then none else f.entryAt? q := by
  cases q with
  | nil => rfl
  | cons part q =>
    rw [if_neg (List.cons_ne_nil _ _)]
    simp only [entryAt?, erase, List.isEmpty_cons, Bool.false_eq_true, if_false]
    rw [find?_filter_ne]
    split <;> rfl

/-- A file away from a change was there before. -/
theorem file_of_set {c : Text} {τ : Int} (h : q ≠ place) (hc : (f.set place e).entryAt? q = some (.file c τ)) :
    f.entryAt? q = some (.file c τ) := by
  rw [entryAt?_set, if_neg h] at hc
  split at hc
  · cases hc
  · exact hc

theorem file_of_set_directory {c : Text} {τ : Int} (hc : (f.set place .directory).entryAt? q = some (.file c τ)) :
    f.entryAt? q = some (.file c τ) := by
  by_cases h : q = place
  · rw [entryAt?_set, if_pos h] at hc
    split at hc <;> cases hc
  · exact file_of_set h hc

theorem file_of_erase {c : Text} {τ : Int} (hc : (f.erase place).entryAt? q = some (.file c τ)) :
    f.entryAt? q = some (.file c τ) := by
  rw [entryAt?_erase] at hc
  split at hc
  · cases hc
  · split at hc
    · cases hc
    · exact hc

/-- Directories stay, unless a file is put in the place of one. -/
theorem directory_set (h : f.entryAt? place = some .directory → e = .directory) (hq : f.entryAt? q = some .directory) :
    (f.set place e).entryAt? q = some .directory := by
  rw [entryAt?_set]
  split
  · rfl
  · split
    case isTrue heq =>
      rw [h (heq ▸ hq)]
    · exact hq

theorem directory_erase (h : f.entryAt? place ≠ some .directory) (hq : f.entryAt? q = some .directory) :
    (f.erase place).entryAt? q = some .directory := by
  rw [entryAt?_erase]
  split
  · rfl
  · rw [if_neg fun heq : q = place => h (heq ▸ hq)]
    exact hq

/-- A tree stays one if something is put into a directory. -/
theorem IsTree.set (h : f.IsTree) (hp : f.entryAt? place.dropLast = some .directory)
    (he : f.entryAt? place = some .directory → e = .directory) : (f.set place e).IsTree := by
  intro q e' hq
  refine directory_set he ?_
  rw [entryAt?_set] at hq
  split at hq
  case isTrue hnil =>
    rw [hnil]
    rfl
  case isFalse hnil =>
    split at hq
    case isTrue heq => rw [heq, hp]
    case isFalse => exact h q e' hq

theorem IsTree.erase (h : f.IsTree) (hp : f.entryAt? place ≠ some .directory) : (f.erase place).IsTree := by
  intro q e' hq
  refine directory_erase hp ?_
  rw [entryAt?_erase] at hq
  split at hq
  case isTrue hnil =>
    rw [hnil]
    rfl
  case isFalse hnil =>
    split at hq
    · cases hq
    · exact h q e' hq

/-! ## What the operations change -/

/-- Writing a file puts it into a directory, and never in the place of one. -/
theorem put_eq_ok {content : Text} {time : Int} (h : f.put p content time = .ok f') :
    ∃ place, f.place p = .ok place ∧ f.entryAt? place ≠ some .directory ∧
      f.entryAt? place.dropLast = some .directory ∧ f' = f.set place (.file content time) := by
  rw [put] at h
  split at h
  · cases h
  case h_2 place hplace =>
    refine ⟨place, hplace, ?_⟩
    split at h
    · cases h
    case h_2 hparent hentry => exact ⟨hentry, hparent, (Except.ok.inj h).symm⟩
    · cases h
    · cases h

/-- A directory is made where there is nothing yet. -/
theorem makeOne_eq_ok (h : f.makeOne p = .ok f') :
    ∃ place, f.place p = .ok place ∧ f.entryAt? place = none ∧ f.entryAt? place.dropLast = some .directory ∧
      f' = f.set place .directory := by
  obtain ⟨place, hplace, h⟩ := bind_eq_ok.mp h
  refine ⟨place, hplace, ?_⟩
  split at h
  · cases h
  case h_2 hnone hparent => exact ⟨hnone, hparent, (Except.ok.inj h).symm⟩
  · cases h
  · cases h

/-- Only files are removed. -/
theorem remove_eq_ok (h : f.remove p = .ok f') :
    ∃ place content time, f.place p = .ok place ∧ f.entryAt? place = some (.file content time) ∧ f' = f.erase place := by
  rw [remove] at h
  split at h
  case h_1 content time place hlook hplace =>
    refine ⟨place, content, time, hplace, ?_, (Except.ok.inj h).symm⟩
    obtain ⟨place', hplace', hentry⟩ := bind_eq_ok.mp hlook
    rw [hplace] at hplace'
    obtain rfl := Except.ok.inj hplace'
    split at hentry
    case h_1 e he => rw [he, Except.ok.inj hentry]
    · cases hentry
  all_goals cases h

theorem discard_eq_ok (h : f.discard p = .ok f') :
    f' = f ∨ ∃ place content time, f.entryAt? place = some (.file content time) ∧ f' = f.erase place := by
  rw [discard] at h
  split at h
  · exact .inl (Except.ok.inj h).symm
  · obtain ⟨place, content, time, -, hentry, rfl⟩ := remove_eq_ok h
    exact .inr ⟨place, content, time, hentry, rfl⟩

/-- What stands where a path leads stands at its place. -/
theorem look_eq_ok (h : f.look p = .ok e) : f.place p = .ok (placeOf f.here p) ∧ f.entryAt? (placeOf f.here p) = some e := by
  obtain ⟨place, hplace, hentry⟩ := bind_eq_ok.mp h
  obtain rfl := place_eq_ok hplace
  refine ⟨hplace, ?_⟩
  split at hentry
  case h_1 e' he => rw [he, Except.ok.inj hentry]
  · cases hentry

theorem look_of_place (hp : f.place p = .ok place) (he : f.entryAt? place = some e) : f.look p = .ok e := by
  refine bind_eq_ok.mpr ⟨place, hp, ?_⟩
  rw [he]

theorem read_eq_ok {text : Text} (h : f.read p = .ok text) :
    ∃ c τ, f.look p = .ok (.file c τ) ∧ text = unifyBreaks c := by
  rw [read] at h
  split at h
  · cases h
  · split at h
    case h_1 c τ hlook => exact ⟨c, τ, hlook, (Except.ok.inj h).symm⟩
    · cases h
    · cases h

theorem stat_eq_ok (h : f.stat p = .ok e) : f.look p = .ok e := by
  rw [stat] at h
  cases hlook : f.look p with
  | error problem => rw [hlook] at h; cases h
  | ok e' => rw [hlook] at h; rw [Except.ok.inj h]

/-- What is kept by making single directories above a path, and the path itself, is kept by making them all. -/
theorem makeDirectory_keeps {I : Files → Prop} (hI : ∀ k f f', I f →
    f.makeOne { p with parts := p.parts.take k } = .ok f' → I f') (hf : I f) (h : f.makeDirectory p = .ok f') : I f' := by
  have hbelow : ∀ k {g : Files} {above : Except Fault Files}, (∀ g', above = .ok g' → I g') →
      f.makeBelow { p with parts := p.parts.take k } above = .ok g → I g := by
    intro k g above habove hg
    rw [makeBelow] at hg
    split at hg
    case h_1 g' hmade => exact hI k f g hf (Except.ok.inj hg ▸ hmade)
    · obtain ⟨g', habove', hg⟩ := bind_eq_ok.mp hg
      cases hmade : g'.makeOne { p with parts := p.parts.take k } with
      | error problem => rw [hmade] at hg; cases hg
      | ok g'' =>
        rw [hmade] at hg
        exact hI k g' g (habove g' habove') (Except.ok.inj hg ▸ hmade)
    · split at hg
      · exact Except.ok.inj hg ▸ hf
      · cases hg
  have hat : ∀ levels k {g : Files}, f.makeAt { p with parts := p.parts.take k } levels = .ok g → I g := by
    intro levels
    induction levels with
    | zero => exact fun k {g} hg => hbelow k (fun g' h => by cases h) hg
    | succ levels ih =>
      intro k g hg
      refine hbelow k (fun g' h => ?_) hg
      rw [Path.parent, List.dropLast_eq_take, List.take_take] at h
      exact ih _ h
  have hall := hat p.parts.length p.parts.length (g := f')
  rw [List.take_length] at hall
  exact hall h

end Stencil.Files
