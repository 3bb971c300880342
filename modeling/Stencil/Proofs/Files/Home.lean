import Mathlib
import Stencil.Proofs.Files.Search

/-!
# A directory that holds files

What the operations on files do inside one directory that holds nothing but files: each sees and changes one name and
leaves the others as they are.

* `Houses` — a path leads to a directory of files, and where that is; `Handy` — a name that may be used in it.
* `held`, `textIn` — what a directory holds under a name; `held_set`, `textIn_set` … — behind a change.
* `look_child`, `put_child`, `discard_child` … — what each operation does.
* `list_eq`, `mem_namesIn`, `nodup_namesIn` — the names that the directory lists are those of what it holds.
-/

namespace Stencil

/-! ## How long paths are -/

theorem Text.utf8Size_eq_sum (s : Text) : Text.utf8Size s = (s.map fun c => (Text.utf8 c).length).sum := by
  rw [Text.utf8Size, List.sum_eq_foldl]

theorem Text.utf8Size_append (s t : Text) : Text.utf8Size (s ++ t) = Text.utf8Size s + Text.utf8Size t := by
  simp only [Text.utf8Size_eq_sum, List.map_append, List.sum_append]

theorem Text.join_concat (separator : Text) {parts : List Text} (h : parts ≠ []) (last : Text) :
    Text.join separator (parts ++ [last]) = Text.join separator parts ++ (separator ++ last) := by
  induction parts with
  | nil => exact absurd rfl h
  | cons part parts ih =>
    cases parts with
    | nil => simp [Text.join]
    | cons next parts =>
      have hrest := ih (List.cons_ne_nil _ _)
      rw [List.cons_append] at hrest
      rw [List.cons_append, List.cons_append, Text.join_cons_cons, hrest, Text.join_cons_cons]
      simp

/-- A name makes a path longer by at most a slash and itself. -/
theorem Path.utf8Size_text_child_le (dir : Path) (name : Text) :
    Text.utf8Size (dir.child name).text ≤ Text.utf8Size dir.text + 1 + Text.utf8Size name := by
  have hslash : Text.utf8Size ['/'] = 1 := by decide
  have hchild : (dir.child name).text = dir.root ++ Text.join ['/'] (dir.parts ++ [name]) := by
    simp [Path.text, Path.child]
  rw [hchild, Text.utf8Size_append]
  by_cases hparts : dir.parts = []
  · rw [hparts, List.nil_append, Text.join_singleton, Path.text]
    split
    case isTrue h =>
      rw [List.isEmpty_iff.mp h.1]
      simp [Text.utf8Size]
    case isFalse =>
      rw [Text.utf8Size_append]
      omega
  · have htext : dir.text = dir.root ++ Text.join ['/'] dir.parts := by
      simp [Path.text, hparts]
    rw [htext, Text.join_concat _ hparts, Text.utf8Size_append, Text.utf8Size_append, Text.utf8Size_append, hslash]
    omega

namespace Files

variable {f : Files} {dir : Path} {home : List Text} {name other : Text} {e : Entry}

/-! ## The directory -/

/-- A path leads to a directory of files. -/
structure Houses (f : Files) (dir : Path) (home : List Text) : Prop where
  place : f.place dir = .ok home
  directory : f.entryAt? home = some .directory
  files : ∀ name, f.entryAt? (home ++ [name]) ≠ some .directory
  /-- No place is listed twice. -/
  distinct : (f.entries.map Prod.fst).Nodup

/-- A name that may be used in a directory. -/
structure Handy (dir : Path) (name : Text) : Prop where
  down : name ≠ ['.', '.']
  short : Text.utf8Size name ≤ nameLimit
  near : Text.utf8Size (dir.child name).text < pathLimit
  whole : '\x00' ∉ (dir.child name).text

/-- What a directory holds under a name. -/
def held (f : Files) (home : List Text) (name : Text) : Option Entry := f.entryAt? (home ++ [name])

theorem held_set (f : Files) (home : List Text) (name other : Text) (e : Entry) :
    (f.set (home ++ [name]) e).held home other = if other = name then some e else f.held home other := by
  rw [held, entryAt?_set, if_neg (by simp)]
  simp only [List.append_cancel_left_eq, List.singleton_inj]
  rfl

theorem held_erase (f : Files) (home : List Text) (name other : Text) :
    (f.erase (home ++ [name])).held home other = if other = name then none else f.held home other := by
  rw [held, entryAt?_erase, if_neg (by simp)]
  simp only [List.append_cancel_left_eq, List.singleton_inj]
  rfl

/-- The text that a directory holds under a name. -/
def textIn (f : Files) (home : List Text) (name : Text) : Option Text :=
  match f.held home name with
  | some (.file content _) => some content
  | _ => none

theorem textIn_eq_some {content : Text} :
    f.textIn home name = some content ↔ ∃ time, f.held home name = some (.file content time) := by
  rw [textIn]
  cases f.held home name with
  | none => simp
  | some e => cases e <;> simp

theorem textIn_congr {f' : Files} (h : f'.held home name = f.held home name) :
    f'.textIn home name = f.textIn home name := by
  rw [textIn, textIn, h]

@[simp] theorem textIn_set (f : Files) (home : List Text) (name other content : Text) (time : Int) :
    (f.set (home ++ [name]) (.file content time)).textIn home other =
      if other = name then some content else f.textIn home other := by
  rw [textIn, textIn, held_set]
  by_cases h : other = name
  · rw [if_pos h, if_pos h]
  · rw [if_neg h, if_neg h]

namespace Houses

/-- Everything in a directory of files has a text. -/
theorem isSome_textIn (h : f.Houses dir home) (name : Text) :
    (f.textIn home name).isSome = (f.held home name).isSome := by
  rw [textIn]
  cases hheld : f.held home name with
  | none => rfl
  | some e =>
    cases e with
    | directory => exact absurd hheld (h.files name)
    | file => rfl

theorem look (h : f.Houses dir home) : f.look dir = .ok .directory := look_of_place h.place h.directory

/-- The directory is found where the directories on the way to it are still there. -/
theorem place_mono {f' : Files} (h : f.Houses dir home) (hhere : f'.here = f.here)
    (hkept : ∀ place, f.entryAt? place = some .directory → f'.entryAt? place = some .directory) :
    f'.place dir = .ok home := by
  have hplace := h.place
  rw [Files.place] at hplace ⊢
  split at hplace
  · cases hplace
  case isFalse hshort =>
    rw [if_neg hshort, hhere]
    exact walk_mono hkept hplace

/-- A directory of files stays one if a file is put into it. -/
theorem set (h : f.Houses dir home) (name : Text) (content : Text) (time : Int) :
    (f.set (home ++ [name]) (.file content time)).Houses dir home := by
  have hkept : ∀ place, f.entryAt? place = some .directory →
      (f.set (home ++ [name]) (.file content time)).entryAt? place = some .directory :=
    fun place => directory_set fun hdir => absurd hdir (h.files name)
  refine ⟨h.place_mono rfl hkept, hkept home h.directory, fun other => ?_, ?_⟩
  · have hheld := held_set f home name other (.file content time)
    rw [held] at hheld
    rw [hheld]
    split
    · exact fun heq => by cases heq
    · exact h.files other
  · refine List.nodup_cons.mpr ⟨?_, ?_⟩
    · simp
    · exact h.distinct.sublist (List.filter_sublist.map _)

theorem erase (h : f.Houses dir home) (name : Text) : (f.erase (home ++ [name])).Houses dir home := by
  have hkept : ∀ place, f.entryAt? place = some .directory →
      (f.erase (home ++ [name])).entryAt? place = some .directory := fun place => directory_erase (h.files name)
  refine ⟨h.place_mono rfl hkept, hkept home h.directory, fun other => ?_, ?_⟩
  · have hheld := held_erase f home name other
    rw [held] at hheld
    rw [hheld]
    split
    · exact fun heq => by cases heq
    · exact h.files other
  · exact h.distinct.sublist (List.filter_sublist.map _)

/-! ## Looking at a name -/

theorem place_child (h : f.Houses dir home) (hname : Handy dir name) :
    f.place (dir.child name) = .ok (home ++ [name]) := by
  have hplace := h.place
  rw [Files.place] at hplace ⊢
  split at hplace
  · cases hplace
  · have habsolute : (dir.child name).isAbsolute = dir.isAbsolute := rfl
    have hparts : (dir.child name).parts = dir.parts ++ [name] := rfl
    rw [if_neg (Nat.not_le.mpr hname.near), habsolute, hparts, walk_append, hplace]
    change f.walk home [name] = _
    rw [walk, h.directory]
    dsimp only
    rw [if_neg hname.down, if_neg (Nat.not_lt.mpr hname.short), walk]

theorem look_child (h : f.Houses dir home) (hname : Handy dir name) :
    f.look (dir.child name) = (f.held home name).elim (.error .missing) .ok := by
  rw [Files.look, h.place_child hname, held]
  simp only [bind, Except.bind]
  cases f.entryAt? (home ++ [name]) <;> rfl

theorem exists?_child (h : f.Houses dir home) (hname : Handy dir name) :
    f.exists? (dir.child name) = .ok (f.held home name).isSome := by
  rw [exists?, probe, if_neg hname.whole, h.look_child hname]
  cases f.held home name <;> rfl

theorem stat_child (h : f.Houses dir home) (hname : Handy dir name) :
    f.stat (dir.child name) = (f.held home name).elim (.error (fault (dir.child name) .missing)) .ok := by
  rw [stat, h.look_child hname]
  cases f.held home name <;> rfl

theorem read_child (h : f.Houses dir home) (hname : Handy dir name) {content : Text} {time : Int}
    (hheld : f.held home name = some (.file content time)) : f.read (dir.child name) = .ok (unifyBreaks content) := by
  rw [Files.read, if_neg hname.whole, h.look_child hname, hheld]
  rfl

/-! ## Changing a name -/

theorem put_child (h : f.Houses dir home) (hname : Handy dir name) (content : Text) (time : Int) :
    f.put (dir.child name) content time = .ok (f.set (home ++ [name]) (.file content time)) := by
  rw [put, h.place_child hname]
  dsimp only
  rw [List.dropLast_concat, h.directory]
  split
  case h_1 hdir => exact absurd hdir (h.files name)
  case h_2 => rfl
  case h_3 hfile _ => cases hfile
  case h_4 hnone _ => cases hnone

/-- Making the directory again changes nothing. -/
theorem makeDirectory_eq (h : f.Houses dir home) : f.makeDirectory dir = .ok f := by
  have hone : f.makeOne dir = .error .exists := by
    rw [makeOne, h.place]
    simp only [bind, Except.bind]
    rw [h.directory]
  have hbelow : ∀ above, f.makeBelow dir above = .ok f := by
    intro above
    rw [makeBelow, hone]
    dsimp only
    rw [h.look]
  rw [makeDirectory]
  cases dir.parts.length with
  | zero => exact hbelow _
  | succ levels => exact hbelow _

/-! ## The names in the directory -/

theorem isDirectory?_eq (h : f.Houses dir home) (hdir : '\x00' ∉ dir.text) : f.isDirectory? dir = .ok true := by
  rw [isDirectory?, probe, if_neg hdir, h.look]
  rfl

theorem list_eq (h : f.Houses dir home) : f.list dir = .ok (f.namesIn home) := by
  rw [list, h.look, h.place]

end Houses

/-- The name that a place has in a directory. -/
def nameIn? (home place : List Text) : Option Text :=
  match place.getLast? with
  | some name => if place.dropLast = home then some name else none
  | none => none

theorem nameIn?_eq_some {place : List Text} : nameIn? home place = some name ↔ place = home ++ [name] := by
  rw [nameIn?]
  rcases List.eq_nil_or_concat' place with rfl | ⟨above, last, rfl⟩
  · simp
  · rw [List.getLast?_concat, List.dropLast_concat]
    dsimp only
    rw [Option.ite_none_right_eq_some, Option.some.injEq]
    constructor
    · rintro ⟨rfl, rfl⟩
      rfl
    · intro h
      obtain ⟨habove, hlast⟩ := List.append_inj' h rfl
      exact ⟨habove, List.singleton_inj.mp hlast⟩

theorem namesIn_perm (f : Files) (home : List Text) :
    (f.namesIn home).Perm ((f.entries.map Prod.fst).filterMap (nameIn? home)) := by
  rw [List.filterMap_map]
  exact List.mergeSort_perm _ _

/-- A directory lists the names under which it holds something. -/
theorem mem_namesIn : name ∈ f.namesIn home ↔ (f.held home name).isSome := by
  rw [(namesIn_perm f home).mem_iff, List.mem_filterMap, held, entryAt?, if_neg (by simp), Option.isSome_map,
    List.find?_isSome]
  simp only [nameIn?_eq_some, decide_eq_true_eq]
  simp

theorem nodup_namesIn (h : (f.entries.map Prod.fst).Nodup) (home : List Text) : (f.namesIn home).Nodup := by
  rw [(namesIn_perm f home).nodup_iff]
  refine List.Nodup.filterMap (fun place other name hplace hother => ?_) h
  rw [Option.mem_def, nameIn?_eq_some] at hplace hother
  rw [hplace, hother]

end Files
end Stencil
