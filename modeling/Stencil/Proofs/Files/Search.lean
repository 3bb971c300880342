import Stencil.Finder
import Stencil.Proofs.Files.Tree
import Stencil.Proofs.Text.Split

/-!
# What a search for a template finds

The first path that leads to a file, and why a file below a root is never overlooked.

* `pathFor_eq_ok` — the path of a name leads straight down.
* `find_eq_ok` — what is found is the first candidate that is a file.
* `isFile?_below` — a file that stands below a root, straight down, is seen by the search.
-/

namespace Stencil

open Files

/-! ## Texts of paths -/

/-- A null character in the text of a path stands in its root or in one of its parts. -/
theorem Path.nul_mem_text (p : Path) : '\x00' ∈ p.text ↔ '\x00' ∈ p.root ∨ ∃ part ∈ p.parts, '\x00' ∈ part := by
  rw [Path.text]
  split
  case isTrue h =>
    obtain ⟨hroot, hparts⟩ := h
    rw [List.isEmpty_iff] at hroot hparts
    simp [hroot, hparts]
  case isFalse => rw [List.mem_append, Text.mem_join (by decide)]

namespace Finder

variable {f : Finder} {files : Files} {name : Text} {p : Path} {ps : List Path}

/-- A segment of a name is a plain part of a path. -/
theorem plain_of_mem_segments {part : Text} (h : part ∈ segments name) : part ≠ [] ∧ '.' ∉ part ∧ '/' ∉ part := by
  obtain ⟨hsplit, hempty⟩ := List.mem_filter.mp h
  have hchars := Text.mem_of_splitOn hsplit
  refine ⟨by simpa using hempty, fun hc => (hchars _ hc).2 rfl, fun hc => ?_⟩
  obtain ⟨c, -, hc'⟩ := List.mem_map.mp (hchars _ hc).1
  split at hc'
  · cases hc'
  case isFalse hslash => exact hslash hc'

/-- The parts of a path that is written as plain parts and an ending. -/
theorem parts_of_plain {ending : Text} (hending : '/' ∉ ending) {first : Text} {rest : List Text}
    (h : ∀ part ∈ first :: rest, '/' ∉ part) :
    ∃ above last, first :: rest = above ++ [last] ∧
      Text.splitOn '/' (Text.join ['/'] (first :: rest) ++ ending) = above ++ [last ++ ending] := by
  induction rest generalizing first with
  | nil =>
    refine ⟨[], first, rfl, ?_⟩
    rw [Text.join, List.intersperse_singleton, List.flatten_singleton, List.nil_append, Text.splitOn_of_not_mem]
    rw [List.mem_append, not_or]
    exact ⟨h first List.mem_cons_self, hending⟩
  | cons next rest ih =>
    obtain ⟨above, last, hlast, hsplit⟩ := ih fun part hpart => h part (List.mem_cons_of_mem _ hpart)
    refine ⟨first :: above, last, by rw [hlast, List.cons_append], ?_⟩
    rw [Text.join, List.intersperse_cons_cons, List.flatten_cons, List.flatten_cons, List.append_assoc, List.append_assoc,
      List.singleton_append, Text.splitOn_append (h first List.mem_cons_self), ← Text.join, hsplit, List.cons_append]

/-- The file of a name lies straight below a root, and its name ends as it should. -/
theorem pathFor_eq_ok (hending : '/' ∉ f.ending) (h : f.pathFor name = .ok p) :
    p.root = [] ∧ ['.', '.'] ∉ p.parts ∧ ∃ above last, p.parts = above ++ [last ++ f.ending] := by
  rw [pathFor] at h
  split at h
  · cases h
  split at h
  · cases h
  case h_2 first rest hsegments =>
    obtain rfl := Except.ok.inj h
    have hplain : ∀ part ∈ first :: rest, part ≠ [] ∧ '.' ∉ part ∧ '/' ∉ part := fun part hpart =>
      plain_of_mem_segments (by rw [hsegments]; exact hpart)
    obtain ⟨above, last, hlast, hsplit⟩ := parts_of_plain hending fun part hpart => (hplain part hpart).2.2
    rw [hlast] at hplain
    -- no part begins with a dot
    have hdots : ∀ part ∈ above ++ [last ++ f.ending], ∃ c more, part = c :: more ∧ c ≠ '.' := by
      intro part hpart
      obtain ⟨stem, hstem, more, rfl⟩ : ∃ stem ∈ above ++ [last], ∃ more, part = stem ++ more := by
        rcases List.mem_append.mp hpart with hpart | hpart
        · exact ⟨part, List.mem_append_left _ hpart, [], (List.append_nil part).symm⟩
        · exact ⟨last, List.mem_append_right _ (List.mem_singleton_self _), _, List.mem_singleton.mp hpart⟩
      obtain ⟨hne, hdot, -⟩ := hplain stem hstem
      obtain ⟨c, tail, rfl⟩ := List.exists_cons_of_ne_nil hne
      exact ⟨c, tail ++ more, rfl, fun hc => hdot (hc ▸ List.mem_cons_self)⟩
    have hparts : (Path.ofText (Text.join ['/'] (first :: rest) ++ f.ending)).parts = above ++ [last ++ f.ending] := by
      rw [Path.ofText, hsplit, List.filter_eq_self]
      intro part hpart
      obtain ⟨c, more, rfl, hc⟩ := hdots part hpart
      simp [Path.isIdle, hc]
    refine ⟨?_, ?_, above, last, hparts⟩
    · obtain ⟨c, tail, rfl⟩ := List.exists_cons_of_ne_nil (hplain first (by rw [← hlast]; exact List.mem_cons_self)).1
      have hslash : c ≠ '/' := fun hc =>
        (hplain (c :: tail) (by rw [← hlast]; exact List.mem_cons_self)).2.2 (hc ▸ List.mem_cons_self)
      have htext : ∃ more, Text.join ['/'] ((c :: tail) :: rest) ++ f.ending = c :: more := by
        cases rest with
        | nil => exact ⟨_, rfl⟩
        | cons next rest => exact ⟨_, rfl⟩
      obtain ⟨more, htext⟩ := htext
      rw [Path.ofText, htext, Path.rootOf, List.takeWhile_cons_of_neg (by simpa using hslash)]
      rfl
    · rw [hparts]
      intro hup
      obtain ⟨c, more, heq, hc⟩ := hdots _ hup
      exact hc (List.cons.inj heq).1.symm

/-! ## The search -/

theorem candidates_eq_ok (h : f.candidates name = .ok ps) :
    ∃ path, f.pathFor name = .ok path ∧ ps = f.roots.map fun root => root.join path := by
  obtain ⟨path, hpath, h⟩ := bind_eq_ok.mp h
  exact ⟨path, hpath, (Except.ok.inj h).symm⟩

theorem firstFile_eq_some (h : firstFile files ps = .ok (some p)) :
    ∃ earlier later, ps = earlier ++ p :: later ∧ files.isFile? p = .ok true ∧
      ∀ q ∈ earlier, files.isFile? q = .ok false := by
  induction ps with
  | nil => cases h
  | cons q ps ih =>
    obtain ⟨isFile, hq, h⟩ := bind_eq_ok.mp h
    cases isFile with
    | true =>
      obtain rfl := Option.some.inj (Except.ok.inj h)
      exact ⟨[], ps, rfl, hq, by simp⟩
    | false =>
      obtain ⟨earlier, later, rfl, hp, hearlier⟩ := ih h
      refine ⟨q :: earlier, later, rfl, hp, ?_⟩
      intro r hr
      rcases List.mem_cons.mp hr with rfl | hr
      · exact hq
      · exact hearlier r hr

/-- What is found is the first candidate that is a file. -/
theorem find_eq_ok (h : f.find files name = .ok p) :
    ∃ earlier later, f.candidates name = .ok (earlier ++ p :: later) ∧ files.isFile? p = .ok true ∧
      ∀ q ∈ earlier, files.isFile? q = .ok false := by
  obtain ⟨ps, hps, h⟩ := bind_eq_ok.mp h
  obtain ⟨found, hfound, h⟩ := bind_eq_ok.mp h
  cases found with
  | none => cases h
  | some q =>
    obtain rfl := Except.ok.inj h
    cases hfirst : firstFile files ps with
    | error fault => rw [hfirst] at hfound; cases hfound
    | ok found =>
      rw [hfirst] at hfound
      obtain rfl := Except.ok.inj hfound
      obtain ⟨earlier, later, rfl, hp, hearlier⟩ := firstFile_eq_some hfirst
      exact ⟨earlier, later, hps, hp, hearlier⟩

end Finder

namespace Files

variable {f : Files} {p r path : Path} {e : Entry}

theorem isFile?_eq_true (h : f.isFile? p = .ok true) :
    '\x00' ∉ p.text ∧ ∃ c τ, f.look p = .ok (.file c τ) := by
  rw [isFile?, probe] at h
  split at h
  · cases h
  case isFalse hnul =>
    refine ⟨hnul, ?_⟩
    cases hlook : f.look p with
    | error problem =>
      rw [hlook] at h
      cases problem <;> cases h
    | ok e =>
      rw [hlook] at h
      cases e with
      | directory => cases h
      | file c τ => exact ⟨c, τ, rfl⟩

theorem isFile?_of_look {c : Text} {τ : Int} (hn : '\x00' ∉ p.text) (h : f.look p = .ok (.file c τ)) :
    f.isFile? p = .ok true := by
  rw [isFile?, probe, if_neg hn, h]
  rfl

theorem join_eq (hroot : path.root = []) : r.join path = { r with parts := r.parts ++ path.parts } := by
  rw [Path.join, Path.isAbsolute, hroot]
  rfl

theorem placeOf_join (hs : ['.', '.'] ∉ path.parts) (hroot : path.root = []) (here : List Text) :
    placeOf here (r.join path) = placeOf here r ++ path.parts := by
  rw [join_eq hroot]
  exact (ahead_append _ r.parts path.parts).trans (ahead_straight hs _)

/-- A path below a root leads to what stands there, unless it is too long. -/
theorem look_below (ht : f.IsTree) (hr : f.look r = .ok .directory) (hs : ['.', '.'] ∉ path.parts)
    (hroot : path.root = []) (he : f.entryAt? (placeOf f.here (r.join path)) = some e) :
    f.look (r.join path) = .ok e ∨ f.look (r.join path) = .error .nameTooLong := by
  have hplace := (look_eq_ok hr).1
  rw [place] at hplace
  split at hplace
  · cases hplace
  have hat := placeOf_join (r := r) hs hroot f.here
  rw [hat] at he
  have hwalk : f.walk (if r.isAbsolute then [] else f.here) (r.parts ++ path.parts) =
      f.walk (placeOf f.here r) path.parts := by
    rw [walk_append, hplace]
    rfl
  have hjoin : f.place (r.join path) = .error .nameTooLong ∨
      f.place (r.join path) = f.walk (placeOf f.here r) path.parts := by
    rw [← hwalk, place]
    split
    · exact .inl rfl
    · rw [join_eq hroot]
      exact .inr rfl
  have hlong : f.place (r.join path) = .error .nameTooLong → f.look (r.join path) = .error .nameTooLong := by
    intro h
    rw [look, h]
    rfl
  rcases hjoin with hjoin | hjoin
  · exact .inr (hlong hjoin)
  · rcases ht.walk hs he with hok | herror
    · exact .inl (look_of_place (hjoin.trans hok) he)
    · exact .inr (hlong (hjoin.trans herror))

/-- A file that stands below a root, straight down, is never overlooked by the search. -/
theorem isFile?_below (ht : f.IsTree) (hr : f.look r = .ok .directory) (hs : ['.', '.'] ∉ path.parts)
    (hroot : path.root = []) (hn : '\x00' ∉ (r.join path).text) {c : Text} {τ : Int}
    (he : f.entryAt? (placeOf f.here (r.join path)) = some (.file c τ)) : f.isFile? (r.join path) ≠ .ok false := by
  rcases look_below ht hr hs hroot he with hlook | hlook
  · rw [isFile?_of_look hn hlook]
    exact fun h => by cases h
  · rw [isFile?, probe, if_neg hn, hlook]
    exact fun h => by cases h

end Files
end Stencil
