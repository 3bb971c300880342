import Mathlib
import Stencil.Proofs.Files.Search

/-!
# Where templates are looked for

A name can lead nowhere but strictly below the roots, and what a search answers is decided by what the candidates are, in
their order.

* `Path.Descends` — a path that leads strictly down; `descends_of_pathFor` — the path of every name does.
* `pathFor_eq_error`, `pathFor_congr` — the names that are refused; the path of a name is decided by its segments.
* `firstFile_eq_none`, `firstFile_eq_error` … — how looking at several paths ends.
* `search_decided` — where the candidates of a name are, and how the search ends.
-/

namespace Stencil

/-- A path that leads strictly down from wherever it begins. -/
structure Path.Descends (p : Path) : Prop where
  relative : p.isAbsolute = false
  nonempty : p.parts ≠ []
  plain : ∀ part ∈ p.parts, part ≠ [] ∧ part ≠ ['.'] ∧ part ≠ ['.', '.'] ∧ '/' ∉ part

/-- The parts of a path that is read are neither empty nor a dot, and hold no slash. -/
theorem Path.mem_parts_ofText {s part : Text} (h : part ∈ (Path.ofText s).parts) :
    part ≠ [] ∧ part ≠ ['.'] ∧ '/' ∉ part := by
  obtain ⟨hsplit, hidle⟩ := List.mem_filter.mp h
  refine ⟨?_, ?_, fun hslash => (Text.mem_of_splitOn hsplit _ hslash).2 rfl⟩
  · rintro rfl
    cases hidle
  · rintro rfl
    cases hidle

namespace Files

variable {f : Files} {p : Path} {fault : Fault}

/-- Looking for a file fails only where a name is too long. -/
theorem isFile?_eq_error :
    f.isFile? p = .error fault ↔ '\x00' ∉ p.text ∧ f.look p = .error .nameTooLong ∧ fault = Files.fault p .nameTooLong := by
  rw [isFile?, map_eq_error, probe]
  by_cases hnul : '\x00' ∈ p.text
  · rw [if_pos hnul]
    simp [hnul]
  · rw [if_neg hnul]
    cases hlook : f.look p with
    | ok e => simp
    | error problem =>
      cases problem
      case nameTooLong => simp [hnul, eq_comm]
      all_goals simp

end Files

namespace Finder

variable {f : Finder} {files : Files} {name other : Text} {p q : Path} {ps : List Path} {e : Error} {fault : Fault}

/-! ## The path of a name -/

/-- The path of a name leads strictly down. -/
theorem descends_of_pathFor (hending : '/' ∉ f.ending) (h : f.pathFor name = .ok p) : p.Descends := by
  obtain ⟨hroot, hup, above, last, hparts⟩ := pathFor_eq_ok hending h
  refine ⟨by rw [Path.isAbsolute, hroot]; rfl, by rw [hparts]; simp, fun part hpart => ?_⟩
  have hread : ∃ s, p = Path.ofText s := by
    rw [pathFor] at h
    split at h
    · cases h
    split at h
    · cases h
    · exact ⟨_, (Except.ok.inj h).symm⟩
  obtain ⟨s, rfl⟩ := hread
  obtain ⟨hempty, hdot, hslash⟩ := Path.mem_parts_ofText hpart
  exact ⟨hempty, hdot, fun h => hup (h ▸ hpart), hslash⟩

/-- Names are refused that could lead out of their root or that have no segment. -/
theorem pathFor_eq_error :
    f.pathFor name = .error e ↔ (isUnsafe name ∨ segments name = []) ∧ e = .missingTemplate name [] := by
  rw [pathFor]
  have hrefused : (notFound name [] : Except Error Path) = .error e ↔ e = .missingTemplate name [] :=
    ⟨fun h => (Except.error.inj h).symm, fun h => h ▸ rfl⟩
  cases hsafe : isUnsafe name with
  | true => simp [hrefused]
  | false => cases segments name <;> simp [hrefused]

/-- The path of a name that is not refused is decided by its segments. -/
theorem pathFor_congr (hp : f.pathFor name = .ok p) (hq : f.pathFor other = .ok q)
    (h : segments name = segments other) : p = q := by
  have hpath : ∀ {n : Text} {r : Path}, f.pathFor n = .ok r →
      r = Path.ofText (Text.join ['/'] (segments n) ++ f.ending) := by
    intro n r hr
    rw [pathFor] at hr
    split at hr
    · cases hr
    split at hr
    · cases hr
    case h_2 hsegments =>
      rw [hsegments]
      exact (Except.ok.inj hr).symm
  rw [hpath hp, hpath hq, h]

theorem candidates_of_pathFor (h : f.pathFor name = .ok p) :
    f.candidates name = .ok (f.roots.map fun root => root.join p) := by
  rw [candidates, h]
  rfl

/-! ## Looking at several paths -/

/-- The first file is found, if nothing before it fails. -/
theorem firstFile_of_first {earlier later : List Path} (hp : files.isFile? p = .ok true)
    (hearlier : ∀ q ∈ earlier, files.isFile? q = .ok false) :
    firstFile files (earlier ++ p :: later) = .ok (some p) := by
  induction earlier with
  | nil => exact bind_eq_ok.mpr ⟨true, hp, rfl⟩
  | cons q earlier ih =>
    exact bind_eq_ok.mpr ⟨false, hearlier q List.mem_cons_self, ih fun r hr => hearlier r (List.mem_cons_of_mem _ hr)⟩

theorem firstFile_eq_none : firstFile files ps = .ok none ↔ ∀ q ∈ ps, files.isFile? q = .ok false := by
  induction ps with
  | nil => simp [firstFile]
  | cons q ps ih =>
    rw [firstFile, bind_eq_ok, List.forall_mem_cons]
    constructor
    · rintro ⟨_ | _, hq, h⟩
      · exact ⟨hq, ih.mp h⟩
      · cases h
    · exact fun ⟨hq, hrest⟩ => ⟨false, hq, ih.mpr hrest⟩

/-- Looking at several paths fails where the first of them fails that is looked at in vain. -/
theorem firstFile_eq_error : firstFile files ps = .error fault ↔ ∃ earlier q later, ps = earlier ++ q :: later ∧
    files.isFile? q = .error fault ∧ ∀ r ∈ earlier, files.isFile? r = .ok false := by
  constructor
  · intro h
    induction ps with
    | nil => cases h
    | cons q ps ih =>
      rcases bind_eq_error.mp h with h | ⟨_ | _, hq, h⟩
      · exact ⟨[], q, ps, rfl, h, by simp⟩
      · obtain ⟨earlier, r, later, rfl, hr, hearlier⟩ := ih h
        exact ⟨q :: earlier, r, later, rfl, hr, List.forall_mem_cons.mpr ⟨hq, hearlier⟩⟩
      · cases h
  · rintro ⟨earlier, q, later, rfl, hq, hearlier⟩
    induction earlier with
    | nil => exact bind_eq_error.mpr (.inl hq)
    | cons r earlier ih =>
      obtain ⟨hr, hearlier⟩ := List.forall_mem_cons.mp hearlier
      exact bind_eq_error.mpr (.inr ⟨false, hr, ih hearlier⟩)

/-! ## The search -/

/-- What a search finds, or why it fails. -/
theorem find_eq (hps : f.candidates name = .ok ps) :
    f.find files name = match firstFile files ps with
      | .ok (some p) => .ok p
      | .ok none => .error (.missingTemplate name (ps.map Path.text))
      | .error fault => .error (.fault fault) := by
  rw [find, hps]
  cases hfirst : firstFile files ps with
  | error fault =>
    simp only [bind, Except.bind]
    rw [hfirst]
    rfl
  | ok found =>
    simp only [bind, Except.bind]
    rw [hfirst]
    cases found <;> rfl

/-- A search ends with a file exactly if it is the first candidate that is one. -/
theorem find_eq_ok_iff (hps : f.candidates name = .ok ps) :
    f.find files name = .ok p ↔ ∃ earlier later, ps = earlier ++ p :: later ∧ files.isFile? p = .ok true ∧
      ∀ q ∈ earlier, files.isFile? q = .ok false := by
  constructor
  · intro h
    obtain ⟨earlier, later, hcandidates, hp, hearlier⟩ := find_eq_ok h
    rw [hps] at hcandidates
    exact ⟨earlier, later, Except.ok.inj hcandidates, hp, hearlier⟩
  · rintro ⟨earlier, later, rfl, hp, hearlier⟩
    rw [find_eq hps, firstFile_of_first hp hearlier]

/-- A search fails if no candidate is a file, and says where it has looked, or if a candidate's name is too long. -/
theorem find_eq_error_iff (hps : f.candidates name = .ok ps) :
    f.find files name = .error e ↔
      (∀ q ∈ ps, files.isFile? q = .ok false) ∧ e = .missingTemplate name (ps.map Path.text) ∨
      ∃ earlier q later, ps = earlier ++ q :: later ∧ (∀ r ∈ earlier, files.isFile? r = .ok false) ∧
        '\x00' ∉ q.text ∧ files.look q = .error .nameTooLong ∧ e = .fault (Files.fault q .nameTooLong) := by
  rw [find_eq hps]
  constructor
  · intro h
    cases hfirst : firstFile files ps with
    | ok found =>
      rw [hfirst] at h
      cases found with
      | some p => cases h
      | none => exact .inl ⟨firstFile_eq_none.mp hfirst, (Except.error.inj h).symm⟩
    | error fault =>
      rw [hfirst] at h
      obtain ⟨earlier, q, later, hsplit, hq, hearlier⟩ := firstFile_eq_error.mp hfirst
      obtain ⟨hnul, hlook, rfl⟩ := Files.isFile?_eq_error.mp hq
      exact .inr ⟨earlier, q, later, hsplit, hearlier, hnul, hlook, (Except.error.inj h).symm⟩
  · rintro (⟨hall, rfl⟩ | ⟨earlier, q, later, rfl, hearlier, hnul, hlook, rfl⟩)
    · rw [firstFile_eq_none.mpr hall]
    · rw [firstFile_eq_error.mpr ⟨earlier, q, later, rfl, Files.isFile?_eq_error.mpr ⟨hnul, hlook, rfl⟩, hearlier⟩]

/-- **The search for a template.**  A name that could lead out of its root, or has no segment, is refused.  The path of
any other name leads strictly down, so that every candidate lies strictly below its root, and names with the same segments
have the same candidates.  The first candidate that is a file is what is found.  If none is a file, the search says where
it has looked, unless the name of one is too long to be looked at: then it fails with that fault, whatever comes behind. -/
theorem search_decided (f : Finder) (hending : '/' ∉ f.ending) (files : Files) (name : Text) :
    (isUnsafe name ∨ segments name = []) ∧ f.pathFor name = .error (.missingTemplate name []) ∧
      f.find files name = .error (.missingTemplate name []) ∨
    ∃ p, f.pathFor name = .ok p ∧ p.Descends ∧
      (∀ root ∈ f.roots, root.join p = { root with parts := root.parts ++ p.parts } ∧
        ∀ place, files.place (root.join p) = .ok place → place = Files.placeOf files.here root ++ p.parts) ∧
      (∀ other q, f.pathFor other = .ok q → segments name = segments other → f.candidates name = f.candidates other) ∧
      ∃ candidates, candidates = f.roots.map (fun root => root.join p) ∧ f.candidates name = .ok candidates ∧
        (∀ found, f.find files name = .ok found ↔ ∃ earlier later, candidates = earlier ++ found :: later ∧
          files.isFile? found = .ok true ∧ ∀ q ∈ earlier, files.isFile? q = .ok false) ∧
        ∀ e, f.find files name = .error e ↔
          (∀ q ∈ candidates, files.isFile? q = .ok false) ∧ e = .missingTemplate name (candidates.map Path.text) ∨
          ∃ earlier q later, candidates = earlier ++ q :: later ∧ (∀ r ∈ earlier, files.isFile? r = .ok false) ∧
            '\x00' ∉ q.text ∧ files.look q = .error .nameTooLong ∧ e = .fault (Files.fault q .nameTooLong) := by
  cases hp : f.pathFor name with
  | error e =>
    obtain ⟨hrefused, rfl⟩ := pathFor_eq_error.mp hp
    refine .inl ⟨hrefused, rfl, ?_⟩
    rw [find, candidates, hp]
    rfl
  | ok p =>
    obtain ⟨hroot, hup, -⟩ := pathFor_eq_ok hending hp
    refine .inr ⟨p, rfl, descends_of_pathFor hending hp, fun root _ => ⟨Files.join_eq hroot, fun place hplace => ?_⟩, ?_, ?_⟩
    · rw [Files.place_eq_ok hplace, Files.placeOf_join hup hroot]
    · intro other q hq hsegments
      rw [candidates, candidates, hp, hq, pathFor_congr hp hq hsegments]
    · have hcandidates := candidates_of_pathFor hp
      exact ⟨_, rfl, hcandidates, fun found => find_eq_ok_iff hcandidates, fun e => find_eq_error_iff hcandidates⟩

/-- An application's directory and the framework's. -/
def twoRoots : Finder := { app := ⟨[], ["app"]⟩, framework := some ⟨[], ["fw"]⟩ }

/-- A template that only the framework has. -/
def frameworkPage : Files where
  entries := [(["app"], .directory), (["fw"], .directory), (["fw", "pages"], .directory),
    (["fw", "pages", "home.html"], .file "home" 0)]

/-- With a dot or with a slash the template of the framework is found, as the application has none of this name. -/
theorem frameworkPage_found :
    twoRoots.candidates "pages.home" = twoRoots.candidates "pages/home" ∧
      twoRoots.find frameworkPage "pages.home" = .ok ⟨[], ["fw", "pages", "home.html"]⟩ := by
  have hdot : twoRoots.pathFor "pages.home" = .ok ⟨[], ["pages", "home.html"]⟩ := by cbv
  have hslash : twoRoots.pathFor "pages/home" = .ok ⟨[], ["pages", "home.html"]⟩ := by cbv
  have happ : frameworkPage.isFile? ⟨[], ["app", "pages", "home.html"]⟩ = .ok false := by cbv
  have hframework : frameworkPage.isFile? ⟨[], ["fw", "pages", "home.html"]⟩ = .ok true := by cbv
  rcases search_decided twoRoots (by decide) frameworkPage "pages.home" with
    ⟨-, hrefused, -⟩ | ⟨p, hp, -, -, hsame, candidates, rfl, -, hfound, -⟩
  · rw [hdot] at hrefused
    cases hrefused
  · rw [hdot] at hp
    obtain rfl := Except.ok.inj hp
    refine ⟨hsame "pages/home" _ hslash (by decide +kernel), (hfound _).mpr ⟨[_], [], rfl, hframework, fun q hq => ?_⟩⟩
    rw [List.mem_singleton.mp hq]
    exact happ

/-- A name of three hundred letters. -/
def longName : Text := List.replicate 300 'a'

/-- No root has a template of this name, but the search does not say so. -/
theorem long_name_fails : ∃ ps, twoRoots.candidates longName = .ok ps ∧
    (∀ p ∈ ps, frameworkPage.entryAt? (Files.placeOf frameworkPage.here p) = none) ∧
    twoRoots.find frameworkPage longName ≠ .error (.missingTemplate longName (ps.map Path.text)) :=
  ⟨[⟨[], ["app", longName ++ ".html"]⟩, ⟨[], ["fw", longName ++ ".html"]⟩], by decide +kernel⟩

end Finder
end Stencil
