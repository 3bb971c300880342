import Stencil.Proofs.Store.Provenance

/-!
# Fresh artifacts

What it takes for an artifact to be fresh, and what a fresh artifact was made from: the file that the search finds now is
the one that was read, and with the same text, as long as the file that was read is still there.

* `Tidy.backed` — a making from the file that is found is backed by the files.
* `isFresh_eq_true` — a fresh artifact is as new as the source of its name.
* `Backed.found_iff`, `Backed.read_eq` — a making that is as new as the source of its name was made from this source
  exactly if its file is still there.
-/

namespace Stencil.Store

open Files Compiler

variable {w : Watch} {m : Making} {d : Disk} {t last : Int}

/-! ## Finding sources -/

theorem Tidy.looks_of_find (hw : w.Laid) (h : Tidy w last d) {p : Path}
    (hfind : w.store.finder.find d.files w.name = .ok p) :
    ∃ earlier later, w.store.finder.candidates w.name = .ok (earlier ++ p :: later) ∧
      d.files.isFile? p = .ok true ∧
      ∀ q ∈ earlier, ∀ c τ, d.files.entryAt? (placeOf w.here q) ≠ some (.file c τ) := by
  obtain ⟨earlier, later, hps, hp, hearlier⟩ := Finder.find_eq_ok hfind
  refine ⟨earlier, later, hps, hp, fun q hq c τ hc => ?_⟩
  obtain ⟨path, hpath, hroots⟩ := Finder.candidates_eq_ok hps
  obtain ⟨hstraight, hrelative⟩ := hw.below path hpath
  obtain ⟨r, hr, rfl⟩ : ∃ r ∈ w.store.finder.roots, r.join path = q := List.mem_map.mp (by rw [← hroots]; simp [hq])
  obtain ⟨r', -, rfl⟩ : ∃ r' ∈ w.store.finder.roots, r'.join path = p := List.mem_map.mp (by rw [← hroots]; simp)
  -- a null character would be in the name itself, and what is found has none
  have hnul : '\x00' ∉ (r.join path).text := by
    have hfound := (isFile?_eq_true hp).1
    have hroot := hw.roots r hr
    rw [Path.nul_mem_text, join_eq hrelative] at hfound ⊢
    rw [Path.nul_mem_text] at hroot
    simp only [List.mem_append] at hfound ⊢
    rintro (hin | ⟨part, hpart | hpart, hin⟩)
    · exact hroot (.inl hin)
    · exact hroot (.inr ⟨part, hpart, hin⟩)
    · exact hfound (.inr ⟨part, .inr hpart, hin⟩)
  rw [← h.here] at hc
  exact isFile?_below h.tree (h.roots r hr) hstraight hrelative hnul hc (hearlier _ hq)

/-- A making from the text of the file that is found is backed by the files. -/
theorem Tidy.backed (hw : w.Laid) (h : Tidy w last d) (hfind : w.store.finder.find d.files w.name = .ok m.file)
    (hread : d.files.read m.file = .ok m.source) (t : Int) : Backed w m d.files t := by
  obtain ⟨earlier, later, hps, -, hearlier⟩ := h.looks_of_find hw hfind
  refine ⟨⟨earlier, later, hps, fun q hq c τ hc => absurd hc (hearlier q hq c τ)⟩, fun c τ hc _ => ?_⟩
  obtain ⟨c', τ', hlook, hsource⟩ := read_eq_ok hread
  have hentry := (look_eq_ok hlook).2
  rw [h.here, hc] at hentry
  cases hentry
  exact hsource.symm

/-- What is found is as old as everything else. -/
theorem Tidy.stat_of_find (h : Tidy w last d) {name : Text} {p : Path}
    (hfind : w.store.finder.find d.files name = .ok p) : ∃ e, d.files.stat p = .ok e ∧ e.time ≤ last := by
  obtain ⟨-, -, -, hfile, -⟩ := Finder.find_eq_ok hfind
  obtain ⟨-, c, τ, hlook⟩ := isFile?_eq_true hfile
  refine ⟨.file c τ, ?_, h.times _ c τ (look_eq_ok hlook).2⟩
  rw [Files.stat, hlook]
  rfl

/-- The artifact of the name is a file. -/
theorem Tidy.entry_of_stat (h : Tidy w last d) {e : Entry} (hstat : d.files.stat (w.store.artifactPath w.name) = .ok e) :
    ∃ c τ, e = .file c τ ∧ d.files.entryAt? w.spot = some (.file c τ) := by
  have hentry : d.files.entryAt? w.spot = some e := by
    rw [← w.placeOf_artifactPath, ← h.here]
    exact (look_eq_ok (stat_eq_ok hstat)).2
  cases e with
  | directory => exact absurd hentry h.vacant
  | file c τ => exact ⟨c, τ, rfl, hentry⟩

/-! ## Fresh artifacts -/

/-- Looking at the store changes no files. -/
def Looks {α : Type} (act : Work α) : Prop := Keeps (fun d d' : Disk => d'.files = d.files) act

instance : IsPreorder Disk fun d d' : Disk => d'.files = d.files where
  refl _ := rfl
  trans _ _ _ h h' := h'.trans h

theorem looks_report (level : Level) (message : Text) : Looks (Work.report level message) := fun _ => rfl

theorem looks_manifest (s : Store) : Looks s.manifest := by
  refine (keeps_ask _).bind fun present => ?_
  split
  · refine (keeps_ask _).bind fun text => Keeps.get.bind fun d => ?_
    split
    · exact Keeps.pure _
    · exact Keeps.throw _
    · exact (looks_report _ _).bind fun _ => Keeps.pure _
  · exact Keeps.pure _

theorem looks_sourceOf (s : Store) (name : Text) : Looks (s.sourceOf name) := Keeps.get.bind fun _ => Keeps.liftM _

/-- The source of a name is found where the finder says. -/
theorem sourceOf_eq_ok {s : Store} {name : Text} {p : Path} {d' : Disk}
    (h : runFrom (s.sourceOf name) d = (.ok p, d')) : s.finder.find d.files name = .ok p ∧ d' = d := by
  rw [sourceOf, runFrom_bind, runFrom_get] at h
  obtain ⟨hp, hd⟩ := Prod.mk.inj ((runFrom_liftM _ _).symm.trans h)
  exact ⟨hp, hd.symm⟩

/-- The sources of several names, if all are found, begin with the source of the first one. -/
theorem sources?_eq_some {s : Store} {name first : Text} {names : List Text} {paths : List Path} {d' : Disk}
    (h : runFrom (s.sources? name (first :: names)) d = (.ok (some paths), d')) :
    ∃ p rest, paths = p :: rest ∧ s.finder.find d.files first = .ok p ∧ d'.files = d.files := by
  rw [sources?, runFrom_tryCatch, ← bind_pure_comp] at h
  rcases hr : runFrom ((first :: names).mapM s.sourceOf >>= fun ps => pure (some ps)) d with ⟨e | found, u⟩ <;>
    rw [hr] at h
  · -- a source that is missing leaves none
    dsimp only at h
    split at h
    · obtain ⟨-, u', -, h⟩ := runFrom_bind_eq_ok.mp h
      cases h
    · cases h
  · obtain ⟨hfound, rfl⟩ := Prod.mk.inj h
    obtain rfl := Except.ok.inj hfound
    obtain ⟨ps, u', hps, h⟩ := runFrom_bind_eq_ok.mp hr
    obtain ⟨hsome, rfl⟩ := Prod.mk.inj h
    obtain rfl := Option.some.inj (Except.ok.inj hsome)
    rw [List.mapM_cons] at hps
    obtain ⟨p, u₁, hp, hps⟩ := runFrom_bind_eq_ok.mp hps
    obtain ⟨rest, u₂, hrest, hps⟩ := runFrom_bind_eq_ok.mp hps
    obtain ⟨hcons, rfl⟩ := Prod.mk.inj hps
    obtain ⟨hfind, rfl⟩ := sourceOf_eq_ok hp
    have hlooks : Looks (names.mapM s.sourceOf) :=
      (Composed.mapM (P := fun act => Looks act) (C := fun _ _ => True)
        (fun name => .elementary (looks_sourceOf s name)) names).keeps fun h => h
    have hfiles := hlooks u₁
    rw [hrest] at hfiles
    exact ⟨p, rest, (Except.ok.inj hcons).symm, hfind, hfiles⟩

/-- Asking for something that there is. -/
theorem ask_eq_ok {α : Type} {g : Files → Except Fault α} {a : α} {d' : Disk}
    (h : runFrom (Work.ask g) d = (.ok a, d')) : g d.files = .ok a ∧ d' = d := by
  rw [runFrom_ask] at h
  obtain ⟨ha, hd⟩ := Prod.mk.inj h
  refine ⟨?_, hd.symm⟩
  cases hg : g d.files with
  | error fault => rw [hg] at ha; cases ha
  | ok b => rw [hg] at ha; rw [Except.ok.inj ha]

theorem looks_newest (paths : List Path) : Looks (newest paths) := by
  induction paths with
  | nil => exact Keeps.pure _
  | cons p rest ih =>
    cases rest with
    | nil => exact (keeps_ask _).bind fun _ => Keeps.pure _
    | cons q rest => exact (keeps_ask _).bind fun _ => ih.bind fun _ => Keeps.pure _

/-- The newest of several files is as new as the first one. -/
theorem newest_eq_ok {p : Path} {rest : List Path} {time : Int} {d' : Disk}
    (h : runFrom (newest (p :: rest)) d = (.ok time, d')) :
    ∃ e, d.files.stat p = .ok e ∧ e.time ≤ time ∧ d'.files = d.files := by
  have hfiles := looks_newest (p :: rest) d
  rw [h] at hfiles
  cases rest with
  | nil =>
    obtain ⟨e, u, he, h⟩ := runFrom_bind_eq_ok.mp h
    obtain ⟨htime, -⟩ := Prod.mk.inj h
    exact ⟨e, (ask_eq_ok he).1, Int.le_of_eq (Except.ok.inj htime), hfiles⟩
  | cons q rest =>
    obtain ⟨e, u, he, h⟩ := runFrom_bind_eq_ok.mp h
    obtain ⟨others, u', -, h⟩ := runFrom_bind_eq_ok.mp h
    obtain ⟨htime, -⟩ := Prod.mk.inj h
    exact ⟨e, (ask_eq_ok he).1, by rw [← Except.ok.inj htime]; exact Int.le_max_left _ _, hfiles⟩

/-- A fresh artifact is as new as the source of its name. -/
theorem isFresh_eq_true {s : Store} {name : Text} {d' : Disk} (h : runFrom (s.isFresh name) d = (.ok true, d')) :
    d'.files = d.files ∧ ∃ p e e', s.finder.find d.files name = .ok p ∧ d.files.stat p = .ok e ∧
      d.files.stat (s.artifactPath name) = .ok e' ∧ e.time ≤ e'.time := by
  rw [isFresh] at h
  split at h
  · cases h
  obtain ⟨present, d₁, hpresent, h₁⟩ := runFrom_bind_eq_ok.mp h
  obtain rfl := (ask_eq_ok hpresent).2
  split at h₁
  · cases h₁
  obtain ⟨m, d₂, hmanifest, h₂⟩ := runFrom_bind_eq_ok.mp h₁
  have hfiles₂ : d₂.files = d₁.files := by
    have := looks_manifest s d₁
    rwa [hmanifest] at this
  split at h₂
  · cases h₂
  obtain ⟨found, d₃, hfound, h₃⟩ := runFrom_bind_eq_ok.mp h₂
  cases found with
  | none => cases h₃
  | some paths =>
    obtain ⟨p, rest, rfl, hfind, hfiles₃⟩ := sources?_eq_some hfound
    obtain ⟨time, d₄, htime, h₄⟩ := runFrom_bind_eq_ok.mp h₃
    obtain ⟨e, he, hle, hfiles₄⟩ := newest_eq_ok htime
    obtain ⟨e', d₅, he', h₅⟩ := runFrom_bind_eq_ok.mp h₄
    obtain ⟨hstat, rfl⟩ := ask_eq_ok he'
    obtain ⟨hfresh, rfl⟩ := Prod.mk.inj h₅
    rw [hfiles₄, hfiles₃, hfiles₂] at hstat
    rw [hfiles₃, hfiles₂] at he
    rw [hfiles₂] at hfind
    have hnewer : time ≤ e'.time := by simpa using Except.ok.inj hfresh
    exact ⟨by rw [hfiles₄, hfiles₃, hfiles₂], p, e, e', hfind, he, hstat, by omega⟩

/-- A program that is loaded is as new as the artifact. -/
theorem time_of_readProgram {name : Text} {p : Path} {time : Int} {l : Loaded} {d' : Disk}
    (h : runFrom (load.readProgram name p time) d = (.ok l, d')) : l.time = time := by
  obtain ⟨text, d₁, -, h⟩ := runFrom_bind_eq_ok.mp h
  split at h
  · cases h
  · obtain ⟨d₂, d₃, -, h⟩ := runFrom_bind_eq_ok.mp h
    obtain ⟨_, d₄, -, h⟩ := runFrom_bind_eq_ok.mp h
    rw [← Except.ok.inj (Prod.mk.inj h).1]

theorem time_of_load {s : Store} {name : Text} {l : Loaded} {d' : Disk} (h : runFrom (s.load name) d = (.ok l, d')) :
    ∃ e, d.files.stat (s.artifactPath name) = .ok e ∧ l.time = e.time := by
  obtain ⟨e, d₁, he, h⟩ := runFrom_bind_eq_ok.mp h
  refine ⟨e, (ask_eq_ok he).1, ?_⟩
  obtain ⟨d₂, d₃, -, h⟩ := runFrom_bind_eq_ok.mp h
  split at h
  · split at h
    case isTrue htime =>
      rw [← Except.ok.inj (Prod.mk.inj h).1]
      exact htime
    case isFalse => exact time_of_readProgram h
  · exact time_of_readProgram h

/-! ## What a fresh artifact was made from -/

/-- The file that is found, if it is as old as a making, is the one that was read exactly if that is still there. -/
theorem Backed.found_iff (hw : w.Laid) (h : Tidy w last d) (hb : Backed w m d.files t) {p : Path} {e : Entry}
    (hfind : w.store.finder.find d.files w.name = .ok p) (hstat : d.files.stat p = .ok e) (ht : e.time ≤ t) :
    d.files.isFile? m.file = .ok true ↔ w.store.finder.find d.files w.name = .ok m.file := by
  obtain ⟨earlier, later, hps, hp, hearlier⟩ := h.looks_of_find hw hfind
  constructor
  · intro hfile
    obtain ⟨before, after, hps', hbefore⟩ := hb.first
    rw [hps] at hps'
    rcases List.append_eq_append_iff.mp (Except.ok.inj hps') with ⟨mid, rfl, hrest⟩ | ⟨mid, rfl, hrest⟩
    · cases mid with
      | nil =>
        rw [hfind, (List.cons.inj hrest).1]
      | cons q mid =>
        -- the file that is found comes first, so it is newer
        obtain ⟨rfl, -⟩ := List.cons.inj hrest
        obtain ⟨-, c, τ, hlook⟩ := isFile?_eq_true hp
        have hentry := (look_eq_ok hlook).2
        rw [h.here] at hentry
        have hnewer := hbefore p (by simp) c τ hentry
        rw [stat_eq_ok hstat] at hlook
        rw [Except.ok.inj hlook] at ht
        exact absurd ht (Int.not_le.mpr hnewer)
    · cases mid with
      | nil =>
        rw [hfind, (List.cons.inj hrest).1]
      | cons q mid =>
        -- the file that was read comes first, so it is gone
        obtain ⟨rfl, -⟩ := List.cons.inj hrest
        obtain ⟨-, c, τ, hlook⟩ := isFile?_eq_true hfile
        have hentry := (look_eq_ok hlook).2
        rw [h.here] at hentry
        exact absurd hentry (hearlier m.file (by simp) c τ)
  · intro hfound
    rw [hfind] at hfound
    rwa [← Except.ok.inj hfound]

/-- Then its text is the one that was read, too. -/
theorem Backed.read_eq (h : Tidy w last d) (hb : Backed w m d.files t) {e : Entry}
    (hfind : w.store.finder.find d.files w.name = .ok m.file) (hstat : d.files.stat m.file = .ok e) (ht : e.time ≤ t) :
    d.files.read m.file = .ok m.source := by
  obtain ⟨-, -, -, hfile, -⟩ := Finder.find_eq_ok hfind
  obtain ⟨hnul, c, τ, hlook⟩ := isFile?_eq_true hfile
  have hentry := (look_eq_ok hlook).2
  rw [h.here] at hentry
  rw [stat_eq_ok hstat] at hlook
  have htime : e.time = τ := by rw [Except.ok.inj hlook]; rfl
  rw [Files.read, if_neg hnul, stat_eq_ok hstat, hlook]
  simp only [hb.text c τ hentry (htime ▸ ht)]

/-! ## Artifacts that are written -/

theorem guarding_eq_ok {α : Type} {p : Path} {act : Work α} {a : α} {d' : Disk}
    (h : runFrom (Work.guarding p act) d = (.ok a, d')) : runFrom act d = (.ok a, d') := by
  rw [Work.guarding, runFrom_tryCatch] at h
  rcases hr : runFrom act d with ⟨e | a', u⟩ <;> rw [hr] at h
  · dsimp only at h
    split at h <;> cases h
  · exact h

/-- An artifact that has been written is of the time of writing. -/
theorem stamped_of_write (hw : w.Laid) (h : Tidy w d.files.now d) {program : Text} {dependencies : List Text} {p : Path}
    {d' : Disk} (hgood : ∀ header, ∃ m, Explains w m d.files
      (artifactText w.name header (sortedNames dependencies) program) d.files.now)
    (hwrite : runFrom (w.store.write w.name program dependencies) d = (.ok p, d')) {c : Text} {τ : Int}
    (hc : d'.files.entryAt? w.spot = some (.file c τ)) : τ = d'.files.now := by
  obtain ⟨_, d₁, hguarded, hrest⟩ := runFrom_bind_eq_ok.mp hwrite
  obtain ⟨header, d₂, hheader, hparts⟩ := runFrom_bind_eq_ok.mp (guarding_eq_ok hguarded)
  obtain ⟨_, d₃, hlock, hreplace⟩ := runFrom_bind_eq_ok.mp hparts
  obtain ⟨_, d₄, hmade, hput⟩ := runFrom_bind_eq_ok.mp hreplace
  have hkeeps : ∀ {f : Files} {α : Type} {act : Work α} {r : Except Error α} {d d' : Disk},
      Worked w.store (fun _ _ => False) act → runFrom act d = (r, d') → Tended w f d → Tended w f d' := by
    intro f α act r d d' hact hr hd
    have hkept := tended_worked hw (fun _ _ h => h.elim) hact d hd
    rwa [hr] at hkept
  have htended : Tended w d.files d₄ := by
    refine hkeeps (.change ?_) hmade (hkeeps (.lock _) hlock (hkeeps (.sourceText _) hheader h.tended))
    rw [artifactPath, Path.parent_child]
    exact .directory
  rw [runFrom_change] at hput
  cases hg : d₄.files.put (w.store.artifactPath w.name)
      (artifactText w.name header (sortedNames dependencies) program) d₄.files.now with
  | error fault =>
    rw [hg] at hput
    cases hput
  | ok f' =>
    rw [hg] at hput
    obtain rfl := (Prod.mk.inj hput).2
    have hwritten := htended.put hw (owned_artifact w.name) hg fun _ => hgood header
    obtain ⟨place, hplace, -, -, rfl⟩ := put_eq_ok hg
    have htidy := hwritten.tidy
    rw [← hwritten.now] at htidy
    have hend := hkeeps (.write_rest _ _ _) hrest htidy.tended
    rcases hend.stamp c τ hc with hold | hnow
    · have hspot : place = w.spot := by
        rw [place_eq_ok hplace, htended.tidy.here, w.placeOf_artifactPath]
      change (d₄.files.set place _).entryAt? w.spot = _ at hold
      rw [hspot, entryAt?_set, if_neg (by simp [Watch.spot]), if_pos rfl] at hold
      cases hold
      exact hend.now.symm
    · exact hnow.trans hend.now.symm

end Stencil.Store
