import Mathlib.Data.Set.Function
import Stencil.Proofs.Store.Directory

/-!
# A store as a map

A store is meant to be a map from names to what was stored under them last.  What it holds is spread over artifacts, the
manifest and the programs in use; that these three stay in step is the invariant of every run.

* `Shelf` — what a store is meant to hold: a map from names to `Stored`.
* `Call` — the calls of a store, with what each does to the disk, `Call.behind`, and to the map, `Shelf.behind`.
* `Reaches` — the runs of a store from an empty directory, with changes of times, and of other files, between calls.
* `Holds` — a disk that holds what a shelf says; `Holds.put` and `Holds.removed` are what puts and takes something,
  `holds_write`, `holds_forget`, `holds_purge`, `holds_clear` and `holds_load` the steps, `holds_of_reaches` the run.
* `Answers` — every call answers as the map does; `answers_of_reaches`.
-/

namespace Stencil.Store

open Files

/-! ## What a store is meant to hold -/

/-- What a store holds of one template: the text of its artifact, what it depends on and when it was written. -/
structure Stored where
  text : Text
  dependencies : List Text
  writtenAt : Int
  deriving DecidableEq, Repr

/-- What the manifest knows of a stored template. -/
def Stored.known (e : Stored) : Known := ⟨e.dependencies, e.writtenAt⟩

/-- What a store is meant to hold. -/
abbrev Shelf := Table Stored

/-- A call of a store. -/
inductive Call where
  | write (name program : Text) (dependencies : List Text)
  | forget (name : Text)
  | purge (age : Age)
  | clear
  | manifest
  | load (name : Text)
  deriving Repr

/-- The names that a call is about. -/
def Call.names : Call → List Text
  | write name .. | forget name | load name => [name]
  | purge _ | clear | manifest => []

/-- The disk behind a call. -/
def Call.behind (s : Store) (d : Disk) : Call → Disk
  | write name program dependencies => (runFrom (s.write name program dependencies) d).2
  | forget name => (runFrom (s.forget name) d).2
  | purge age => (runFrom (s.purge age) d).2
  | clear => (runFrom s.clear d).2
  | manifest => (runFrom s.manifest d).2
  | load name => (runFrom (s.load name) d).2

/-- What an artifact says of the source of a name, or why no source can be looked for. -/
def sourceIn (s : Store) (f : Files) (name : Text) : Except Error Text :=
  match s.finder.find f name with
  | .ok p => .ok p.text
  | .error (.missingTemplate ..) => .ok noSource
  | .error e => .error e

/-- The time of a name's artifact. -/
def artifactTime (s : Store) (f : Files) (name : Text) : Int :=
  match f.stat (s.artifactPath name) with
  | .ok e => e.time
  | .error _ => 0

/-- The artifact of a name is older than an age. -/
def isPassed (s : Store) (f : Files) (age : Age) (name : Text) : Bool := age.isPassed f.now (s.artifactTime f name)

/-- What a store is meant to hold behind a call. -/
def Shelf.behind (s : Store) (f : Files) (shelf : Shelf) : Call → Shelf
  | .write name program dependencies =>
    match s.sourceIn f name with
    | .ok source =>
      let names := sortedNames dependencies
      shelf.put name ⟨artifactText name source names program, names, f.now⟩
    | .error _ => shelf
  | .forget name => shelf.erase name
  | .purge age => shelf.filter fun (name, _) => !s.isPassed f age name
  | .clear => []
  | .manifest | .load _ => shelf

/-- An empty directory, and a store that has not been used. -/
structure Fresh (s : Store) (home : List Text) (d : Disk) : Prop where
  roomy : Roomy s.directory
  houses : d.files.Houses s.directory home
  empty : ∀ file, d.files.held home file = none
  clock : Number.isOverlong d.files.now = false
  programs : d.programs = []

/-- Files that were changed from outside, but not what the texts in the directory are. -/
structure Undisturbed (s : Store) (home : List Text) (f f' : Files) : Prop where
  houses : f'.Houses s.directory home
  texts : ∀ file, f'.textIn home file = f.textIn home file
  clock : Number.isOverlong f'.now = false

/-- What is reached from an empty directory, by calls about some names and by changes from outside between them: what the
store is meant to hold then, and the disk. -/
inductive Reaches (s : Store) (home : List Text) (names : Set Text) : Shelf → Disk → Prop
  | fresh {d : Disk} : Fresh s home d → Reaches s home names [] d
  | call {shelf : Shelf} {d : Disk} (c : Call) : Reaches s home names shelf d → (∀ name ∈ c.names, name ∈ names) →
    Reaches s home names (shelf.behind s d.files c) (c.behind s d)
  | outside {shelf : Shelf} {d : Disk} {files : Files} : Reaches s home names shelf d →
    Undisturbed s home d.files files → Reaches s home names shelf { d with files }

/-! ## What a disk holds -/

/-- A disk holds what a shelf says: every artifact, the manifest and the programs in use agree with it. -/
structure Holds (s : Store) (home : List Text) (names : Set Text) (shelf : Shelf) (d : Disk) : Prop where
  housed : Housed s home names d.files
  distinct : shelf.names.Nodup
  named : ∀ name ∈ shelf.names, name ∈ names
  artifacts : ∀ name ∈ names, d.files.textIn home (artifactFile name) = (shelf.get? name).map Stored.text
  ledger : Ledger d.files home fun name => (shelf.get? name).map Stored.known
  programs : ∀ name l, d.programs.get? name = some l →
    ∃ e, shelf.get? name = some e ∧ Script.parse (unifyBreaks e.text) = .ok l.program

variable {s : Store} {home : List Text} {names : Set Text} {shelf : Shelf} {d : Disk} {name : Text}

/-- Looking for a source changes nothing. -/
theorem runFrom_sourceText (s : Store) (name : Text) (d : Disk) :
    runFrom (s.sourceText name) d = (s.sourceIn d.files name, d) := by
  have hsource : runFrom (Path.text <$> s.sourceOf name) d = ((s.finder.find d.files name).map Path.text, d) := by
    rw [← bind_pure_comp, sourceOf, runFrom_bind, runFrom_bind, runFrom_get]
    dsimp only
    rw [runFrom_liftM]
    cases s.finder.find d.files name <;> rfl
  rw [sourceText, runFrom_tryCatch, hsource, sourceIn]
  cases s.finder.find d.files name with
  | ok p => rfl
  | error e => cases e <;> rfl

/-- Storing a text as the artifact of a name. -/
theorem runFrom_storeArtifact (h : Housed s home names d.files) (hname : name ∈ names) (content : Text) :
    ∃ files, runFrom (do
        lock (s.artifactPath name)
        replace (s.artifactPath name) content) d = (.ok ⟨⟩, { d with files }) ∧
      Housed s home names files ∧ files.now = d.files.now ∧
      ∀ file, NoLock file → files.textIn home file =
        if file = artifactFile name then some content else d.files.textIn home file := by
  have hlocked : Housed s home names (locked d.files home (artifactFile name)) := h.locked (.artifactLock hname)
  have hlock : runFrom (lock (s.artifactPath name)) d =
      (.ok ⟨⟩, { d with files := locked d.files home (artifactFile name) }) := runFrom_lock h (.artifactLock hname)
  have hreplace := runFrom_replace (d := { d with files := locked d.files home (artifactFile name) }) hlocked
    (.artifact hname) content
  refine ⟨_, (runFrom_bind_ok hlock _).trans hreplace, hlocked.set (.artifact hname) _ _, now_locked, ?_⟩
  intro file hfile
  rw [textIn_set, textIn_congr (held_locked hfile)]

/-- Writing a template stores its artifact, notes it in the manifest and puts its program out of use. -/
theorem runFrom_write (h : Holds s home names shelf d) (hname : name ∈ names) {source : Text}
    (hsource : s.sourceIn d.files name = .ok source) (program : Text) (dependencies : List Text) {e : Stored}
    (he : e = ⟨artifactText name source (sortedNames dependencies) program, sortedNames dependencies, d.files.now⟩) :
    ∃ files, runFrom (s.write name program dependencies) d = (.ok (s.artifactPath name), { d with
        files
        programs := d.programs.erase name
        log := d.log ++ [⟨.debug, "Wrote artifact for " ++ name ++ " to " ++ (s.artifactPath name).text, false⟩] }) ∧
      Housed s home names files ∧ Ledger files home (fun other => ((shelf.put name e).get? other).map Stored.known) ∧
      ∀ file, NoLock file → file ≠ manifestFile → files.textIn home file =
        if file = artifactFile name then some e.text else d.files.textIn home file := by
  have hfound : runFrom (s.sourceText name) d = (.ok source, d) := by rw [runFrom_sourceText, hsource]
  obtain ⟨files, hstore, hhoused, hnow, htexts⟩ := runFrom_storeArtifact h.housed hname e.text
  have hledger : Ledger files home fun other => (shelf.get? other).map Stored.known :=
    h.ledger.congr (by rw [htexts _ noLock_manifestFile, if_neg (artifactFile_ne_manifestFile name).symm])
  have hclock : Number.isOverlong e.known.compiledAt = false := by
    rw [he]
    exact h.housed.clock
  have hchanges : ∀ m : Manifest, m.Sound → (∀ other, m.get? other = (shelf.get? other).map Stored.known) →
      Manifest.Sound (m.update [(name, some e.known)]) ∧
        ∀ other, (m.update [(name, some e.known)]).get? other = ((shelf.put name e).get? other).map Stored.known := by
    intro m hm hknown
    refine ⟨hm.put name hclock, fun other => ?_⟩
    refine (Table.get?_put other name e.known m).trans ?_
    rw [Table.get?_put, hknown]
    split <;> rfl
  obtain ⟨files', hupdate, hhoused', hledger', -, hheld⟩ := runFrom_updateManifest
    (d := { d with files, programs := d.programs.erase name }) hhoused hledger [(name, some e.known)] _ hchanges
  refine ⟨files', ?_, hhoused', hledger', fun file hlock hmanifest => ?_⟩
  · rw [he] at hstore
    have hguarded := runFrom_guarding_ok (p := s.artifactPath name) ((runFrom_bind_ok hfound fun source => do
      lock (s.artifactPath name)
      replace (s.artifactPath name) (artifactText name source (sortedNames dependencies) program)).trans hstore)
    have hunload : runFrom (unload name) { d with files } =
        (.ok ⟨⟩, { d with files, programs := d.programs.erase name }) := rfl
    have hknown : e.known = ⟨sortedNames dependencies, files.now⟩ := by
      rw [he, hnow]
      rfl
    rw [hknown] at hupdate
    rw [write, runFrom_bind_ok hguarded, runFrom_bind_ok hunload, runFrom_bind_ok (runFrom_get _),
      runFrom_bind_ok hupdate]
    rfl
  · exact (textIn_congr (hheld file hlock hmanifest)).trans (htexts file hlock)

/-- What is held where a name is put into the artifacts and the manifest, and its program is out of use. -/
theorem Holds.put {d' : Disk} (h : Holds s home names shelf d) (hkeys : Set.InjOn Digest.ofText names)
    (hname : name ∈ names) (e : Stored) (hhoused : Housed s home names d'.files)
    (hartifacts : ∀ other ∈ names, d'.files.textIn home (artifactFile other) =
      if artifactFile other = artifactFile name then some e.text else d.files.textIn home (artifactFile other))
    (hledger : Ledger d'.files home fun other => ((shelf.put name e).get? other).map Stored.known)
    (hprograms : d'.programs = d.programs.erase name) :
    Holds s home names (shelf.put name e) d' := by
  refine ⟨hhoused, Table.nodup_put h.distinct, fun other hother => ?_, fun other hother => ?_, hledger,
    fun other l hl => ?_⟩
  · rcases Table.mem_names_put.mp hother with rfl | hother
    · exact hname
    · exact h.named other hother
  · have hsame : artifactFile other = artifactFile name ↔ name = other :=
      ⟨fun heq => (hkeys hother hname (artifactFile_inj heq)).symm, fun heq => heq ▸ rfl⟩
    rw [hartifacts other hother, Table.get?_put, h.artifacts other hother]
    simp only [hsame]
    split <;> rfl
  · rw [hprograms, Table.get?_erase] at hl
    split at hl
    case isTrue => cases hl
    case isFalse hne =>
      rw [Table.get?_put, if_neg (Ne.symm hne)]
      exact h.programs other l hl

/-- What is left where some names are gone from the artifacts, the manifest and the programs alike. -/
theorem Holds.removed {d' : Disk} (h : Holds s home names shelf d) (gone : Text → Bool)
    (hhoused : Housed s home names d'.files)
    (hartifacts : ∀ name ∈ names, d'.files.textIn home (artifactFile name) =
      if gone name then none else d.files.textIn home (artifactFile name))
    (hledger : Ledger d'.files home fun name => if gone name then none else (shelf.get? name).map Stored.known)
    (hprograms : ∀ name l, d'.programs.get? name = some l → gone name = false ∧ d.programs.get? name = some l) :
    Holds s home names (shelf.filter fun p => !gone p.1) d' := by
  have hget : ∀ name, Table.get? name (shelf.filter fun p => !gone p.1) = if gone name then none else shelf.get? name := by
    intro name
    rw [Table.get?_filter fun name => !gone name]
    cases gone name <;> rfl
  have hnames : Table.names (shelf.filter fun p => !gone p.1) = shelf.names.filter fun name => !gone name :=
    Table.names_filter (fun name => !gone name) shelf
  refine ⟨hhoused, ?_, ?_, ?_, ?_, ?_⟩
  · rw [hnames]
    exact h.distinct.filter _
  · intro name hname
    rw [hnames] at hname
    exact h.named name (List.mem_of_mem_filter hname)
  · intro name hname
    rw [hartifacts name hname, hget, h.artifacts name hname]
    split <;> rfl
  · obtain ⟨m, hm, hknown, htext⟩ := hledger
    refine ⟨m, hm, fun name => ?_, htext⟩
    rw [hknown]
    dsimp only
    rw [hget]
    split <;> rfl
  · intro name l hl
    obtain ⟨hgone, hl⟩ := hprograms name l hl
    rw [hget, hgone]
    exact h.programs name l hl

/-- A name is held exactly if its artifact is there. -/
theorem Holds.isSome_held (h : Holds s home names shelf d) (hname : name ∈ names) :
    (d.files.held home (artifactFile name)).isSome = shelf.has name := by
  rw [← h.housed.houses.isSome_textIn, h.artifacts name hname, Option.isSome_map]
  rfl

/-- The artifact of a name that is held. -/
theorem Holds.stat_artifact (h : Holds s home names shelf d) {e : Stored} (he : shelf.get? name = some e) :
    ∃ time, d.files.held home (artifactFile name) = some (.file e.text time) ∧
      d.files.stat (s.artifactPath name) = .ok (.file e.text time) := by
  have hname : name ∈ names := h.named name (Table.mem_names_iff.mpr ⟨e, he⟩)
  have htext := h.artifacts name hname
  rw [he] at htext
  obtain ⟨time, hheld⟩ := textIn_eq_some.mp htext
  refine ⟨time, hheld, (h.housed.houses.stat_child (h.housed.handy (.artifact hname))).trans ?_⟩
  rw [hheld]
  rfl

theorem Holds.exists? (h : Holds s home names shelf d) (hname : name ∈ names) :
    d.files.exists? (s.artifactPath name) = .ok (shelf.has name) := by
  rw [← h.isSome_held hname]
  exact h.housed.houses.exists?_child (h.housed.handy (.artifact hname))

/-- The artifacts in the directory are those of the names that are held. -/
theorem Holds.artifacts_perm (hkeys : Set.InjOn Digest.ofText names) (h : Holds s home names shelf d) :
    (listed d.files home ending).Perm (shelf.names.map artifactFile) := by
  have hleft : (listed d.files home ending).Nodup := (nodup_namesIn h.housed.houses.distinct home).filter _
  have hright : (shelf.names.map artifactFile).Nodup := by
    refine h.distinct.map_on fun name hname other hother heq => ?_
    exact hkeys (h.named name hname) (h.named other hother) (artifactFile_inj heq)
  refine (List.perm_ext_iff_of_nodup hleft hright).mpr fun file => ?_
  rw [mem_listed, List.mem_map]
  constructor
  · rintro ⟨hheld, hends⟩
    obtain ⟨name, hname, rfl⟩ := (h.housed.kept file hheld).ends_iff.mp hends
    rw [h.isSome_held hname, Table.has_iff] at hheld
    exact ⟨name, hheld, rfl⟩
  · rintro ⟨name, hname, rfl⟩
    refine ⟨?_, ends_artifactFile name⟩
    rw [h.isSome_held (h.named name hname), Table.has_iff]
    exact hname

theorem stem_artifactFile (name : Text) : Path.stem ending (artifactFile name) = Digest.ofText name := by
  obtain ⟨hlength, -⟩ := artifactFile_plain name
  have hsuffix : ending.isSuffixOf (artifactFile name) := List.isSuffixOf_iff_suffix.mpr (ends_artifactFile name)
  have hlong : (artifactFile name).length > ending.length := by
    rw [hlength]
    decide
  rw [Path.stem, if_pos ⟨hlong, hsuffix⟩, artifactFile, List.length_append, Nat.add_sub_cancel, List.take_left']
  rfl

/-- The files of the artifacts that are older than an age are told from the others by their times. -/
theorem runFrom_isOlder (h : Holds s home names shelf d) (hname : name ∈ shelf.names) (age : Age) :
    runFrom (s.isOlder age (artifactFile name)) d = (.ok (s.isPassed d.files age name), d) := by
  obtain ⟨e, he⟩ := Table.mem_names_iff.mp hname
  obtain ⟨time, -, hstat⟩ := h.stat_artifact he
  have hask : runFrom (Work.ask fun f => f.stat (s.directory.child (artifactFile name))) d =
      (.ok (.file e.text time), d) := runFrom_ask_ok hstat
  rw [isOlder, runFrom_bind_ok (runFrom_get d), runFrom_bind_ok hask, isPassed, artifactTime, hstat]
  rfl

/-- What `purge` looks for: the digests of the names whose artifacts are older than an age. -/
theorem Holds.stale (hkeys : Set.InjOn Digest.ofText names) (h : Holds s home names shelf d) (age : Age) :
    ∃ files old, runFrom (s.namesEnding ending) d = (.ok files, d) ∧
      runFrom (files.filterM (s.isOlder age)) d = (.ok old, d) ∧
      (old.map (Path.stem ending)).eraseDups.Perm
        ((shelf.names.filter (s.isPassed d.files age)).map Digest.ofText) := by
  obtain ⟨files, hfiles⟩ : ∃ files, files = listed d.files home ending := ⟨_, rfl⟩
  have hperm : files.Perm (shelf.names.map artifactFile) := hfiles ▸ h.artifacts_perm hkeys
  -- what a file is chosen by, in such a form that for an artifact it is the age of the artifact
  obtain ⟨choose, hchoose⟩ : ∃ choose : Text → Bool, ∀ name ∈ shelf.names,
      choose (artifactFile name) = s.isPassed d.files age name :=
    ⟨fun file => age.isPassed d.files.now (match d.files.stat (s.directory.child file) with
      | .ok e => e.time
      | .error _ => 0), fun name _ => rfl⟩
  have hold : ∀ file ∈ files, runFrom (s.isOlder age file) d = (.ok (choose file), d) := by
    intro file hfile
    obtain ⟨name, hname, rfl⟩ := List.mem_map.mp (hperm.mem_iff.mp hfile)
    rw [runFrom_isOlder h hname, hchoose name hname]
  have hstale : ((files.filter choose).map (Path.stem ending)).Perm
      ((shelf.names.filter (s.isPassed d.files age)).map Digest.ofText) := by
    refine ((hperm.filter choose).map _).trans (List.Perm.of_eq ?_)
    rw [List.filter_map, List.map_map]
    have hsame : shelf.names.filter (choose ∘ artifactFile) = shelf.names.filter (s.isPassed d.files age) :=
      List.filter_congr hchoose
    rw [hsame]
    exact List.map_congr_left fun name _ => stem_artifactFile name
  have hdistinct : ((files.filter choose).map (Path.stem ending)).Nodup := by
    refine hstale.nodup_iff.mpr ((h.distinct.filter _).map_on fun name hname other hother heq => ?_)
    exact hkeys (h.named name (List.mem_of_mem_filter hname)) (h.named other (List.mem_of_mem_filter hother)) heq
  refine ⟨files, files.filter choose, ?_, runFrom_filterM hold, ?_⟩
  · rw [hfiles, runFrom_namesEnding h.housed]
  · rwa [eraseDups_of_nodup hdistinct]

/-- The program that a shelf has for a name: what the text of its artifact writes. -/
def Shelf.program (s : Store) (shelf : Shelf) (name : Text) : Except Error (List Script.Located) :=
  match shelf.get? name with
  | none => .error (.fault (fault (s.artifactPath name) .missing))
  | some e => (Script.parse (unifyBreaks e.text)).mapError fun flaw => .fault (flawOf (s.artifactPath name) flaw)

/-- A store answers every call as the map does, and the map is changed as it should be. -/
structure Answers (s : Store) (names : Set Text) (shelf : Shelf) (d : Disk) : Prop where
  distinct : shelf.names.Nodup
  /-- The manifest tells of each name that is held, and of no other. -/
  manifest : ∃ m, runFrom s.manifest d = (.ok m, d) ∧ m.names.Nodup ∧
    ∀ name, m.get? name = (shelf.get? name).map Stored.known
  /-- The directory has the artifact of each name that is held, and no other. -/
  artifacts : ∃ files, runFrom (s.namesEnding ending) d = (.ok files, d) ∧ files.Perm (shelf.names.map artifactFile)
  /-- The artifact of a name that is held has the text that the map has, and the time that a purge goes by. -/
  artifact : ∀ name e, shelf.get? name = some e →
    d.files.stat (s.artifactPath name) = .ok (.file e.text (s.artifactTime d.files name))
  read : ∀ name e, shelf.get? name = some e → runFrom (s.read name) d = (.ok (unifyBreaks e.text), d)
  load : ∀ name ∈ names, (runFrom (s.load name) d).1.map Loaded.program = shelf.program s name
  write : ∀ name ∈ names, ∀ program dependencies source, s.sourceIn d.files name = .ok source →
    (runFrom (s.write name program dependencies) d).1 = .ok (s.artifactPath name)
  forget : ∀ name ∈ names, (runFrom (s.forget name) d).1 = .ok (if shelf.has name then 1 else 0)
  purge : ∀ age, (runFrom (s.purge age) d).1 = .ok (shelf.names.filter (s.isPassed d.files age)).length
  clear : (runFrom s.clear d).1 = .ok shelf.length
  /-- A name is bound to the text, the sorted distinct dependencies and the time of its last write. -/
  written : ∀ name program dependencies source, s.sourceIn d.files name = .ok source →
    ∃ e, (shelf.behind s d.files (.write name program dependencies)).get? name = some e ∧
      e.text = artifactText name source e.dependencies program ∧ e.dependencies.Pairwise (· < ·) ∧
      (∀ dependency, dependency ∈ e.dependencies ↔ dependency ∈ dependencies) ∧ e.writtenAt = d.files.now
  /-- Exactly the names whose artifacts are older are purged. -/
  purged : ∀ age name, name ∈ (shelf.behind s d.files (.purge age)).names ↔
    name ∈ shelf.names ∧ s.isPassed d.files age name = false
  /-- A call about one name leaves every other as it is. -/
  apart : ∀ c name other, c.names = [name] → other ≠ name →
    (shelf.behind s d.files c).get? other = shelf.get? other

end Stencil.Store
