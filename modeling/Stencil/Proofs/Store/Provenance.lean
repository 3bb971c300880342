import Stencil.Proofs.Compile.Visit
import Stencil.Proofs.Files.Search
import Stencil.Proofs.Store.Elementary

/-!
# Where artifacts come from

An artifact says nothing of the file it was compiled from that could be relied on later, and whether it is fresh is judged
by times alone.  What can be relied on is told here: each artifact was made from the text of a file that was the first one
of its name to be found, and whatever has been written to the files of the name since then is newer than the artifact.

* `Making` — how an artifact came about; `Watch` — a store and a name whose artifact is watched.
* `Explains` — a making accounts for a text and a time, as far as the files tell.
* `Tidy` — the disk of a store in which every artifact and every program in use is accounted for.
* `Tended` — work on the store keeps the disk tidy.
-/

namespace Stencil.Store

open Files Compiler

/-- How an artifact came about: the template, what the artifact says of its source and of what it includes, the file and
the text that were read, and the source under a name that was translated. -/
structure Making where
  name : Text
  header : Text
  includes : List Text
  file : Path
  source : Text
  met : Text × Text
  made : Compiled

/-- The text of the artifact. -/
def Making.artifact (m : Making) : Text := artifactText m.name m.header m.includes m.made.program

/-- A store and a name whose artifact is watched, from a current directory. -/
structure Watch where
  store : Store
  registry : Registry
  name : Text
  here : List Text

/-- How the names of the files end that a store keeps beside the sources. -/
def Owned (last : Text) : Prop := ending <:+ last ∨ lockEnding <:+ last ∨ last = "manifest.json"

namespace Watch

/-- The place of the store's directory. -/
def home (w : Watch) : List Text := placeOf w.here w.store.directory

/-- The place of the artifact. -/
def spot (w : Watch) : List Text := w.home ++ [Digest.ofText w.name ++ ending]

/-- The paths where the source of the name may be. -/
def candidates (w : Watch) : List Path := (w.store.finder.candidates w.name).toOption.getD []

/-- The place of a source of the name. -/
def IsSource (w : Watch) (place : List Text) : Prop := ∃ p ∈ w.candidates, placeOf w.here p = place

/-- Nothing on the way to a path is the artifact. -/
def Off (w : Watch) (p : Path) : Prop := ∀ k, placeOf w.here { p with parts := p.parts.take k } ≠ w.spot

/-- The artifact is off the way to the store's directory, the sources of the name and what the store keeps are apart, and
paths lead straight down from the roots to the sources. -/
structure Laid (w : Watch) : Prop where
  aside : w.Off w.store.directory
  below : ∀ p, w.store.finder.pathFor w.name = .ok p → ['.', '.'] ∉ p.parts ∧ p.root = []
  apart : ∀ last, Owned last → ¬ w.IsSource (w.home ++ [last])
  roots : ∀ r ∈ w.store.finder.roots, '\x00' ∉ r.text

end Watch

variable {w : Watch} {m : Making} {f f' : Files} {d : Disk} {content : Text} {t last : Int} {place : List Text}

/-- A path that leads straight down, but not to the artifact or below it, is off the artifact. -/
theorem Watch.off {p : Path} (hup : ['.', '.'] ∉ p.parts) (h : ¬ w.spot <+: placeOf w.here p) : w.Off p := by
  intro k heq
  have hstraight : ['.', '.'] ∉ p.parts.take k := fun hin => hup (List.mem_of_mem_take hin)
  refine h ⟨p.parts.drop k, ?_⟩
  rw [← heq, placeOf, placeOf, ahead_straight hup, ahead_straight hstraight, List.append_assoc, List.take_append_drop]
  rfl

/-- With ordinary paths and endings the sources and the store's files are out of each other's way. -/
theorem Watch.laid (hup : ['.', '.'] ∉ w.store.directory.parts) (hslash : '/' ∉ w.store.finder.ending)
    (hended : ∀ last, Owned last → ¬ w.store.finder.ending <:+ last)
    (hroots : ∀ r ∈ w.store.finder.roots, '\x00' ∉ r.text) : w.Laid where
  aside := Watch.off hup fun hbelow => by
    have hlength := hbelow.length_le
    rw [Watch.spot, Watch.home, List.length_append, List.length_singleton] at hlength
    omega
  below p hp := by
    obtain ⟨hroot, hstraight, -⟩ := Finder.pathFor_eq_ok hslash hp
    exact ⟨hstraight, hroot⟩
  apart last hlast hsource := by
    obtain ⟨p, hp, hplace⟩ := hsource
    rw [Watch.candidates] at hp
    cases hps : w.store.finder.candidates w.name with
    | error e =>
      rw [hps] at hp
      cases hp
    | ok ps =>
      rw [hps] at hp
      obtain ⟨path, hpath, rfl⟩ := Finder.candidates_eq_ok hps
      obtain ⟨r, -, rfl⟩ := List.mem_map.mp hp
      obtain ⟨hroot, hstraight, above, name, hparts⟩ := Finder.pathFor_eq_ok hslash hpath
      rw [placeOf_join hstraight hroot, hparts, ← List.append_assoc] at hplace
      obtain ⟨-, hname⟩ := List.append_inj' hplace rfl
      rw [List.singleton_inj] at hname
      exact hended last hlast (hname ▸ List.suffix_append _ _)
  roots := hroots

/-! ## Accounting for artifacts -/

/-- What the files say of a making, as of a time: the file is the first one of the name that is as old, and its text is
the one that was read if it is as old. -/
structure Backed (w : Watch) (m : Making) (f : Files) (t : Int) : Prop where
  first : ∃ earlier later, w.store.finder.candidates w.name = .ok (earlier ++ m.file :: later) ∧
    ∀ p ∈ earlier, ∀ c τ, f.entryAt? (placeOf w.here p) = some (.file c τ) → t < τ
  text : ∀ c τ, f.entryAt? (placeOf w.here m.file) = some (.file c τ) → τ ≤ t → unifyBreaks c = m.source

/-- A making accounts for a text of a time. -/
structure Explains (w : Watch) (m : Making) (f : Files) (content : Text) (t : Int) : Prop where
  artifact : m.artifact = content
  digest : Digest.ofText m.name = Digest.ofText w.name
  key : Compiler.key m.met.1 m.met.2 = Compiler.key m.source m.name
  made : translation w.registry m.met.1 m.met.2 = .ok m.made
  backed : m.name = w.name → Backed w m f t

/-- A making accounts for a program that has been read. -/
def Accounted (w : Watch) (last : Int) (f : Files) (l : Loaded) : Prop :=
  ∃ m, Script.parse (unifyBreaks m.artifact) = .ok l.program ∧ l.time ≤ last ∧ Explains w m f m.artifact l.time

/-- What has been written to the sources of the name is newer. -/
def Newer (w : Watch) (last : Int) (f f' : Files) : Prop :=
  ∀ place, w.IsSource place → ∀ c τ, f'.entryAt? place = some (.file c τ) → f.entryAt? place = some (.file c τ) ∨ last < τ

theorem isSource_of_candidates {ps : List Path} {p : Path} (h : w.store.finder.candidates w.name = .ok ps) (hp : p ∈ ps) :
    w.IsSource (placeOf w.here p) := by
  refine ⟨p, ?_, rfl⟩
  rw [Watch.candidates, h]
  exact hp

/-- What is written later does not matter. -/
theorem Backed.newer (h : Backed w m f t) (hn : Newer w last f f') (ht : t ≤ last) : Backed w m f' t := by
  obtain ⟨earlier, later, hps, hearlier⟩ := h.first
  refine ⟨⟨earlier, later, hps, fun p hp c τ hc => ?_⟩, fun c τ hc hτ => ?_⟩
  · rcases hn _ (isSource_of_candidates hps (by simp [hp])) c τ hc with hc | hlast
    · exact hearlier p hp c τ hc
    · omega
  · rcases hn _ (isSource_of_candidates hps (by simp)) c τ hc with hc | hlast
    · exact h.text c τ hc hτ
    · omega

theorem Explains.newer (h : Explains w m f content t) (hn : Newer w last f f') (ht : t ≤ last) :
    Explains w m f' content t :=
  { h with backed := fun hname => (h.backed hname).newer hn ht }

/-! ## Tidy disks -/

/-- All files are as old as `last` at most, and what is stored or in use under the name is accounted for. -/
structure Tidy (w : Watch) (last : Int) (d : Disk) : Prop where
  here : d.files.here = w.here
  tree : d.files.IsTree
  roots : ∀ r ∈ w.store.finder.roots, d.files.look r = .ok .directory
  times : ∀ place c τ, d.files.entryAt? place = some (.file c τ) → τ ≤ last
  clock : last ≤ d.files.now
  vacant : d.files.entryAt? w.spot ≠ some .directory
  artifact : ∀ c τ, d.files.entryAt? w.spot = some (.file c τ) → ∃ m, Explains w m d.files c τ
  program : ∀ l, d.programs.get? w.name = some l → Accounted w last d.files l

theorem Tidy.mono {last' : Int} (h : Tidy w last d) (hl : last ≤ last') (hc : last' ≤ d.files.now) : Tidy w last' d :=
  { h with
    times := fun place c τ hp => by
      have := h.times place c τ hp
      omega
    clock := hc
    program := fun l hl' => by
      obtain ⟨m, hm, ht, he⟩ := h.program l hl'
      exact ⟨m, hm, by omega, he⟩ }

/-- A root stays a directory as long as all directories stay. -/
theorem look_directory {r : Path} (hhere : f'.here = f.here)
    (hdirs : ∀ place, f.entryAt? place = some .directory → f'.entryAt? place = some .directory)
    (h : f.look r = .ok .directory) : f'.look r = .ok .directory := by
  obtain ⟨hplace, hentry⟩ := look_eq_ok h
  refine look_of_place ?_ (hdirs _ hentry)
  rw [place] at hplace ⊢
  split at hplace
  · cases hplace
  case isFalse hshort =>
    rw [if_neg hshort, hhere]
    exact walk_mono hdirs hplace

/-- Other files with the same directories: what is new is stamped with the time, and accounted for where it has to be. -/
theorem Tidy.files (h : Tidy w last d) {last' : Int} (hhere : f'.here = d.files.here) (htree : f'.IsTree)
    (hdirs : ∀ place, d.files.entryAt? place = some .directory → f'.entryAt? place = some .directory)
    (hlast : last ≤ last') (hclock : last' ≤ f'.now) (hvacant : f'.entryAt? w.spot ≠ some .directory)
    (hnewer : Newer w last d.files f')
    (hfiles : ∀ place c τ, f'.entryAt? place = some (.file c τ) → d.files.entryAt? place = some (.file c τ) ∨
      τ ≤ last' ∧ (place = w.spot → ∃ m, Explains w m f' c τ)) :
    Tidy w last' { d with files := f' } where
  here := hhere.trans h.here
  tree := htree
  roots r hr := look_directory hhere hdirs (h.roots r hr)
  times place c τ hp := by
    rcases hfiles place c τ hp with hold | ⟨hτ, -⟩
    · have := h.times place c τ hold
      omega
    · exact hτ
  clock := hclock
  vacant := hvacant
  artifact c τ hp := by
    rcases hfiles _ c τ hp with hold | ⟨-, hspot⟩
    · obtain ⟨m, hm⟩ := h.artifact c τ hold
      exact ⟨m, hm.newer hnewer (h.times _ c τ hold)⟩
    · exact hspot rfl
  program l hl := by
    obtain ⟨m, hm, ht, he⟩ := h.program l hl
    exact ⟨m, hm, by omega, he.newer hnewer ht⟩

/-! ## Single changes -/

theorem owned_artifact (name : Text) : Owned (Digest.ofText name ++ ending) := .inl (List.suffix_append _ _)

theorem Watch.Laid.spot (hw : w.Laid) : ¬ w.IsSource w.spot := hw.apart _ (owned_artifact w.name)

/-- Changes away from the sources of the name. -/
theorem newer_set {e : Entry} (h : ¬ w.IsSource place) : Newer w last f (f.set place e) :=
  fun q hq _ _ hc => .inl (file_of_set (fun heq : q = place => h (heq ▸ hq)) hc)

/-- A file is written: beside the sources of the name, or to one of them at a time of its own. -/
theorem Tidy.write (hw : w.Laid) (h : Tidy w last d) (hp : d.files.entryAt? place ≠ some .directory)
    (hparent : d.files.entryAt? place.dropLast = some .directory)
    (hside : ¬ w.IsSource place ∨ last < d.files.now ∧ place ≠ w.spot)
    (hspot : place = w.spot → ∃ m, Explains w m d.files content d.files.now) :
    Tidy w d.files.now { d with files := d.files.set place (.file content d.files.now) } := by
  have hnodir : d.files.entryAt? place = some .directory → Entry.file content d.files.now = .directory :=
    fun hdir => absurd hdir hp
  have hnil : place ≠ [] := by
    rintro rfl
    exact hp rfl
  refine h.files rfl (h.tree.set hparent hnodir) (fun q hq => directory_set hnodir hq) h.clock (Int.le_refl _) ?_ ?_ ?_
  · rw [entryAt?_set]
    split
    case isTrue hnil => exact absurd hnil (by simp [Watch.spot])
    · split
      · exact fun hfile => by cases hfile
      · exact h.vacant
  · rcases hside with hside | ⟨hlast, -⟩
    · exact newer_set hside
    · intro q hq c τ hc
      by_cases heq : q = place
      · rw [heq, entryAt?_set, if_neg hnil, if_pos rfl] at hc
        cases hc
        exact .inr hlast
      · exact .inl (file_of_set heq hc)
  · intro q c τ hc
    by_cases heq : q = place
    · rw [heq, entryAt?_set, if_neg hnil, if_pos rfl] at hc
      cases hc
      refine .inr ⟨Int.le_refl _, fun hq => ?_⟩
      have hplace : place = w.spot := heq ▸ hq
      obtain ⟨m, hm⟩ := hspot hplace
      exact ⟨m, hm.newer (newer_set (hplace ▸ hw.spot)) (Int.le_refl _)⟩
    · exact .inl (file_of_set heq hc)

/-- A directory is made. -/
theorem Tidy.make (h : Tidy w last d)
    (hparent : d.files.entryAt? place.dropLast = some .directory) (hspot : place ≠ w.spot) :
    Tidy w last { d with files := d.files.set place .directory } := by
  refine h.files rfl (h.tree.set hparent fun _ => rfl) (fun q hq => directory_set (fun _ => rfl) hq) (Int.le_refl _)
    h.clock ?_ (fun q hq c τ hc => .inl (file_of_set_directory hc)) fun q c τ hc => .inl (file_of_set_directory hc)
  rw [entryAt?_set]
  split
  case isTrue hnil => exact absurd hnil (by simp [Watch.spot])
  · rw [if_neg (Ne.symm hspot)]
    exact h.vacant

/-- A file is removed. -/
theorem Tidy.erase (h : Tidy w last d) {c : Text} {τ : Int} (hp : d.files.entryAt? place = some (.file c τ)) :
    Tidy w last { d with files := d.files.erase place } := by
  have hnodir : d.files.entryAt? place ≠ some .directory := by
    rw [hp]
    exact fun hdir => by cases hdir
  refine h.files rfl (h.tree.erase hnodir) (fun q hq => directory_erase hnodir hq) (Int.le_refl _) h.clock ?_
    (fun q hq c τ hc => .inl (file_of_erase hc)) fun q c τ hc => .inl (file_of_erase hc)
  intro hdir
  rw [entryAt?_erase] at hdir
  split at hdir
  case isTrue hnil => exact absurd hnil (by simp [Watch.spot])
  · split at hdir
    · cases hdir
    · exact h.vacant hdir

/-- Making directories off the artifact changes no files. -/
theorem Tidy.makeDirectory (h : Tidy w last d) {p : Path} (hp : w.Off p) (hg : d.files.makeDirectory p = .ok f') :
    Tidy w last { d with files := f' } ∧ f'.now = d.files.now ∧
      ∀ place c τ, f'.entryAt? place = some (.file c τ) → d.files.entryAt? place = some (.file c τ) := by
  refine makeDirectory_keeps (I := fun f' => Tidy w last { d with files := f' } ∧ f'.now = d.files.now ∧
    ∀ place c τ, f'.entryAt? place = some (.file c τ) → d.files.entryAt? place = some (.file c τ)) (fun k g g' hk hmade => ?_)
    ⟨h, rfl, fun _ _ _ hc => hc⟩ hg
  obtain ⟨htidy, hnow, hsame⟩ := hk
  obtain ⟨place, hplace, hnone, hparent, rfl⟩ := makeOne_eq_ok hmade
  have hspot : place ≠ w.spot := by
    rw [place_eq_ok hplace, htidy.here]
    exact hp k
  exact ⟨htidy.make hparent hspot, hnow, fun q c τ hc => hsame q c τ (file_of_set_directory hc)⟩

/-! ## Work on the store -/

/-- The disk is tidy, and since the files `f` nothing has been written to the sources of the name; an artifact that has
been written is of this time. -/
structure Tended (w : Watch) (f : Files) (d : Disk) : Prop where
  tidy : Tidy w f.now d
  now : d.files.now = f.now
  still : ∀ place, w.IsSource place → ∀ c τ, d.files.entryAt? place = some (.file c τ) → f.entryAt? place = some (.file c τ)
  stamp : ∀ c τ, d.files.entryAt? w.spot = some (.file c τ) → f.entryAt? w.spot = some (.file c τ) ∨ τ = f.now

theorem Tidy.tended (h : Tidy w d.files.now d) : Tended w d.files d := ⟨h, rfl, fun _ _ _ _ hc => hc, fun _ _ hc => .inl hc⟩

theorem Tended.newer (h : Tended w f d) (last : Int) : Newer w last f d.files :=
  fun place hp c τ hc => .inl (h.still place hp c τ hc)

theorem Tended.erase (h : Tended w f d) {c : Text} {τ : Int} (hp : d.files.entryAt? place = some (.file c τ)) :
    Tended w f { d with files := d.files.erase place } :=
  ⟨h.tidy.erase hp, h.now, fun q hq c τ hc => h.still q hq c τ (file_of_erase hc),
    fun c τ hc => h.stamp c τ (file_of_erase hc)⟩

theorem owned_ne_up {last : Text} (h : Owned last) : last ≠ ['.', '.'] := by
  rintro rfl
  rcases h with h | h | h
  · exact absurd h.length_le (by decide)
  · exact absurd h.length_le (by decide)
  · cases h

/-- A file of the store's own is written. -/
theorem Tended.put (hw : w.Laid) (h : Tended w f d) {name : Text} (hname : Owned name)
    (hg : d.files.put (w.store.directory.child name) content d.files.now = .ok f')
    (hspot : name = Digest.ofText w.name ++ ending → ∃ m, Explains w m f content f.now) :
    Tended w f { d with files := f' } := by
  obtain ⟨place, hplace, hentry, hparent, rfl⟩ := put_eq_ok hg
  have hhome : place = w.home ++ [name] := by
    rw [place_eq_ok hplace, h.tidy.here, placeOf_child (owned_ne_up hname)]
    rfl
  have hside : ¬ w.IsSource place := hhome ▸ hw.apart name hname
  refine ⟨?_, h.now, fun q hq c τ hc => ?_, fun c τ hc => ?_⟩
  · rw [← h.now]
    refine h.tidy.write hw hentry hparent (.inl hside) fun heq => ?_
    rw [hhome, Watch.spot, List.append_cancel_left_eq, List.singleton_inj] at heq
    obtain ⟨m, hm⟩ := hspot heq
    rw [h.now]
    exact ⟨m, hm.newer (h.newer f.now) (Int.le_refl _)⟩
  · exact h.still q hq c τ (file_of_set (fun heq : q = place => hside (heq ▸ hq)) hc)
  · by_cases heq : w.spot = place
    · rw [heq, entryAt?_set, if_neg (by rw [hhome]; simp), if_pos rfl] at hc
      cases hc
      exact .inr h.now
    · exact h.stamp c τ (file_of_set heq hc)

/-- Making the store's directory. -/
theorem Tended.makeDirectory (hw : w.Laid) (h : Tended w f d) (hg : d.files.makeDirectory w.store.directory = .ok f') :
    Tended w f { d with files := f' } := by
  obtain ⟨htidy, hnow, hsame⟩ := h.tidy.makeDirectory hw.aside hg
  exact ⟨htidy, hnow.trans h.now, fun q hq c τ hc => h.still q hq c τ (hsame q c τ hc),
    fun c τ hc => h.stamp c τ (hsame _ c τ hc)⟩

theorem owned_lock (name : Text) : Owned (name ++ lockEnding) := .inr (.inl (List.suffix_append _ _))

theorem lock_ne_artifact (name key : Text) : name ++ lockEnding ≠ key ++ ending := by
  intro h
  have hlast := congrArg List.getLast? h
  simp [lockEnding, ending] at hlast

/-- What the store does to the files keeps the disk tidy, if what becomes an artifact is accounted for. -/
theorem FileChange.tended {Good : Text → Text → Prop} {g : Files → Except Fault Files} (hw : w.Laid)
    (hgood : ∀ name content, Good name content → Digest.ofText name = Digest.ofText w.name →
      ∃ m, Explains w m f content f.now)
    (hc : FileChange w.store Good g) (h : Tended w f d) (hg : g d.files = .ok f') :
    Tended w f { d with files := f' } := by
  cases hc with
  | directory => exact h.makeDirectory hw hg
  | lock name =>
    dsimp only at hg
    split at hg
    · cases hg
      exact h
    · exact h.put hw (owned_lock name) hg fun heq => absurd heq (lock_ne_artifact _ _)
  | manifest content =>
    refine h.put hw (.inr (.inr rfl)) hg fun heq => ?_
    have hlast := congrArg List.getLast? heq
    simp [ending] at hlast
  | artifact name content hgood' =>
    refine h.put hw (owned_artifact name) hg fun heq => hgood name content hgood' ?_
    exact List.append_cancel_right heq
  | discard name =>
    rcases discard_eq_ok hg with rfl | ⟨place, c, τ, hentry, rfl⟩
    · exact h
    · exact h.erase hentry
  | remove name =>
    obtain ⟨place, c, τ, -, hentry, rfl⟩ := remove_eq_ok hg
    exact h.erase hentry

/-! ## Programs in use -/

theorem Watch.placeOf_artifactPath (w : Watch) : placeOf w.here (w.store.artifactPath w.name) = w.spot :=
  placeOf_child (owned_ne_up (owned_artifact w.name)) _ _

/-- Reading a program from the artifact of a name. -/
theorem Tidy.readProgram (h : Tidy w last d) (name : Text) {e : Entry}
    (he : d.files.look (w.store.artifactPath name) = .ok e) :
    let r := runFrom (load.readProgram name (w.store.artifactPath name) e.time) d
    Tidy w last r.2 ∧ r.2.files = d.files ∧
      ∀ l, r.1 = .ok l → name = w.name → Accounted w last d.files l := by
  intro r
  have hr : r = runFrom (load.readProgram name (w.store.artifactPath name) e.time) d := rfl
  rw [load.readProgram, runFrom_bind, runFrom_ask] at hr
  cases htext : d.files.read (w.store.artifactPath name) with
  | error fault =>
    rw [htext] at hr
    rw [hr]
    exact ⟨h, rfl, fun l hl => by cases hl⟩
  | ok text =>
    rw [htext] at hr
    obtain ⟨c, τ, hlook, rfl⟩ := read_eq_ok htext
    rw [hlook] at he
    obtain rfl := Except.ok.inj he
    cases hparse : Script.parse (unifyBreaks c) with
    | error flaw =>
      simp only [hparse] at hr
      rw [hr]
      exact ⟨h, rfl, fun l hl => by cases hl⟩
    | ok program =>
      simp only [hparse] at hr
      have haccounted : name = w.name → Accounted w last d.files ⟨τ, d.serial, program⟩ := by
        rintro rfl
        have hentry := (look_eq_ok hlook).2
        rw [h.here, w.placeOf_artifactPath] at hentry
        obtain ⟨m, hm⟩ := h.artifact c τ hentry
        have hartifact := hm.artifact
        refine ⟨m, by rw [hartifact, hparse], h.times _ c τ hentry, ?_⟩
        rw [hartifact]
        exact hm
      rw [hr]
      refine ⟨⟨h.here, h.tree, h.roots, h.times, h.clock, h.vacant, h.artifact, fun l hl => ?_⟩, rfl, fun l hl hname => ?_⟩
      · change (d.programs.put name ⟨τ, d.serial, program⟩).get? w.name = some l at hl
        rw [Table.get?_put] at hl
        split at hl
        case isTrue hname =>
          obtain rfl := Option.some.inj hl
          exact haccounted hname
        case isFalse => exact h.program l hl
      · obtain rfl := Except.ok.inj hl
        exact haccounted hname

/-- Loading the program of a name. -/
theorem Tidy.load (h : Tidy w last d) (name : Text) :
    let r := runFrom (w.store.load name) d
    Tidy w last r.2 ∧ r.2.files = d.files ∧ ∀ l, r.1 = .ok l → name = w.name → Accounted w last d.files l := by
  intro r
  have hr : r = runFrom (w.store.load name) d := rfl
  rw [Store.load, runFrom_bind, runFrom_ask] at hr
  cases hstat : d.files.stat (w.store.artifactPath name) with
  | error fault =>
    rw [hstat] at hr
    rw [hr]
    exact ⟨h, rfl, fun l hl => by cases hl⟩
  | ok e =>
    have hread := h.readProgram name (stat_eq_ok hstat)
    rw [hstat] at hr
    dsimp only at hr
    rw [runFrom_bind, runFrom_get] at hr
    dsimp only at hr
    cases hfound : d.programs.get? name with
    | none =>
      rw [hfound] at hr
      rw [hr]
      exact hread
    | some found =>
      rw [hfound] at hr
      dsimp only at hr
      split at hr
      · rw [hr]
        refine ⟨h, rfl, fun l hl hname => h.program l ?_⟩
        rw [← hname, hfound, ← Except.ok.inj hl]
      · rw [hr]
        exact hread

/-- Work on the store keeps the disk tidy, if what becomes an artifact is accounted for. -/
theorem tended_worked {Good : Text → Text → Prop} {α : Type} {act : Work α} (hw : w.Laid)
    (hgood : ∀ name content, Good name content → Digest.ofText name = Digest.ofText w.name →
      ∃ m, Explains w m f content f.now)
    (h : Worked w.store Good act) : Keeps (Stencil.Kept (Tended w f)) act := by
  refine h.keeps fun hact => ?_
  intro d hd
  have ht := hd.tidy
  cases hact with
  | look => exact hd
  | report level message =>
    exact ⟨⟨ht.here, ht.tree, ht.roots, ht.times, ht.clock, ht.vacant, ht.artifact, ht.program⟩, hd.now, hd.still,
      hd.stamp⟩
  | change g hg =>
    rw [runFrom_change]
    cases hfiles : g d.files with
    | error fault => exact hd
    | ok f' => exact hg.tended hw hgood hd hfiles
  | drop g hg =>
    exact ⟨⟨ht.here, ht.tree, ht.roots, ht.times, ht.clock, ht.vacant, ht.artifact,
      fun l hl => ht.program l (hg _ _ _ hl)⟩, hd.now, hd.still, hd.stamp⟩
  | load name =>
    obtain ⟨htidy, hfiles, -⟩ := ht.load name
    refine ⟨htidy, by rw [hfiles, hd.now], ?_, ?_⟩
    · rw [hfiles]
      exact hd.still
    · rw [hfiles]
      exact hd.stamp

/-! ## Work beside the store -/

/-- The time goes on. -/
theorem Tidy.later (h : Tidy w last d) {n : Int} (hn : d.files.now ≤ n) :
    Tidy w last { d with files := { d.files with now := n } } :=
  h.files rfl h.tree (fun _ hq => hq) (Int.le_refl _) (Int.le_trans h.clock hn) h.vacant (fun _ _ _ _ hc => .inl hc)
    fun _ _ _ hc => .inl hc

theorem Watch.Off.parent {p : Path} (hp : w.Off p) : w.Off p.parent := by
  intro k
  rw [Path.parent, List.dropLast_eq_take, List.take_take]
  exact hp _

theorem Watch.Off.self {p : Path} (hp : w.Off p) : placeOf w.here p ≠ w.spot := by
  have h := hp p.parts.length
  rwa [List.take_length] at h

/-- A file is written off the artifact, later than everything else. -/
theorem Tidy.replace (hw : w.Laid) (h : Tidy w last d) (hlast : last < d.files.now) {p : Path} (hp : w.Off p)
    (content : Text) :
    let d' := (runFrom (Store.replace p content) d).2
    Tidy w d'.files.now d' := by
  intro d'
  have hd' : d' = (runFrom (Store.replace p content) d).2 := rfl
  rw [Store.replace, runFrom_bind, runFrom_change] at hd'
  cases hmade : d.files.makeDirectory p.parent with
  | error fault =>
    rw [hmade] at hd'
    rw [hd']
    exact h.mono h.clock (Int.le_refl _)
  | ok f' =>
    obtain ⟨htidy, hnow, -⟩ := h.makeDirectory hp.parent hmade
    rw [hmade] at hd'
    dsimp only at hd'
    rw [runFrom_change] at hd'
    cases hput : f'.put p content f'.now with
    | error fault =>
      rw [hput] at hd'
      rw [hd']
      exact htidy.mono htidy.clock (Int.le_refl _)
    | ok f'' =>
      rw [hput] at hd'
      obtain ⟨place, hplace, hentry, hparent, rfl⟩ := put_eq_ok hput
      have hspot : place ≠ w.spot := by
        rw [place_eq_ok hplace, htidy.here]
        exact hp.self
      rw [hd']
      exact htidy.write hw hentry hparent (.inr ⟨by rw [hnow]; exact hlast, hspot⟩) fun heq => absurd heq hspot

/-- A file is deleted. -/
theorem Tidy.delete (h : Tidy w last d) (p : Path) :
    let d' := (runFrom (Work.change fun f => f.remove p) d).2
    Tidy w last d' ∧ d'.files.now = d.files.now := by
  intro d'
  have hd' : d' = (runFrom (Work.change fun f => f.remove p) d).2 := rfl
  rw [runFrom_change] at hd'
  cases hremoved : d.files.remove p with
  | error fault =>
    rw [hremoved] at hd'
    rw [hd']
    exact ⟨h, rfl⟩
  | ok f' =>
    rw [hremoved] at hd'
    obtain ⟨place, c, τ, -, hentry, rfl⟩ := remove_eq_ok hremoved
    rw [hd']
    exact ⟨h.erase hentry, rfl⟩

end Stencil.Store
