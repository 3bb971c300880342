import Stencil.Proofs.Files.Home
import Stencil.Proofs.Store.Elementary
import Stencil.Proofs.Store.Manifest

/-!
# The directory of a store

A store keeps an artifact for each name, the manifest, and a lock beside each of these.  Here is what the steps of its
operations do in a directory that holds nothing else.

* `Kept` — the files that a store keeps for some names; they tell names apart, and each may be used in the directory.
* `Housed` — the directory of a store that holds only such files.
* `runFrom_lock`, `runFrom_replace`, `runFrom_discards` — what single steps leave behind.
* `Ledger` — what the manifest tells; `runFrom_manifest` reads it, and `runFrom_updateManifest` changes it and nothing
  else but locks.
-/

namespace Stencil

/-! ## Digests -/

/-- A digest is sixty-four hexadecimal digits. -/
theorem Digest.ofText_eq_map (s : Text) :
    ∃ ds : List Nat, ds.length = 64 ∧ (∀ d ∈ ds, d < 16) ∧ Digest.ofText s = ds.map Nat.digitChar := by
  have hword : ∀ w : Digest.Word, ∃ ds : List Nat, ds.length = 8 ∧ (∀ d ∈ ds, d < 16) ∧
      Text.hex 8 w.toNat = ds.map Nat.digitChar := by
    intro w
    obtain ⟨ds, hlength, hds, htext, -⟩ := Text.hex_eq_map (by omega : 0 < 8) w.toNat_lt
    exact ⟨ds, hlength, hds, htext⟩
  have hwords : ∀ ws : List Digest.Word, ∃ ds : List Nat, ds.length = 8 * ws.length ∧ (∀ d ∈ ds, d < 16) ∧
      (ws.flatMap fun w => Text.hex 8 w.toNat) = ds.map Nat.digitChar := by
    intro ws
    induction ws with
    | nil => exact ⟨[], rfl, by simp, rfl⟩
    | cons w ws ih =>
      obtain ⟨first, hfirst, hfirst', htext⟩ := hword w
      obtain ⟨rest, hrest, hrest', hmore⟩ := ih
      refine ⟨first ++ rest, ?_, ?_, ?_⟩
      · rw [List.length_append, hfirst, hrest, List.length_cons]
        omega
      · intro d hd
        rcases List.mem_append.mp hd with hd | hd
        · exact hfirst' d hd
        · exact hrest' d hd
      · rw [List.flatMap_cons, htext, hmore, List.map_append]
  exact hwords (Digest.digest (s.flatMap Text.utf8)).words

namespace Store

open Files

/-! ## The names of files -/

/-- The file of a name's artifact in the directory. -/
def artifactFile (name : Text) : Text := Digest.ofText name ++ ending

/-- The file of the manifest in the directory. -/
def manifestFile : Text := "manifest.json"

/-- The files that a store keeps for some names. -/
inductive Kept (names : Set Text) : Text → Prop
  | artifact {name : Text} : name ∈ names → Kept names (artifactFile name)
  | manifest : Kept names manifestFile
  | artifactLock {name : Text} : name ∈ names → Kept names (artifactFile name ++ lockEnding)
  | manifestLock : Kept names (manifestFile ++ lockEnding)

/-- The paths in a directory are of a length that is allowed. -/
structure Roomy (dir : Path) : Prop where
  near : Text.utf8Size dir.text + 1 + 72 < pathLimit
  whole : '\x00' ∉ dir.text

variable {s : Store} {home : List Text} {names : Set Text} {f : Files} {d : Disk} {name file : Text}

theorem handy {dir : Path} (hdir : Roomy dir) (hlong : 2 < file.length) (hshort : Text.utf8Size file ≤ 72)
    (hwhole : '\x00' ∉ file) : Handy dir file where
  down := by
    rintro rfl
    exact absurd hlong (by decide)
  short := Nat.le_trans hshort (by decide)
  near := by
    have hle := Path.utf8Size_text_child_le dir file
    have hnear := hdir.near
    omega
  whole := by
    intro hnul
    rcases (Path.nul_mem_text _).mp hnul with hroot | ⟨part, hpart, hnul⟩
    · exact hdir.whole ((Path.nul_mem_text _).mpr (.inl hroot))
    · rcases List.mem_append.mp hpart with hpart | hpart
      · exact hdir.whole ((Path.nul_mem_text _).mpr (.inr ⟨part, hpart, hnul⟩))
      · exact hwhole (List.mem_singleton.mp hpart ▸ hnul)

/-- The file of an artifact has a name of sixty-seven plain characters. -/
theorem artifactFile_plain (name : Text) : (artifactFile name).length = 67 ∧ Text.utf8Size (artifactFile name) = 67 ∧
    '\x00' ∉ artifactFile name := by
  obtain ⟨ds, hlength, hds, htext⟩ := Digest.ofText_eq_map name
  have hdigit : ∀ d : Fin 16, (Text.utf8 (Nat.digitChar d)).length = 1 ∧ Nat.digitChar d ≠ '\x00' := by decide
  have hsize : Text.utf8Size (ds.map Nat.digitChar) = ds.length := by
    have hone : ∀ d ∈ ds, ((fun c => (Text.utf8 c).length) ∘ Nat.digitChar) d = 1 :=
      fun d hd => (hdigit ⟨d, hds d hd⟩).1
    rw [Text.utf8Size_eq_sum, List.map_map, List.map_congr_left hone, List.map_const', List.sum_replicate_nat,
      Nat.mul_one]
  refine ⟨?_, ?_, ?_⟩
  · rw [artifactFile, htext, List.length_append, List.length_map, hlength]
    rfl
  · rw [artifactFile, htext, Text.utf8Size_append, hsize, hlength]
    rfl
  · rw [artifactFile, htext, List.mem_append, not_or]
    refine ⟨fun hmem => ?_, by decide⟩
    obtain ⟨d, hd, hd'⟩ := List.mem_map.mp hmem
    exact (hdigit ⟨d, hds d hd⟩).2 hd'

theorem Kept.handy {dir : Path} (hdir : Roomy dir) (h : Kept names file) : Handy dir file := by
  cases h with
  | @artifact name hname =>
    obtain ⟨hlength, hsize, hnul⟩ := artifactFile_plain name
    exact Store.handy hdir (by omega) (by omega) hnul
  | manifest => exact Store.handy hdir (by decide) (by decide) (by decide)
  | @artifactLock name hname =>
    obtain ⟨hlength, hsize, hnul⟩ := artifactFile_plain name
    have hending : Text.utf8Size lockEnding = 5 := by decide
    refine Store.handy hdir ?_ ?_ ?_
    · rw [List.length_append]
      omega
    · rw [Text.utf8Size_append]
      omega
    · rw [List.mem_append, not_or]
      exact ⟨hnul, by decide⟩
  | manifestLock => exact Store.handy hdir (by decide) (by decide) (by decide)

/-- Artifacts of names with different digests are in different files. -/
theorem artifactFile_inj {other : Text} (h : artifactFile name = artifactFile other) :
    Digest.ofText name = Digest.ofText other := List.append_cancel_right h

/-- A file that is no lock. -/
def NoLock (file : Text) : Prop := ¬ lockEnding <:+ file

theorem ends_artifactFile (name : Text) : ending <:+ artifactFile name := List.suffix_append _ _

/-- What ends like an artifact is no lock. -/
theorem noLock_of_ends (h : ending <:+ file) : NoLock file := by
  intro hlock
  have hboth : ending <:+ lockEnding := List.suffix_of_suffix_length_le h hlock (by decide)
  exact absurd hboth (by decide)

theorem noLock_manifestFile : NoLock manifestFile := by
  unfold NoLock
  decide

theorem artifactFile_ne_manifestFile (name : Text) : artifactFile name ≠ manifestFile := by
  intro h
  have hends : ending <:+ manifestFile := h ▸ ends_artifactFile name
  exact absurd hends (by decide)

/-- The files that end like artifacts are the artifacts. -/
theorem Kept.ends_iff (h : Kept names file) : ending <:+ file ↔ ∃ name ∈ names, file = artifactFile name := by
  constructor
  · intro hends
    have hlock : ∀ other, file ≠ other ++ lockEnding := by
      rintro other rfl
      exact noLock_of_ends hends (List.suffix_append _ _)
    cases h with
    | @artifact name hname => exact ⟨name, hname, rfl⟩
    | manifest => exact absurd hends (by decide)
    | artifactLock => exact absurd rfl (hlock _)
    | manifestLock => exact absurd rfl (hlock _)
  · rintro ⟨name, -, rfl⟩
    exact ends_artifactFile name

/-! ## The directory -/

/-- The directory of a store that holds only what the store keeps for some names. -/
structure Housed (s : Store) (home : List Text) (names : Set Text) (f : Files) : Prop where
  roomy : Roomy s.directory
  houses : f.Houses s.directory home
  kept : ∀ file, (f.held home file).isSome → Kept names file
  /-- The time is of a length that is read back. -/
  clock : Number.isOverlong f.now = false

/-- The files behind the taking of a file's lock. -/
def locked (f : Files) (home : List Text) (file : Text) : Files :=
  match f.held home (file ++ lockEnding) with
  | some (.file ..) => f
  | _ => f.set (home ++ [file ++ lockEnding]) (.file [] f.now)

/-- The files behind the removal of several files. -/
def without (f : Files) (home : List Text) (files : List Text) : Files :=
  files.foldl (fun f file => f.erase (home ++ [file])) f

theorem held_locked {other : Text} (h : NoLock other) : (locked f home file).held home other = f.held home other := by
  unfold locked
  split
  · rfl
  · rw [held_set, if_neg]
    rintro rfl
    exact h (List.suffix_append _ _)

theorem now_locked : (locked f home file).now = f.now := by
  unfold locked
  split <;> rfl

namespace Housed

theorem handy (h : Housed s home names f) (hfile : Kept names file) : Handy s.directory file := hfile.handy h.roomy

theorem set (h : Housed s home names f) (hfile : Kept names file) (content : Text) (time : Int) :
    Housed s home names (f.set (home ++ [file]) (.file content time)) where
  roomy := h.roomy
  houses := h.houses.set file content time
  kept other hother := by
    rw [held_set] at hother
    split at hother
    case isTrue heq => exact heq ▸ hfile
    case isFalse => exact h.kept other hother
  clock := h.clock

theorem erase (h : Housed s home names f) (file : Text) : Housed s home names (f.erase (home ++ [file])) where
  roomy := h.roomy
  houses := h.houses.erase file
  kept other hother := by
    rw [held_erase] at hother
    split at hother
    · cases hother
    · exact h.kept other hother
  clock := h.clock

theorem locked (h : Housed s home names f) (hlock : Kept names (file ++ lockEnding)) :
    Housed s home names (locked f home file) := by
  unfold Store.locked
  split
  · exact h
  · exact h.set hlock _ _

theorem without (h : Housed s home names f) (files : List Text) : Housed s home names (without f home files) := by
  induction files generalizing f with
  | nil => exact h
  | cons file files ih => exact ih (h.erase file)

end Housed

/-! ## Steps in the directory -/

theorem runFrom_makeDirectory (h : Housed s home names d.files) :
    runFrom (Work.change fun f => f.makeDirectory s.directory) d = (.ok ⟨⟩, d) :=
  runFrom_change_ok h.houses.makeDirectory_eq

theorem runFrom_lock (h : Housed s home names d.files) (hlock : Kept names (file ++ lockEnding)) :
    runFrom (lock (s.directory.child file)) d = (.ok ⟨⟩, { d with files := locked d.files home file }) := by
  rw [lock, Path.extended_child, Path.parent_child, runFrom_bind_ok (runFrom_makeDirectory h)]
  refine runFrom_change_ok ?_
  rw [h.houses.look_child (h.handy hlock), h.houses.put_child (h.handy hlock), locked]
  cases d.files.held home (file ++ lockEnding) with
  | none => rfl
  | some e => cases e <;> rfl

theorem runFrom_replace (h : Housed s home names d.files) (hfile : Kept names file) (content : Text) :
    runFrom (replace (s.directory.child file) content) d =
      (.ok ⟨⟩, { d with files := d.files.set (home ++ [file]) (.file content d.files.now) }) := by
  rw [replace, Path.parent_child, runFrom_bind_ok (runFrom_makeDirectory h)]
  exact runFrom_change_ok (h.houses.put_child (h.handy hfile) _ _)

/-- The files in the directory that end in a given way. -/
def listed (f : Files) (home : List Text) (last : Text) : List Text :=
  (f.namesIn home).filter fun file => last.isSuffixOf file

theorem mem_listed {last : Text} : file ∈ listed f home last ↔ (f.held home file).isSome ∧ last <:+ file := by
  rw [listed, List.mem_filter, mem_namesIn, List.isSuffixOf_iff_suffix]

theorem runFrom_namesEnding (h : Housed s home names d.files) (last : Text) :
    runFrom (s.namesEnding last) d = (.ok (listed d.files home last), d) := by
  refine runFrom_ask_ok ?_
  rw [h.houses.isDirectory?_eq h.roomy.whole, h.houses.list_eq]
  rfl

/-- What the manifest tells of each name. -/
def Ledger (f : Files) (home : List Text) (known : Text → Option Known) : Prop :=
  ∃ m : Manifest, m.Sound ∧ (∀ name, m.get? name = known name) ∧
    (f.textIn home manifestFile = some m.text ∨ f.textIn home manifestFile = none ∧ m = [])

/-- Only the text of the manifest tells. -/
theorem Ledger.congr {known : Text → Option Known} {f' : Files} (h : Ledger f home known)
    (htext : f'.textIn home manifestFile = f.textIn home manifestFile) : Ledger f' home known := by
  rw [Ledger, htext]
  exact h

variable {known : Text → Option Known}

/-- The manifest is read as it tells. -/
theorem runFrom_manifest (h : Housed s home names d.files) (hledger : Ledger d.files home known) :
    ∃ m : Manifest, m.Sound ∧ (∀ name, m.get? name = known name) ∧ runFrom s.manifest d = (.ok m, d) := by
  have hname : Handy s.directory manifestFile := h.handy .manifest
  have hexists : d.files.exists? s.manifestPath = .ok (d.files.textIn home manifestFile).isSome := by
    rw [h.houses.isSome_textIn]
    exact h.houses.exists?_child hname
  obtain ⟨m, hm, hknown, htext | ⟨htext, rfl⟩⟩ := hledger
  · refine ⟨m.sorted, hm.sorted, fun name => ?_, ?_⟩
    · rw [Table.get?_sorted hm.names, hknown]
    · obtain ⟨time, hheld⟩ := textIn_eq_some.mp htext
      have hread : d.files.read s.manifestPath = .ok (unifyBreaks m.text) := h.houses.read_child hname hheld
      rw [htext] at hexists
      rw [Store.manifest, runFrom_bind_ok (runFrom_ask_ok hexists), Option.isSome_some, if_pos rfl,
        runFrom_bind_ok (runFrom_ask_ok hread), runFrom_bind_ok (runFrom_get d), hm.read]
      rfl
  · refine ⟨[], hm, hknown, ?_⟩
    rw [htext] at hexists
    rw [Store.manifest, runFrom_bind_ok (runFrom_ask_ok hexists)]
    rfl

/-- Changing the manifest changes what it tells, and no other file but locks. -/
theorem runFrom_updateManifest (h : Housed s home names d.files) (hledger : Ledger d.files home known)
    (changes : Table (Option Known)) (known' : Text → Option Known)
    (hchanges : ∀ m : Manifest, m.Sound → (∀ name, m.get? name = known name) →
      Manifest.Sound (m.update changes) ∧ ∀ name, (m.update changes).get? name = known' name) :
    ∃ files, runFrom (s.updateManifest changes) d = (.ok ⟨⟩, { d with files }) ∧ Housed s home names files ∧
      Ledger files home known' ∧ files.now = d.files.now ∧
      ∀ file, NoLock file → file ≠ manifestFile → files.held home file = d.files.held home file := by
  have hlocked : Housed s home names (locked d.files home manifestFile) := h.locked .manifestLock
  have hledger' : Ledger (locked d.files home manifestFile) home known :=
    hledger.congr (textIn_congr (held_locked noLock_manifestFile))
  obtain ⟨m, hm, hknown, hread⟩ := runFrom_manifest (d := { d with files := locked d.files home manifestFile })
    hlocked hledger'
  obtain ⟨hsound, hknown'⟩ := hchanges m hm hknown
  have hreplace := runFrom_replace (d := { d with files := locked d.files home manifestFile }) hlocked .manifest
    (Manifest.text (m.update changes))
  refine ⟨_, ?_, hlocked.set .manifest (Manifest.text (m.update changes)) d.files.now, ⟨_, hsound, hknown', .inl ?_⟩,
    ?_, ?_⟩
  · have hlock : runFrom (lock s.manifestPath) d = (.ok ⟨⟩, { d with files := locked d.files home manifestFile }) :=
      runFrom_lock h .manifestLock
    refine runFrom_guarding_ok ?_
    rw [runFrom_bind_ok hlock, runFrom_bind_ok hread]
    dsimp only
    rw [hsound.hasOverlong, if_neg Bool.false_ne_true]
    refine hreplace.trans ?_
    rw [now_locked]
  · rw [textIn_set, if_pos rfl]
  · exact now_locked
  · intro file hlock hfile
    rw [held_set, if_neg hfile, held_locked hlock]

end Store
end Stencil
