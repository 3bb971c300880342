import Stencil.Proofs.Step
import Stencil.Store.Basic

/-!
# What work on the store does

Every operation of the store is put together from looking at the disk, reporting, dropping and adding programs, and a few
kinds of changes to the files, all of which happen directly inside the store's directory.

* `FileChange s Good` — how the store changes the files; `Good` says which texts become artifacts of which names.
* `Elementary s Good` — the elementary steps of work on the store.
* `Worked s Good` — work that is composed of them.
-/

namespace Stencil.Store

theorem runFrom_ask {α : Type} (g : Files → Except Fault α) (d : Disk) :
    runFrom (Work.ask g) d = (match g d.files with
      | .ok a => .ok a
      | .error e => .error (.fault e), d) := by
  simp only [Work.ask, runFrom_bind, runFrom_get]
  cases g d.files <;> rfl

theorem runFrom_change (g : Files → Except Fault Files) (d : Disk) :
    runFrom (Work.change g) d = match g d.files with
      | .ok files => (.ok ⟨⟩, { d with files })
      | .error e => (.error (.fault e), d) := by
  rw [Work.change, runFrom_bind, runFrom_ask]
  cases g d.files <;> rfl

theorem runFrom_ask_ok {α : Type} {g : Files → Except Fault α} {d : Disk} {a : α} (h : g d.files = .ok a) :
    runFrom (Work.ask g) d = (.ok a, d) := by
  rw [runFrom_ask, h]

theorem runFrom_change_ok {g : Files → Except Fault Files} {d : Disk} {files : Files} (h : g d.files = .ok files) :
    runFrom (Work.change g) d = (.ok ⟨⟩, { d with files }) := by
  rw [runFrom_change, h]

theorem runFrom_guarding_ok {α : Type} {p : Path} {act : Work α} {d d' : Disk} {a : α} (h : runFrom act d = (.ok a, d')) :
    runFrom (Work.guarding p act) d = (.ok a, d') := by
  rw [Work.guarding, runFrom_tryCatch, h]

theorem keeps_ask {R : Disk → Disk → Prop} [IsPreorder Disk R] {α : Type} (f : Files → Except Fault α) :
    Keeps R (Work.ask f) := by
  refine Keeps.get.bind fun d => ?_
  split
  · exact Keeps.pure _
  · exact Keeps.throw _

/-- How the operations of a store change the files. -/
inductive FileChange (s : Store) (Good : Text → Text → Prop) : (Files → Except Fault Files) → Prop
  | directory : FileChange s Good fun f => f.makeDirectory s.directory
  | lock (name : Text) : FileChange s Good fun f =>
    match f.look (s.directory.child (name ++ lockEnding)) with
    | .ok (.file ..) => .ok f
    | _ => f.put (s.directory.child (name ++ lockEnding)) [] f.now
  | manifest (content : Text) : FileChange s Good fun f => f.put s.manifestPath content f.now
  | artifact (name content : Text) (h : Good name content) :
    FileChange s Good fun f => f.put (s.artifactPath name) content f.now
  | discard (name : Text) : FileChange s Good fun f => f.discard (s.directory.child name)
  | remove (name : Text) : FileChange s Good fun f => f.remove (s.artifactPath name)

/-- The elementary steps of work on a store. -/
inductive Elementary (s : Store) (Good : Text → Text → Prop) : {α : Type} → Work α → Prop
  | look : Elementary s Good (get : Work Disk)
  | report (level : Level) (message : Text) : Elementary s Good (Work.report level message)
  | change (f : Files → Except Fault Files) (h : FileChange s Good f) : Elementary s Good (Work.change f)
  | drop (f : Table Loaded → Table Loaded) (h : ∀ programs name l, (f programs).get? name = some l →
      programs.get? name = some l) : Elementary s Good (modify fun d => { d with programs := f d.programs })
  | load (name : Text) : Elementary s Good (s.load name)

/-- Work that is composed of elementary steps, whatever errors it catches. -/
abbrev Worked (s : Store) (Good : Text → Text → Prop) {α : Type} (act : Work α) : Prop :=
  Composed (Elementary s Good) (fun _ _ => True) act

namespace Worked

variable {s : Store} {Good : Text → Text → Prop} {α : Type}

theorem get : Worked s Good (MonadState.get : Work Disk) := .elementary .look

theorem report (level : Level) (message : Text) : Worked s Good (Work.report level message) :=
  .elementary (.report level message)

theorem ask (f : Files → Except Fault α) : Worked s Good (Work.ask f) := by
  refine .bind get fun d => ?_
  split
  · exact .pure _
  · exact .throw _

theorem change {f : Files → Except Fault Files} (h : FileChange s Good f) : Worked s Good (Work.change f) :=
  .elementary (.change f h)

theorem drop {f : Table Loaded → Table Loaded} (h : ∀ programs name l, (f programs).get? name = some l →
    programs.get? name = some l) :
    Worked s Good (modify fun d => { d with programs := f d.programs } : Work PUnit) :=
  .elementary (.drop f h)

theorem guarding (p : Path) {act : Work α} (h : Worked s Good act) : Worked s Good (Work.guarding p act) := by
  refine .tryCatch trivial h fun e => ?_
  split
  · exact .throw _
  · exact .throw _

/-! ## Writing files -/

theorem lock (name : Text) : Worked s Good (lock (s.directory.child name)) := by
  simp only [Store.lock, Path.extended_child, Path.parent_child]
  exact .bind (change .directory) fun _ => change (.lock name)

theorem replaceManifest (content : Text) : Worked s Good (replace s.manifestPath content) := by
  simp only [replace, manifestPath, Path.parent_child]
  exact .bind (change .directory) fun _ => change (.manifest content)

theorem replaceArtifact {name content : Text} (h : Good name content) :
    Worked s Good (replace (s.artifactPath name) content) := by
  simp only [replace, artifactPath, Path.parent_child]
  exact .bind (change .directory) fun _ => change (.artifact name content h)

/-! ## The manifest -/

theorem manifest : Worked s Good s.manifest := by
  refine .bind (ask _) fun present => ?_
  split
  · refine .bind (ask _) fun text => .bind get fun d => ?_
    split
    · exact .pure _
    · exact .throw _
    · exact .bind (report _ _) fun _ => .pure _
  · exact .pure _

theorem updateManifest (changes : Table (Option Known)) : Worked s Good (s.updateManifest changes) := by
  refine guarding _ (.bind (lock _) fun _ => .bind manifest fun m => ?_)
  dsimp only
  split
  · exact .bind (.throw _) fun _ => replaceManifest _
  · exact replaceManifest _

/-! ## Freshness -/

theorem newest (paths : List Path) : Worked s Good (newest paths) := by
  induction paths with
  | nil => exact .pure _
  | cons p rest ih =>
    cases rest with
    | nil => exact .bind (ask _) fun _ => .pure _
    | cons q rest => exact .bind (ask _) fun _ => .bind ih fun _ => .pure _

theorem sourceOf (name : Text) : Worked s Good (s.sourceOf name) := .bind get fun _ => .liftM _

theorem sources? (name : Text) (names : List Text) : Worked s Good (s.sources? name names) := by
  refine .tryCatch trivial (.map _ (.mapM sourceOf names)) fun e => ?_
  split
  · exact .bind (report _ _) fun _ => .pure _
  · exact .throw _

theorem isFresh (name : Text) : Worked s Good (s.isFresh name) := by
  unfold Store.isFresh
  dsimp only
  split
  · exact .pure _
  · refine .bind (ask _) fun present => ?_
    split
    · exact .pure _
    · refine .bind manifest fun m => ?_
      split
      · exact .pure _
      · refine .bind (sources? name _) fun paths => ?_
        split
        · exact .pure _
        · exact .bind (newest _) fun _ => .bind (ask _) fun _ => .pure _

/-! ## Artifacts -/

theorem sourceText (name : Text) : Worked s Good (s.sourceText name) := by
  refine .tryCatch trivial (.map _ (sourceOf name)) fun e => ?_
  split
  · exact .pure _
  · exact .throw _

theorem unload (name : Text) : Worked s Good (unload name) :=
  drop fun _ _ _ h => @Table.get?_of_filter _ (fun n => n ≠ name) _ _ _ h

/-- What `write` does once it knows the text of the source's path. -/
theorem write_parts {name program source : Text} {names : List Text}
    (h : Good name (artifactText name source names program)) :
    Worked s Good (do
      Store.lock (s.artifactPath name)
      replace (s.artifactPath name) (artifactText name source names program)) :=
  .bind (lock _) fun _ => replaceArtifact h

/-- What `write` does once the artifact is there. -/
theorem write_rest (name : Text) (names : List Text) (p : Path) : Worked s Good (do
    Store.unload name
    s.updateManifest [(name, some ⟨names, (← MonadState.get).files.now⟩)]
    Work.report .debug ("Wrote artifact for " ++ name ++ " to " ++ p.text)
    return p) := by
  refine .bind (unload name) fun _ => .bind get fun _ => .bind (updateManifest _) fun _ => ?_
  exact .bind (report _ _) fun _ => .pure _

theorem write (name program : Text) (dependencies : List Text)
    (h : ∀ source, Good name (artifactText name source (sortedNames dependencies) program)) :
    Worked s Good (s.write name program dependencies) :=
  .bind (guarding _ (.bind (sourceText name) fun source => write_parts (h source))) fun _ => write_rest _ _ _

theorem load (name : Text) : Worked s Good (s.load name) := .elementary (.load name)

/-! ## Administration -/

theorem namesEnding (last : Text) : Worked s Good (s.namesEnding last) := ask _

theorem clear : Worked s Good s.clear := by
  refine .bind (namesEnding _) fun _ => .bind (.forM (fun _ => change (.discard _)) _) fun _ => ?_
  refine .bind (namesEnding _) fun _ => .bind (.forM (fun _ => change (.discard _)) _) fun _ => ?_
  refine .bind (change (.discard _)) fun _ => .bind (drop (f := fun _ => []) fun _ _ _ h => ?_) fun _ => ?_
  · cases h
  · exact .bind (report _ _) fun _ => .pure _

theorem forget (name : Text) : Worked s Good (s.forget name) := by
  refine .bind (ask _) fun present => ?_
  have hbehind : ∀ count : Nat, Worked s Good (do
      Store.unload name
      if (← s.manifest).has name then
        s.updateManifest [(name, none)]
        return count
      return count) := by
    refine fun count => .bind (unload name) fun _ => .bind manifest fun m => ?_
    split
    · exact .bind (updateManifest _) fun _ => .pure _
    · exact .pure _
  dsimp only
  split
  · exact .bind (change (.remove name)) fun _ => hbehind _
  · exact hbehind _

theorem isOlder (age : Age) (file : Text) : Worked s Good (s.isOlder age file) :=
  .bind get fun _ => .bind (ask _) fun _ => .pure _

theorem purge (age : Age) : Worked s Good (s.purge age) := by
  refine .bind (namesEnding _) fun names => .bind (.filterM (isOlder age) names) fun stale => ?_
  dsimp only
  generalize (stale.map (Path.stem ending)).eraseDups = stems
  split
  · exact .pure _
  · refine .bind (.forM (fun _ => change (.discard _)) _) fun _ => .bind manifest fun m => ?_
    have hbehind : Worked s Good (do
        modify fun d => { d with programs := d.programs.filter fun p => !stems.contains (Digest.ofText p.1) }
        Work.report .info ("Purged " ++ Text.ofNat stems.length ++ " compiled templates older than " ++ age.text ++ "s")
        return stems.length) :=
      .bind (drop fun _ _ _ h => @Table.get?_of_filter _ (fun name => !stems.contains (Digest.ofText name)) _ _ _ h)
        fun _ => .bind (report _ _) fun _ => .pure _
    split
    · exact .bind (updateManifest _) fun _ => hbehind
    · exact hbehind

theorem size : Worked s Good s.size := by
  refine .bind (namesEnding _) fun names => .bind (.mapM (fun _ => ask _) names) fun _ => .bind (ask _) fun present => ?_
  dsimp only
  split
  · exact .bind (ask _) fun _ => .pure _
  · exact .pure _

end Worked
end Stencil.Store
