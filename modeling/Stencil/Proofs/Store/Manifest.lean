import Stencil.Proofs.Json.RoundTrip
import Stencil.Proofs.Table
import Stencil.Files.Basic
import Stencil.Store.Manifest

/-!
# The manifest read back

A manifest is written whenever an entry changes and read again for the next change.  What was written is what is read: the
same entries, by ascending name.

* `unifyBreaks_eq_self` — reading a file changes only line breaks with a carriage return.
* `readMember_json` — an entry is read back.
* `read_text` — a manifest is read back, whatever time it is.
-/

namespace Stencil

theorem Files.unifyBreaks_eq_self {s : Text} (h : '\r' ∉ s) : Files.unifyBreaks s = s := by
  induction s with
  | nil => rfl
  | cons c s ih =>
    rw [List.mem_cons, not_or] at h
    rw [Files.unifyBreaks, ih h.2]
    · rintro s rfl
      exact absurd rfl h.1
    · rintro rfl
      exact absurd rfl h.1

/-- What was written item by item is read back item by item. -/
theorem mapM_map_eq_ok {ε α β : Type} (write : α → β) {read : β → Except ε α} (h : ∀ a, read (write a) = .ok a)
    (l : List α) : (l.map write).mapM read = .ok l := by
  induction l with
  | nil => rfl
  | cons a l ih =>
    rw [List.map_cons, List.mapM_cons, h, ih]
    rfl

namespace Store

/-- Names are read back. -/
theorem namesSetting_ofJson (names : List Text) :
    namesSetting (Value.ofJson (.arr (names.map .str))) = .ok names := by
  have hitems : Value.ofJsonAll (names.map .str) = names.map .str := by
    induction names with
    | nil => rfl
    | cons name names ih =>
      rw [List.map_cons, Value.ofJsonAll, ih]
      rfl
  rw [Value.ofJson, hitems, namesSetting]
  exact mapM_map_eq_ok Value.str (fun _ => rfl) names

/-- An entry is read back. -/
theorem Known.read_json (now : Int) (k : Known) : Known.read now (Value.ofJson k.json) = .ok k := by
  have hfields : Value.ofJson k.json = .dict [(.str "dependencies", Value.ofJson (.arr (k.dependencies.map .str))),
      (.str "compiled_at", .int k.compiledAt)] none := rfl
  rw [hfields, Known.read, fieldOr, fieldOr, Value.lookup_str, if_pos rfl, Value.lookup_str, if_neg (by decide),
    Value.lookup_str, if_pos rfl]
  dsimp only
  rw [namesSetting_ofJson]
  rfl

namespace Manifest

variable {m : Manifest}

theorem readMember_json (now : Int) (name : Text) (k : Known) : readMember now (name, k.json) = .ok (name, k) := by
  rw [readMember, Known.read_json]
  rfl

/-- What a manifest is written as. -/
def document (m : Manifest) : Json := .obj (m.sorted.map fun (name, k) => (name, k.json))

/-- With distinct names and times of a length that is read a manifest is written plainly. -/
theorem plain_document (hnames : m.names.Nodup) (htimes : m.hasOverlong = false) : m.document.Plain := by
  refine .obj ?_ ?_
  · rw [List.map_map]
    exact Table.nodup_sorted hnames
  · rw [List.forall_mem_map]
    rintro ⟨name, k⟩ hmem
    have htime : Number.isOverlong k.compiledAt = false := by
      have hall := List.any_eq_false.mp htimes (name, k) ((List.mergeSort_perm m _).mem_iff.mp hmem)
      simpa using hall
    have hfields : (["dependencies", "compiled_at"] : List Text).Nodup := by decide
    refine .obj hfields ?_
    simp only [List.mem_cons, List.not_mem_nil, or_false, forall_eq_or_imp, forall_eq]
    exact ⟨.arr (by simpa using fun name _ => .str name), .int htime⟩

/-- A manifest is read back, whatever time it is. -/
theorem read_text (hnames : m.names.Nodup) (htimes : m.hasOverlong = false) (now : Int) :
    read now (Files.unifyBreaks m.text) = .ok m.sorted := by
  have hplain := plain_document hnames htimes
  have hreturn : '\r' ∉ m.text := by
    rw [text, List.mem_append, not_or]
    exact ⟨hplain.return_not_mem (by decide) 0, by decide⟩
  have hread : Json.read m.text = .ok m.document :=
    Json.read_print (fun step hstep => by cases hstep; decide) hplain (by decide)
  rw [Files.unifyBreaks_eq_self hreturn, read, hread, document]
  dsimp only
  rw [mapM_map_eq_ok (fun p : Text × Known => (p.1, p.2.json)) (fun p => readMember_json now p.1 p.2)]
  rfl

/-! ## Manifests that can be written -/

/-- A manifest that is written as it is: it names each template once, and its times are of a length that is read. -/
structure Sound (m : Manifest) : Prop where
  names : m.names.Nodup
  times : ∀ name k, m.get? name = some k → Number.isOverlong k.compiledAt = false

namespace Sound

theorem nil : Sound [] := ⟨List.nodup_nil, fun _ _ h => by cases h⟩

theorem hasOverlong (h : m.Sound) : m.hasOverlong = false := by
  rw [Manifest.hasOverlong, List.any_eq_false]
  rintro ⟨name, k⟩ hmem
  simp [h.times name k ((Table.mem_iff h.names).mp hmem)]

theorem read (h : m.Sound) (now : Int) : Manifest.read now (Files.unifyBreaks m.text) = .ok m.sorted :=
  read_text h.names h.hasOverlong now

theorem sorted (h : m.Sound) : Manifest.Sound m.sorted where
  names := Table.nodup_sorted h.names
  times name k hk := h.times name k (by rwa [Table.get?_sorted h.names] at hk)

/-- Binding a name to what was compiled at such a time keeps a manifest sound. -/
theorem put (h : m.Sound) (name : Text) {k : Known} (hk : Number.isOverlong k.compiledAt = false) :
    Manifest.Sound (m.put name k) where
  names := Table.nodup_put h.names
  times other k' hk' := by
    rw [Table.get?_put] at hk'
    split at hk'
    · exact Option.some.inj hk' ▸ hk
    · exact h.times other k' hk'

end Sound

end Manifest
end Store
end Stencil
