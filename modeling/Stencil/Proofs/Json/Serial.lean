import Stencil.Proofs.Json.Embedding

/-!
# Values as JSON inside a page

A value is written as its document, or as nothing where it has none, and what markup is made of is escaped in what was
written.  The text is read as a document, and as the same one before and behind escaping.

* `Json.Sized` — the documents whose texts are read: `Sized.exists_readsAs`, by induction.
* `Value.sized_of_toJson?` — the documents of values are such, by induction on the value.
* `Output.serial_cases` — when a text is written, and which one.
* `Output.json_decodes` — what is written is safe inside a page and stands for the same document.
-/

namespace Stencil

namespace Json

variable {layout : Layout} {j : Json}

/-! ## Documents that are read -/

/-- The documents whose whole numbers are of a length that is read. -/
inductive Sized : Json → Prop
  | null : Sized .null
  | bool (b : Bool) : Sized (.bool b)
  | int {n : Int} : Number.isOverlong n = false → Sized (.int n)
  | float (x : Float) : Sized (.float x)
  | str (s : Text) : Sized (.str s)
  | arr {items : List Json} : (∀ j ∈ items, Sized j) → Sized (.arr items)
  | obj {members : List (Text × Json)} : (∀ m ∈ members, Sized m.2) → Sized (.obj members)

theorem exists_forall₂ {α β : Type} {R : α → β → Prop} {l : List α} (h : ∀ a ∈ l, ∃ b, R a b) :
    ∃ l', List.Forall₂ R l l' := by
  induction l with
  | nil => exact ⟨[], .nil⟩
  | cons a l ih =>
    obtain ⟨ha, hl⟩ := List.forall_mem_cons.mp h
    obtain ⟨b, hb⟩ := ha
    obtain ⟨l', hl'⟩ := ih hl
    exact ⟨b :: l', .cons hb hl'⟩

/-- Whatever such a document holds, its text is read as a document. -/
theorem Sized.exists_readsAs (hlayout : layout.Spaced) (h : Sized j) : ∃ j', ReadsAs layout j j' := by
  induction h with
  | null => exact ⟨_, (Plain.null).readsAs hlayout⟩
  | bool b => exact ⟨_, (Plain.bool b).readsAs hlayout⟩
  | int hn => exact ⟨_, readsAs_int hn⟩
  | float x =>
    obtain ⟨y, hy⟩ := readsAs_float layout x
    exact ⟨_, hy⟩
  | str s => exact ⟨_, readsAs_str s⟩
  | arr _ ih =>
    obtain ⟨items', hitems⟩ := exists_forall₂ ih
    exact ⟨_, readsAs_arr hlayout hitems⟩
  | @obj members _ ih =>
    have hmember : ∀ m ∈ members, ∃ m', MemberAs layout m m' := fun m hm => by
      obtain ⟨j', hj'⟩ := ih m hm
      exact ⟨(m.1, j'), rfl, hj'⟩
    obtain ⟨members', hmembers⟩ := exists_forall₂ hmember
    exact ⟨_, readsAs_obj hlayout hmembers⟩

theorem Sized.exists_read (hlayout : layout.Spaced) (h : Sized j) : ∃ j', Json.read (print layout j) = .ok j' := by
  obtain ⟨j', hj'⟩ := h.exists_readsAs hlayout
  have hread := hj'.read_print (List.forall_mem_nil _ : Blank [])
  rw [List.append_nil] at hread
  exact ⟨j', hread⟩

end Json

namespace Value

open Json (Sized)

/-! ## The documents of values -/

theorem mem_of_insertBy? {α : Type} {key : α → Value} {a : α} {xs ys : List α} (h : insertBy? key a xs = some ys) :
    ∀ y ∈ ys, y = a ∨ y ∈ xs := by
  induction xs generalizing ys with
  | nil =>
    obtain rfl := Option.some.inj h
    exact fun y hy => .inl (List.mem_singleton.mp hy)
  | cons x xs ih =>
    rw [insertBy?] at h
    split at h
    · cases h
    · obtain rfl := Option.some.inj h
      exact fun y hy => List.mem_cons.mp hy
    · obtain ⟨zs, hzs, rfl⟩ := Option.map_eq_some_iff.mp h
      intro y hy
      rcases List.mem_cons.mp hy with rfl | hy
      · exact .inr List.mem_cons_self
      · exact (ih hzs y hy).imp id (List.mem_cons_of_mem _)

/-- Sorting adds nothing. -/
theorem mem_of_sortedBy? {α : Type} {key : α → Value} {xs ys : List α} (h : sortedBy? key xs = some ys) :
    ∀ y ∈ ys, y ∈ xs := by
  induction xs generalizing ys with
  | nil =>
    obtain rfl := Option.some.inj h
    exact fun y hy => hy
  | cons x xs ih =>
    obtain ⟨zs, hzs, hinsert⟩ := Option.bind_eq_some_iff.mp h
    intro y hy
    rcases mem_of_insertBy? hinsert y hy with rfl | hy
    · exact List.mem_cons_self
    · exact List.mem_cons_of_mem _ (ih hzs y hy)

/-- Items that are sorted by what they are made from are still documents that are read. -/
theorem sized_of_sortedBy? {items : List Value} {js : List Json} {pairs : List (Value × Json)}
    (h : sortedBy? Prod.fst (items.zip js) = some pairs) (hjs : ∀ j ∈ js, Sized j) : Sized (.arr (pairs.map Prod.snd)) := by
  refine .arr fun j hj => ?_
  obtain ⟨p, hp, rfl⟩ := List.mem_map.mp hj
  exact hjs _ (List.of_mem_zip (mem_of_sortedBy? h p hp)).2

theorem sized_of_toJson?_int {n : Int} {j : Json} (h : (Value.int n).toJson? = some j) : Sized j := by
  rw [toJson?] at h
  cases hn : Number.isOverlong n with
  | true =>
    rw [hn, if_pos rfl] at h
    cases h
  | false =>
    rw [hn, if_neg Bool.false_ne_true] at h
    obtain rfl := Option.some.inj h
    exact .int hn

mutual

/-- The document of a value is one that is read. -/
theorem sized_of_toJson? (v : Value) {j : Json} (h : v.toJson? = some j) : Sized j := by
  cases v with
  | null =>
    obtain rfl := Option.some.inj h
    exact .null
  | bool b =>
    obtain rfl := Option.some.inj h
    exact .bool b
  | int n => exact sized_of_toJson?_int h
  | float x =>
    obtain rfl := Option.some.inj h
    exact .float x
  | str s =>
    obtain rfl := Option.some.inj h
    exact .str s
  | markup s =>
    obtain rfl := Option.some.inj h
    exact .str s
  | list items who =>
    rw [toJson?] at h
    obtain ⟨js, hjs, rfl⟩ := Option.map_eq_some_iff.mp h
    exact .arr (sized_of_toJsonAll? items hjs)
  | tuple items =>
    rw [toJson?] at h
    obtain ⟨js, hjs, rfl⟩ := Option.map_eq_some_iff.mp h
    exact .arr (sized_of_toJsonAll? items hjs)
  | set items who =>
    rw [toJson?] at h
    obtain ⟨js, hjs, h⟩ := Option.bind_eq_some_iff.mp h
    obtain ⟨pairs, hpairs, h⟩ := Option.bind_eq_some_iff.mp h
    obtain rfl := Option.some.inj h
    exact sized_of_sortedBy? hpairs (sized_of_toJsonAll? items hjs)
  | frozenSet items =>
    rw [toJson?] at h
    obtain ⟨js, hjs, h⟩ := Option.bind_eq_some_iff.mp h
    obtain ⟨pairs, hpairs, h⟩ := Option.bind_eq_some_iff.mp h
    obtain rfl := Option.some.inj h
    exact sized_of_sortedBy? hpairs (sized_of_toJsonAll? items hjs)
  | dict entries who =>
    rw [toJson?] at h
    obtain ⟨members, hmembers, rfl⟩ := Option.map_eq_some_iff.mp h
    exact .obj (sized_of_toJsonEntries? entries hmembers)
  | day d =>
    obtain rfl := Option.some.inj h
    exact .str _
  | moment m =>
    obtain rfl := Option.some.inj h
    exact .str _
  | record fields who =>
    rw [toJson?] at h
    obtain ⟨members, hmembers, rfl⟩ := Option.map_eq_some_iff.mp h
    exact .obj (sized_of_toJsonFields? fields hmembers)
  | _ => cases h

theorem sized_of_toJsonAll? : ∀ (vs : List Value) {js : List Json}, toJsonAll? vs = some js → ∀ j ∈ js, Sized j
  | [], _, rfl => List.forall_mem_nil _
  | v :: vs, js, h => by
    rw [toJsonAll?] at h
    obtain ⟨j, hj, h⟩ := Option.bind_eq_some_iff.mp h
    obtain ⟨js, hjs, h⟩ := Option.bind_eq_some_iff.mp h
    obtain rfl := Option.some.inj h
    exact List.forall_mem_cons.mpr ⟨sized_of_toJson? v hj, sized_of_toJsonAll? vs hjs⟩

theorem sized_of_toJsonEntries? : ∀ (es : List (Value × Value)) {members : List (Text × Json)},
    toJsonEntries? es = some members → ∀ m ∈ members, Sized m.2
  | [], _, rfl => List.forall_mem_nil _
  | (k, v) :: es, members, h => by
    rw [toJsonEntries?] at h
    obtain ⟨key, hkey, h⟩ := Option.bind_eq_some_iff.mp h
    obtain ⟨j, hj, h⟩ := Option.bind_eq_some_iff.mp h
    obtain ⟨members, hmembers, h⟩ := Option.bind_eq_some_iff.mp h
    obtain rfl := Option.some.inj h
    exact List.forall_mem_cons.mpr ⟨sized_of_toJson? v hj, sized_of_toJsonEntries? es hmembers⟩

theorem sized_of_toJsonFields? : ∀ (fs : List (Text × Value)) {members : List (Text × Json)},
    toJsonFields? fs = some members → ∀ m ∈ members, Sized m.2
  | [], _, rfl => List.forall_mem_nil _
  | (k, v) :: fs, members, h => by
    rw [toJsonFields?] at h
    obtain ⟨j, hj, h⟩ := Option.bind_eq_some_iff.mp h
    obtain ⟨members, hmembers, h⟩ := Option.bind_eq_some_iff.mp h
    obtain rfl := Option.some.inj h
    exact List.forall_mem_cons.mpr ⟨sized_of_toJson? v hj, sized_of_toJsonFields? fs hmembers⟩

end

end Value

namespace Output

open Json (Layout)

variable {value : Value} {indent : Option Int} {n : Int} {layout : Layout}

/-! ## The text of a value -/

/-- An indentation is of use if so many blanks can be written. -/
def Fits (n : Int) : Prop := Value.isIndex n = true ∧ n ≤ stepLimit

/-- An indentation is of no use only where so many blanks cannot be written. -/
theorem blanks_of_fits (h : Fits n) : blanks n = .ok { step := some (List.replicate n.toNat ' ') } := by
  unfold blanks
  rw [h.1, if_neg (by simp), if_neg (Int.not_lt.mpr h.2)]

theorem blanks_of_not_fits (h : ¬ Fits n) : ∃ e, blanks n = .error e := by
  unfold blanks
  split
  case isTrue => exact ⟨_, rfl⟩
  case isFalse hindex =>
    rw [if_pos]
    · exact ⟨_, rfl⟩
    · exact Int.not_le.mp fun hle => h ⟨by simpa using hindex, hle⟩

theorem serial_text {s : Text} (h : value.text? = some s) (indent : Value) :
    serial value indent = .ok (Json.print {} (.str s)) ∧ value.toJson? = some (.str s) := by
  cases value <;> cases h <;> exact ⟨rfl, rfl⟩

theorem serial_of_layout {indent : Value} (h : value.text? = none) (hlayout : layout? indent = .ok (some layout)) :
    serial value indent = .ok (Json.print layout (value.toJson?.getD .null)) := by
  unfold serial
  split
  · cases h
  · cases h
  · rw [hlayout]
    cases value.toJson? <;> rfl

theorem serial_of_error {indent : Value} {e : Fault} (h : value.text? = none) (hlayout : layout? indent = .error e) :
    serial value indent = .error e := by
  unfold serial
  split
  · cases h
  · cases h
  · rw [hlayout]
    rfl

theorem spaced_blanks (n : Int) : Layout.Spaced { step := some (List.replicate n.toNat ' ') } := by
  rintro _ ⟨⟩ c hc
  rw [List.eq_of_mem_replicate hc]
  rfl

/-- The value's document is written, or nothing where the value has none; only an indentation that is of no use stops
this, if the value is no text. -/
theorem serial_cases (value : Value) (indent : Option Int) :
    (∃ e, serial value (indent.elim .null .int) = .error e ∧ value.text? = none ∧ ∃ n ∈ indent, ¬ Fits n) ∨
    ((value.text? = none → ∀ n ∈ indent, Fits n) ∧ ∃ layout : Layout, layout.Spaced ∧
      serial value (indent.elim .null .int) = .ok (Json.print layout (value.toJson?.getD .null))) := by
  have hplain : Layout.Spaced {} := by rintro _ ⟨⟩
  cases htext : value.text? with
  | some s =>
    obtain ⟨hserial, hjson⟩ := serial_text htext (indent.elim .null .int)
    exact .inr ⟨fun h => (by cases h), {}, hplain, by rw [hserial, hjson, Option.getD_some]⟩
  | none =>
    cases indent with
    | none => exact .inr ⟨fun _ n hn => (by cases hn), {}, hplain, serial_of_layout htext rfl⟩
    | some n =>
      by_cases hfits : Fits n
      · have hlayout : layout? (.int n) = .ok (some { step := some (List.replicate n.toNat ' ') }) := by
          rw [show layout? (.int n) = (blanks n).map some from rfl, blanks_of_fits hfits]
          rfl
        refine .inr ⟨fun _ m hm => Option.some.inj hm ▸ hfits, _, spaced_blanks n, serial_of_layout htext hlayout⟩
      · obtain ⟨e, he⟩ := blanks_of_not_fits hfits
        have hlayout : layout? (.int n) = .error e := by
          rw [show layout? (.int n) = (blanks n).map some from rfl, he]
          rfl
        exact .inl ⟨e, serial_of_error htext hlayout, rfl, n, rfl, hfits⟩

/-- **A value as JSON inside a page.**  Whatever the value and the indentation, what is written holds none of the
characters that markup is made of, and it is read as the same document as the text before these were escaped: the text of
the value's document, or of nothing where the value has none.  Nothing is written exactly where a value that is no text is
to be indented by more blanks than can be written. -/
theorem json_decodes (value : Value) (indent : Option Int) :
    ((∃ e, json value (indent.elim .null .int) = .error e) ↔ value.text? = none ∧ ∃ n ∈ indent, ¬ Fits n) ∧
    ∀ text, json value (indent.elim .null .int) = .ok text →
      ('<' ∉ text ∧ '>' ∉ text ∧ '&' ∉ text) ∧
      ∃ plain j, serial value (indent.elim .null .int) = .ok plain ∧ text = embed plain ∧
        (∃ layout, plain = Json.print layout (value.toJson?.getD .null)) ∧
        Json.read plain = .ok j ∧ Json.read text = .ok j ∧ (value.toJson? = none → j = .null) := by
  rcases serial_cases value indent with ⟨e, hserial, htext, hindent⟩ | ⟨hfits, layout, hspaced, hserial⟩
  · have hjson : json value (indent.elim .null .int) = .error e := by rw [json, hserial]; rfl
    exact ⟨⟨fun _ => ⟨htext, hindent⟩, fun _ => ⟨e, hjson⟩⟩, fun text h => by rw [hjson] at h; cases h⟩
  · have hjson : json value (indent.elim .null .int) = .ok (embed (Json.print layout (value.toJson?.getD .null))) := by
      rw [json, hserial]
      rfl
    refine ⟨⟨fun ⟨e, he⟩ => (by rw [hjson] at he; cases he), fun ⟨htext, n, hn, hnot⟩ => absurd (hfits htext n hn) hnot⟩,
      fun text h => ?_⟩
    obtain rfl := Except.ok.inj (hjson.symm.trans h)
    have hmarkless := markless_embed (Json.print layout (value.toJson?.getD .null))
    have hsized : (value.toJson?.getD .null).Sized := by
      cases hdocument : value.toJson? with
      | none => exact .null
      | some j => exact Value.sized_of_toJson? value hdocument
    obtain ⟨j, hj⟩ := hsized.exists_read hspaced
    refine ⟨⟨fun h => hmarkless _ h (.inl rfl), fun h => hmarkless _ h (.inr (.inl rfl)),
      fun h => hmarkless _ h (.inr (.inr rfl))⟩, _, j, hserial, rfl, ⟨layout, rfl⟩, hj, read_embed hj, fun hnone => ?_⟩
    rw [hnone, Option.getD_none] at hj
    have hnull : Json.read (Json.print layout .null) = .ok .null := rfl
    exact Except.ok.inj (hj.symm.trans hnull)

/-- What markup is made of stands in the page as escapes, and is still read. -/
theorem json_decodes_markup :
    json (.list [.str "<a>&"] none) .null = .ok "[\"\\u003ca\\u003e\\u0026\"]" ∧
      ∃ j, Json.read "[\"\\u003ca\\u003e\\u0026\"]" = .ok j := by
  have htext : json (.list [.str "<a>&"] none) .null = .ok "[\"\\u003ca\\u003e\\u0026\"]" := by decide
  obtain ⟨-, plain, j, -, -, -, -, hj, -⟩ := (json_decodes (.list [.str "<a>&"] none) none).2 _ htext
  exact ⟨htext, j, hj⟩

/-- A list is not written with an indentation of more blanks than an index can count, not even as nothing. -/
theorem huge_indent_fails : json (.list [.int 1] none) (.int 9223372036854775808) =
    .error (.overflow "cannot fit 'int' into an index-sized integer") := rfl

end Output
end Stencil
