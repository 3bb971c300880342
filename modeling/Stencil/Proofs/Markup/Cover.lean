import Stencil.Node

/-!
# Covering a text

Reading a template cuts its text into stretches that lie side by side.  A stretch stays text, or is markup and has become
other nodes; a later pass cuts what is still text again and leaves everything else as it is.

* `Item`, `items` — nodes in document order, each section opened into a mark at its start, its body and a mark at its end.
* `Segment`, `IsCut` — a stretch of a text with what it became, and the stretches that make up a text.
* `Covers` — items are what the stretches of a text became.
* `Replaces` — items became others: each stayed, or is text in whose place others stand.
* `Refines` — items became others: each stayed, or is text that was cut.
* `Covers.refine` — cutting a text further leaves it cut; `Refines.lowered` — what is not text stays, in the same order.
-/

namespace Stencil.Markup

/-! ## Items -/

attribute [simp] Node.line

/-- A node in document order, or one of the two marks that a section is put between. -/
inductive Item where
  | node (n : Node)
  | start (line : Int) (name label : Text)
  | stop
  deriving Repr

mutual

/-- What a node is in document order. -/
@[simp] def itemsOf : Node → List Item
  | .captured line name label body => .start line name label :: items body ++ [.stop]
  | node => [.node node]

/-- Nodes in document order. -/
def items : List Node → List Item
  | [] => []
  | node :: nodes => itemsOf node ++ items nodes

end

@[simp] theorem items_nil : items [] = [] := rfl

@[simp] theorem items_cons (node : Node) (nodes : List Node) : items (node :: nodes) = itemsOf node ++ items nodes := rfl

@[simp] theorem items_append (nodes more : List Node) : items (nodes ++ more) = items nodes ++ items more := by
  induction nodes with
  | nil => rfl
  | cons node nodes ih => simp [ih]

theorem mem_items {nodes : List Node} {i : Item} : i ∈ items nodes ↔ ∃ node ∈ nodes, i ∈ itemsOf node := by
  induction nodes with
  | nil => simp
  | cons node nodes ih => simp [ih]

/-- Text in which markup is still looked for. -/
def Item.isText : Item → Bool
  | .node (.text ..) => true
  | _ => false

/-- Not text, and on a line; the mark at the end of a section has no line. -/
@[simp] def Item.FinalAt (line : Int) : Item → Prop
  | .node (.text ..) => False
  | .node n => n.line = line
  | .start l _ _ => l = line
  | .stop => True

theorem Item.FinalAt.not_isText {line : Int} {i : Item} (h : i.FinalAt line) : i.isText = false := by
  cases i with
  | node n =>
    cases n with
    | text => exact h.elim
    | _ => rfl
  | _ => rfl

/-- The items that are not text. -/
def lowered (xs : List Item) : List Item := xs.filter fun i => !i.isText

/-! ## Segments -/

/-- A stretch of a text with its line and what it became. -/
structure Segment where
  line : Int
  text : Text
  found : List Item

/-- A stretch is not empty; it stayed text, or it is markup and became what is not text any more, on the same line. -/
def Segment.Lawful (P : Text → Prop) (seg : Segment) : Prop :=
  seg.text ≠ [] ∧
    (seg.found = [.node (.text seg.line seg.text)] ∨ P seg.text ∧ ∀ i ∈ seg.found, i.FinalAt seg.line)

/-- Stretches make up a text that starts on a line, one behind the other. -/
structure IsCut (P : Text → Prop) (line : Int) (s : Text) (segments : List Segment) : Prop where
  whole : segments.flatMap Segment.text = s
  lawful : ∀ seg ∈ segments, seg.Lawful P
  lines : ∀ before seg behind, segments = before ++ seg :: behind →
    seg.line = line + Text.newlines (before.flatMap Segment.text)

variable {P : Text → Prop} {line : Int} {s t : Text} {xs ys zs : List Item}

@[simp] theorem newlines_nil : Text.newlines [] = 0 := rfl

/-- The line behind two texts is the line behind the second one, which starts on the line behind the first. -/
theorem line_append (line : Int) (s t : Text) :
    line + Text.newlines (s ++ t) = line + s.newlines + t.newlines := by
  have h : Text.newlines (s ++ t) = s.newlines + t.newlines := List.count_append
  omega

theorem isCut_cons {seg : Segment} {segments : List Segment} : IsCut P line s (seg :: segments) ↔
    seg.line = line ∧ seg.Lawful P ∧
      ∃ t, s = seg.text ++ t ∧ IsCut P (line + seg.text.newlines) t segments := by
  constructor
  · rintro ⟨hwhole, hlawful, hlines⟩
    obtain ⟨hseg, hlawful⟩ := List.forall_mem_cons.mp hlawful
    refine ⟨by simpa using hlines [] seg segments rfl, hseg, _, hwhole.symm, rfl, hlawful, ?_⟩
    rintro before seg' behind rfl
    rw [hlines (seg :: before) seg' behind rfl, List.flatMap_cons, line_append]
  · rintro ⟨hline, hseg, t, rfl, hwhole, hlawful, hlines⟩
    refine ⟨by rw [List.flatMap_cons, hwhole], List.forall_mem_cons.mpr ⟨hseg, hlawful⟩, ?_⟩
    intro before seg' behind hsplit
    cases before with
    | nil =>
      obtain ⟨rfl, -⟩ := List.cons.inj hsplit
      simpa using hline
    | cons first before =>
      obtain ⟨rfl, rfl⟩ := List.cons.inj hsplit
      rw [hlines before seg' behind rfl, List.flatMap_cons, line_append]

theorem IsCut.append {segments more : List Segment} (h : IsCut P line s segments)
    (h' : IsCut P (line + s.newlines) t more) : IsCut P line (s ++ t) (segments ++ more) := by
  induction segments generalizing line s with
  | nil =>
    obtain rfl : [] = s := h.whole
    simpa using h'
  | cons seg segments ih =>
    obtain ⟨hline, hseg, u, rfl, hrest⟩ := isCut_cons.mp h
    rw [line_append] at h'
    exact isCut_cons.mpr ⟨hline, hseg, u ++ t, List.append_assoc .., ih hrest h'⟩

/-! ## Covers -/

/-- Items are what the stretches of a text that starts on a line became. -/
def Covers (P : Text → Prop) (line : Int) (s : Text) (xs : List Item) : Prop :=
  ∃ segments, IsCut P line s segments ∧ segments.flatMap Segment.found = xs

namespace Covers

theorem nil : Covers P line [] [] := ⟨[], ⟨rfl, by simp, by simp⟩, rfl⟩

theorem append (h : Covers P line s xs) (h' : Covers P (line + s.newlines) t ys) :
    Covers P line (s ++ t) (xs ++ ys) := by
  obtain ⟨segments, hcut, rfl⟩ := h
  obtain ⟨more, hcut', rfl⟩ := h'
  exact ⟨segments ++ more, hcut.append hcut', by simp⟩

/-- One stretch by itself. -/
theorem one (seg : Segment) (h : seg.Lawful P) : Covers P seg.line seg.text seg.found := by
  refine ⟨[seg], isCut_cons.mpr ⟨rfl, h, [], by simp, rfl, by simp, by simp⟩, by simp⟩

theorem text (hs : s ≠ []) : Covers P line s [.node (.text line s)] :=
  one ⟨line, s, _⟩ ⟨hs, .inl rfl⟩

theorem markup (hs : s ≠ []) (hP : P s) (hfound : ∀ i ∈ xs, i.FinalAt line) : Covers P line s xs :=
  one ⟨line, s, xs⟩ ⟨hs, .inr ⟨hP, hfound⟩⟩

end Covers

/-! ## Replacing text -/

/-- Items became others: each stayed as it is, or is text in whose place others stand. -/
inductive Replaces (C : Int → Text → List Item → Prop) : List Item → List Item → Prop
  | nil : Replaces C [] []
  | same {xs ys : List Item} (x : Item) : Replaces C xs ys → Replaces C (x :: xs) (x :: ys)
  | text {line : Int} {s : Text} {new xs ys : List Item} : C line s new → Replaces C xs ys →
    Replaces C (.node (.text line s) :: xs) (new ++ ys)

namespace Replaces

variable {C : Int → Text → List Item → Prop}

theorem refl (xs : List Item) : Replaces C xs xs := by
  induction xs with
  | nil => exact .nil
  | cons x xs ih => exact .same x ih

theorem append {xs' ys' : List Item} (h : Replaces C xs ys) (h' : Replaces C xs' ys') :
    Replaces C (xs ++ xs') (ys ++ ys') := by
  induction h with
  | nil => exact h'
  | same x _ ih => exact .same x ih
  | text hnew _ ih =>
    rw [List.append_assoc]
    exact .text hnew ih

/-- What is not text stays where it is. -/
theorem of_not_isText (h : Replaces C (xs ++ ys) zs) (hxs : ∀ i ∈ xs, i.isText = false) :
    ∃ ys', zs = xs ++ ys' ∧ Replaces C ys ys' := by
  induction xs generalizing zs with
  | nil => exact ⟨zs, rfl, h⟩
  | cons x xs ih =>
    obtain ⟨hx, hxs⟩ := List.forall_mem_cons.mp hxs
    cases h with
    | same _ h =>
      obtain ⟨ys', rfl, hrest⟩ := ih h hxs
      exact ⟨ys', rfl, hrest⟩
    | text => cases hx

end Replaces

/-! ## Refining -/

/-- Items became others: each stayed as it is, or is text that was cut. -/
inductive Refines (P : Text → Prop) : List Item → List Item → Prop
  | nil : Refines P [] []
  | same {xs ys : List Item} (x : Item) : Refines P xs ys → Refines P (x :: xs) (x :: ys)
  | cut {line : Int} {s : Text} {new xs ys : List Item} : Covers P line s new → Refines P xs ys →
    Refines P (.node (.text line s) :: xs) (new ++ ys)

/-- Text that was cut is text in whose place stands what covers it. -/
theorem refines_iff_replaces : Refines P xs ys ↔ Replaces (Covers P) xs ys := by
  refine ⟨fun h => ?_, fun h => ?_⟩
  · induction h with
    | nil => exact .nil
    | same x _ ih => exact .same x ih
    | cut hcovers _ ih => exact .text hcovers ih
  · induction h with
    | nil => exact .nil
    | same x _ ih => exact .same x ih
    | text hcovers _ ih => exact .cut hcovers ih

namespace Refines

/-- What is not text stays, in the same order. -/
theorem lowered (h : Refines P xs ys) : (lowered xs).Sublist (lowered ys) := by
  induction h with
  | nil => exact .slnil
  | same x _ ih =>
    unfold Markup.lowered at ih ⊢
    by_cases hx : x.isText
    · rwa [List.filter_cons_of_neg (by simp [hx]), List.filter_cons_of_neg (by simp [hx])]
    · rw [List.filter_cons_of_pos (by simp [hx]), List.filter_cons_of_pos (by simp [hx])]
      exact ih.cons_cons x
  | @cut line s new xs ys _ _ ih =>
    unfold Markup.lowered at ih ⊢
    rw [List.filter_cons_of_neg (by simp [Item.isText]), List.filter_append]
    exact ih.trans (List.sublist_append_right _ _)

end Refines

/-- A text that is cut stays cut when what is still text in it is cut further. -/
theorem Covers.refine (h : Covers P line s xs) (hr : Refines P xs ys) : Covers P line s ys := by
  obtain ⟨segments, hcut, rfl⟩ := h
  rw [refines_iff_replaces] at hr
  induction segments generalizing line s ys with
  | nil =>
    obtain rfl : [] = s := hcut.whole
    cases hr
    exact .nil
  | cons seg segments ih =>
    obtain ⟨rfl, hseg, t, rfl, hrest⟩ := isCut_cons.mp hcut
    rw [List.flatMap_cons] at hr
    rcases hseg.2 with htext | ⟨hP, hfound⟩
    · rw [htext] at hr
      cases hr with
      | same _ hr => exact append (Covers.text hseg.1) (ih hrest hr)
      | text hcovers hr => exact append hcovers (ih hrest hr)
    · obtain ⟨ys', rfl, hr'⟩ := hr.of_not_isText fun i hi => (hfound i hi).not_isText
      exact append (.markup hseg.1 hP hfound) (ih hrest hr')

end Stencil.Markup
