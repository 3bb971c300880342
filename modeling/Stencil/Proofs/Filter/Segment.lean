import Mathlib.Data.List.TakeWhile
import Stencil.Filter.Pipeline
import Stencil.Proofs.Argument.Parts
import Stencil.Proofs.Step

/-!
# Filter segments

A filter segment is a name, alone or with blanks and one group behind it.  The pipeline takes such a segment as it was
written, and so it takes every other text in parentheses behind a name: what stands between its first parenthesis and its
last one is the argument, balanced or not.

* `IsSegment P` — a name, alone or in front of a text in parentheses of which `P` holds.
* `segment?_eq_some_iff` — the segments that are taken, with their names and argument texts.
* `argument?_eq_none_iff`, `argument?_of_mem` — what the handler of a filter is given.
* `pipeline_segment` — what a pipeline does with one of its segments.
-/

namespace Stencil

namespace Text

theorem inFlips_cons {first next n : Nat} {flips : List Nat} :
    inFlips (first :: next :: flips) n ↔ first ≤ n ∧ (n < next ∨ inFlips flips n) := by
  rw [inFlips]
  split
  case isTrue hfirst => exact iff_of_false Bool.false_ne_true fun h => Nat.not_lt.mpr h.1 hfirst
  case isFalse hfirst =>
    rw [and_iff_right (Nat.not_lt.mp hfirst)]
    split
    case isTrue hnext => exact iff_of_true rfl (.inl hnext)
    case isFalse hnext => exact (or_iff_right hnext).symm

/-- A blank is no part of a word. -/
theorem isWord_eq_false_of_isBlank {c : Char} (h : isBlank c) : isWord c = false := by
  have hcode : c.toNat ∈ [9, 10, 11, 12, 13, 28, 29, 30, 31, 32, 0x85, 0xA0, 0x1680, 0x2000, 0x2001, 0x2002, 0x2003,
      0x2004, 0x2005, 0x2006, 0x2007, 0x2008, 0x2009, 0x200A, 0x2028, 0x2029, 0x202F, 0x205F, 0x3000] := by
    unfold isBlank blankFlips at h
    simp only [inFlips_cons] at h
    simp only [inFlips, Bool.false_eq_true, or_false] at h
    simp only [List.mem_cons, List.not_mem_nil, or_false]
    omega
  have hwords : ∀ n ∈ [9, 10, 11, 12, 13, 28, 29, 30, 31, 32, 0x85, 0xA0, 0x1680, 0x2000, 0x2001, 0x2002, 0x2003,
      0x2004, 0x2005, 0x2006, 0x2007, 0x2008, 0x2009, 0x200A, 0x2028, 0x2029, 0x202F, 0x205F, 0x3000],
      isWord (Char.ofNat n) = false := by decide +kernel
  have hnone := hwords _ hcode
  rwa [Char.ofNat_toNat] at hnone

/-- A text without the blanks around it does not end with one. -/
theorem isBlank_eq_false_of_getLast?_strip {c : Char} {s : Text} (h : (strip s).getLast? = some c) : isBlank c = false := by
  have hstops := List.head?_dropWhile_not isBlank (stripLeft s).reverse
  rw [strip, stripRight, List.getLast?_reverse] at h
  rw [h] at hstops
  exact hstops

theorem strip_eq_nil_iff {s : Text} : strip s = [] ↔ ∀ c ∈ s, isBlank c := by
  have hleft : strip s = [] ↔ ∀ c ∈ stripLeft s, isBlank c := by
    rw [strip, stripRight, List.reverse_eq_nil_iff, List.dropWhile_eq_nil_iff]
    exact forall_congr' fun c => imp_congr_left List.mem_reverse
  rw [hleft]
  refine ⟨fun h => ?_, fun h c hc => h c (List.dropWhile_subset _ hc)⟩
  rw [← List.takeWhile_append_dropWhile (p := isBlank) (l := s)]
  exact List.forall_mem_append.mpr ⟨fun c hc => List.all_eq_true.mp List.all_takeWhile c hc, h⟩

end Text

namespace Filter

variable {P Q : Text → Prop} {c : Char} {s name inner segment value whole : Text} {args : Option Text}
  {before more : List Text} {registry : Registry} {result : Text × Bool}

/-! ## Segments -/

/-- The name of a filter as a segment may write it: a letter or an underscore, and word characters. -/
def IsSegmentName (name : Text) : Prop := ∃ c word, name = c :: word ∧ Text.isNameStart c ∧ ∀ d ∈ word, Text.isWord d

/-- A filter segment with its name and its argument text: a name, alone or with blanks behind it and a text in
parentheses of which `P` holds. -/
inductive IsSegment (P : Text → Prop) : Text → Text → Option Text → Prop
  | alone {name : Text} : IsSegmentName name → IsSegment P name name none
  | applied {name gap inner : Text} : IsSegmentName name → (∀ c ∈ gap, Text.isBlank c) → P inner →
    IsSegment P (name ++ gap ++ '(' :: inner ++ [')']) name (some inner)

theorem IsSegment.mono (h : IsSegment P segment name args) (hPQ : ∀ inner, P inner → Q inner) :
    IsSegment Q segment name args := by
  cases h with
  | alone hname => exact .alone hname
  | applied hname hgap hinner => exact .applied hname hgap (hPQ _ hinner)

theorem IsSegment.holds (h : IsSegment P segment name (some inner)) : P inner := by
  cases h with
  | applied _ _ hinner => exact hinner

/-- A word ends where something else than a word begins. -/
theorem word_ends {word behind : Text} (hword : ∀ d ∈ word, Text.isWord d) (hbehind : ∀ d ∈ behind.head?, Text.isWord d = false) :
    (word ++ behind).takeWhile Text.isWord = word ∧ (word ++ behind).dropWhile Text.isWord = behind := by
  rw [List.takeWhile_append_of_pos hword, List.dropWhile_append_of_pos hword]
  cases behind with
  | nil => exact ⟨List.append_nil word, rfl⟩
  | cons d behind =>
    have hd : Text.isWord d = false := hbehind d rfl
    simp [hd]

theorem segment?_alone (h : IsSegmentName name) : segment? name = some (name, none) := by
  obtain ⟨c, word, rfl, hstart, hword⟩ := h
  obtain ⟨htaken, hleft⟩ := word_ends hword (nofun : ∀ d ∈ ([] : Text).head?, Text.isWord d = false)
  rw [List.append_nil] at htaken hleft
  simp [segment?, hstart, htaken, hleft]

theorem segment?_applied {gap : Text} (hname : IsSegmentName name) (hgap : ∀ c ∈ gap, Text.isBlank c) (inner : Text) :
    segment? (name ++ gap ++ '(' :: inner ++ [')']) = some (name, some inner) := by
  obtain ⟨c, word, rfl, hstart, hword⟩ := hname
  have hbehind : ∀ d ∈ (gap ++ '(' :: (inner ++ [')'])).head?, Text.isWord d = false := by
    cases gap with
    | nil =>
      rintro d ⟨⟩
      rfl
    | cons d gap =>
      rintro e ⟨⟩
      exact Text.isWord_eq_false_of_isBlank (hgap d List.mem_cons_self)
  have hopen : (gap ++ '(' :: (inner ++ [')'])).dropWhile Text.isBlank = '(' :: (inner ++ [')']) := by
    rw [List.dropWhile_append_of_pos hgap]
    rfl
  obtain ⟨htaken, hleft⟩ := word_ends hword hbehind
  have hwhole : c :: word ++ gap ++ '(' :: inner ++ [')'] = c :: (word ++ (gap ++ '(' :: (inner ++ [')']))) := by simp
  rw [hwhole]
  simp [segment?, hstart, htaken, hleft, hopen]

/-- The segments that are taken are the names, alone or with blanks and any text in parentheses behind them. -/
theorem segment?_eq_some_iff (hlast : ∀ c ∈ s.getLast?, Text.isBlank c = false) :
    segment? s = some (name, args) ↔ IsSegment (fun _ => True) s name args := by
  constructor
  · intro h
    unfold segment? at h
    split at h
    case h_1 => cases h
    case h_2 c rest =>
      split at h
      case isFalse => cases h
      case isTrue hstart =>
        have hname : IsSegmentName (c :: rest.takeWhile Text.isWord) :=
          ⟨c, _, rfl, hstart, fun d hd => List.all_eq_true.mp List.all_takeWhile d hd⟩
        have hword : rest.takeWhile Text.isWord ++ rest.dropWhile Text.isWord = rest := List.takeWhile_append_dropWhile
        generalize rest.takeWhile Text.isWord = word at h hname hword
        generalize rest.dropWhile Text.isWord = behind at h hword
        have hgap : behind.takeWhile Text.isBlank ++ behind.dropWhile Text.isBlank = behind :=
          List.takeWhile_append_dropWhile
        have hblank : ∀ d ∈ behind.takeWhile Text.isBlank, Text.isBlank d := fun d hd => List.all_eq_true.mp List.all_takeWhile d hd
        generalize behind.takeWhile Text.isBlank = gap at hgap hblank
        split at h
        case h_1 hnothing =>
          obtain ⟨rfl, rfl⟩ := Prod.mk.inj (Option.some.inj h)
          rw [hnothing, List.append_nil] at hgap
          subst hgap hword
          -- blanks behind the word would end the text
          obtain rfl : gap = [] := by
            cases hend : gap.getLast? with
            | none => exact List.getLast?_eq_none_iff.mp hend
            | some d =>
              obtain ⟨front, rfl⟩ := List.getLast?_eq_some_iff.mp hend
              have hwhole : (c :: (word ++ (front ++ [d]))).getLast? = some d := by
                rw [← List.append_assoc, ← List.cons_append, List.getLast?_concat]
              have hplain := hlast d hwhole
              rw [hblank d (List.mem_append_right _ List.mem_cons_self)] at hplain
              cases hplain
          rw [List.append_nil]
          exact .alone hname
        case h_2 group hopen =>
          split at h
          case isFalse => cases h
          case isTrue hclose =>
            obtain ⟨rfl, rfl⟩ := Prod.mk.inj (Option.some.inj h)
            obtain ⟨inner, rfl⟩ := List.getLast?_eq_some_iff.mp hclose
            rw [hopen] at hgap
            subst hgap hword
            rw [List.dropLast_concat]
            have hsegment : IsSegment (fun _ => True) ((c :: word) ++ gap ++ '(' :: inner ++ [')']) (c :: word) (some inner) :=
              .applied hname hblank trivial
            simpa using hsegment
        case h_3 => cases h
  · intro h
    cases h with
    | alone hname => exact segment?_alone hname
    | applied hname hgap => exact segment?_applied hname hgap _

/-! ## Arguments -/

/-- A handler is given no argument if there is none, or only blanks. -/
theorem argument?_eq_none_iff : argument? args = none ↔ ∀ inner, args = some inner → ∀ c ∈ inner, Text.isBlank c := by
  cases args with
  | none => exact iff_of_true rfl nofun
  | some inner =>
    have hblank : argument? (some inner) = none ↔ Text.strip inner = [] := by
      unfold argument?
      rw [Option.map_some]
      split
      case h_1 hnone => cases hnone
      case h_2 hnil => exact iff_of_true rfl (Option.some.inj hnil)
      case h_3 hne hsome =>
        obtain rfl := Option.some.inj hsome
        exact iff_of_false nofun hne
    rw [hblank, Text.strip_eq_nil_iff]
    exact ⟨fun h inner' heq => Option.some.inj heq ▸ h, fun h => h inner rfl⟩

/-- Otherwise it is given the argument text without the blanks around it. -/
theorem argument?_of_mem (hmem : c ∈ inner) (hplain : Text.isBlank c = false) :
    argument? (some inner) = some (Text.strip inner) := by
  have hne : Text.strip inner ≠ [] := fun hnil => by
    rw [Text.strip_eq_nil_iff.mp hnil c hmem] at hplain
    cases hplain
  unfold argument?
  rw [Option.map_some]
  split
  case h_1 hnone => cases hnone
  case h_2 hnil => exact absurd (Option.some.inj hnil) hne
  case h_3 hsome => exact hsome.symm

/-! ## Pipelines -/

theorem isBlank_eq_false_of_mem_segments (hmem : segment ∈ segments s) : ∀ c ∈ segment.getLast?, Text.isBlank c = false := by
  obtain ⟨part, -, rfl⟩ := List.mem_map.mp hmem
  exact fun c hc => Text.isBlank_eq_false_of_getLast?_strip hc

theorem applyAll_append (result : Text × Bool) (before more : List Text) :
    applyAll registry whole result (before ++ more) =
      applyAll registry whole result before >>= fun result => applyAll registry whole result more := by
  induction before generalizing result with
  | nil => rfl
  | cons segment before ih =>
    rw [List.cons_append, applyAll, applyAll, bind_assoc]
    exact congrArg _ (funext ih)

/-- A pipeline goes on with a filter: its handler is given the value and an argument, and the segments behind it are
applied to what it makes of them. -/
def goOn (registry : Registry) (whole value name : Text) (argument : Option Text) (more : List Text) :
    Except Raised (Text × Bool) :=
  match registry.filters.get? name with
  | none => .error (.compile { cause := .unknownFilter name, excerpt := some whole })
  | some filter => do applyAll registry whole (← filter.handler value argument, filter.safe) more

theorem apply_goOn (h : segment? segment = some (name, args)) :
    (apply registry whole value segment >>= fun result => applyAll registry whole result more) =
      goOn registry whole value name (argument? args) more := by
  rw [apply, h, goOn]
  dsimp only
  cases registry.filters.get? name with
  | none => rfl
  | some filter =>
    dsimp only
    cases filter.handler value (argument? args) with
    | error e => rfl
    | ok value => rfl

theorem pipeline_eq (hsegments : segments s = value :: (before ++ segment :: more)) (hvalue : value ≠ [])
    (hbefore : applyAll registry s (value, false) before = .ok result) :
    pipeline registry s = apply registry s result.1 segment >>= fun result => applyAll registry s result more := by
  have hwhole : pipeline registry s = applyAll registry s (value, false) (before ++ segment :: more) := by
    rw [pipeline, hsegments]
    cases value with
    | nil => exact absurd rfl hvalue
    | cons c value => rfl
  rw [hwhole, applyAll_append, hbefore]
  rfl

/-- **Filter segments.**  A pipeline that has come to a segment goes on with the filter that a name stands for and the
text in the group behind it, if there is one, and so it does if the text in the parentheses behind the name is not
balanced; any other segment is malformed.  The handler of the filter is given that text without the blanks around it, and
no argument if there is none but blanks. -/
theorem pipeline_segment (hsegments : segments s = value :: (before ++ segment :: more)) (hvalue : value ≠ [])
    (hbefore : applyAll registry s (value, false) before = .ok result) :
    (∀ name args, IsSegment Argument.Balanced segment name args →
      pipeline registry s = goOn registry s result.1 name (argument? args) more) ∧
    (∀ name args, IsSegment (fun inner => ¬ Argument.Balanced inner) segment name args →
      pipeline registry s = goOn registry s result.1 name (argument? args) more) ∧
    ((¬ ∃ name args, IsSegment (fun _ => True) segment name args) →
      pipeline registry s = .error (.compile { cause := .malformedFilter segment, excerpt := some s })) ∧
    (∀ args, argument? args = none ↔ ∀ inner, args = some inner → ∀ c ∈ inner, Text.isBlank c) ∧
    (∀ inner, ∀ c ∈ inner, Text.isBlank c = false → argument? (some inner) = some (Text.strip inner)) := by
  have hmem : segment ∈ segments s := by
    rw [hsegments]
    exact List.mem_cons_of_mem _ (List.mem_append_right _ List.mem_cons_self)
  have hlast : ∀ c ∈ segment.getLast?, Text.isBlank c = false := isBlank_eq_false_of_mem_segments hmem
  have htaken : ∀ name args, IsSegment (fun _ => True) segment name args →
      pipeline registry s = goOn registry s result.1 name (argument? args) more := fun name args h =>
    (pipeline_eq hsegments hvalue hbefore).trans (apply_goOn ((segment?_eq_some_iff hlast).mpr h))
  refine ⟨fun name args h => htaken name args (h.mono fun _ _ => trivial),
    fun name args h => htaken name args (h.mono fun _ _ => trivial), fun hnone => ?_, fun _ => argument?_eq_none_iff,
    fun _ _ => argument?_of_mem⟩
  have hunread : segment? segment = none := by
    cases hread : segment? segment with
    | none => rfl
    | some taken => exact absurd ⟨_, _, (segment?_eq_some_iff hlast).mp hread⟩ hnone
  rw [pipeline_eq hsegments hvalue hbefore, apply, hunread]
  rfl

/-- A segment with an argument between two others, and the segments of a pipeline in full. -/
theorem pipeline_segment_number :
    segments "x | trim | number ( 2 ) | raw" = "x".toList :: (["trim".toList] ++ "number ( 2 )".toList :: ["raw".toList]) ∧
    IsSegment Argument.Balanced "number ( 2 )" "number" (some " 2 ") ∧
    pipeline .standard "x | trim | number ( 2 ) | raw" =
      .ok ("_rt.number_format(_rt.to_str(x).strip(), 2)".toList, true) := by
  have hsegments : segments "x | trim | number ( 2 ) | raw" =
      "x".toList :: (["trim".toList] ++ "number ( 2 )".toList :: ["raw".toList]) := by decide +kernel
  have hsegment : IsSegment Argument.Balanced "number ( 2 )" "number" (some " 2 ") := by
    have hname : IsSegmentName "number" := ⟨'n', "umber", rfl, rfl, List.all_eq_true.mp rfl⟩
    have hgap : ∀ c ∈ [' '], Text.isBlank c := List.forall_mem_singleton.mpr rfl
    have hinner : Argument.Balanced " 2 " := rfl
    have hwhole : ("number ( 2 )" : String).toList = "number".toList ++ [' '] ++ '(' :: " 2 ".toList ++ [')'] := by
      decide +kernel
    rw [hwhole]
    exact .applied hname hgap hinner
  have hbefore : applyAll .standard "x | trim | number ( 2 ) | raw" ("x".toList, false) ["trim".toList] =
      .ok ("_rt.to_str(x).strip()".toList, false) := by rfl
  refine ⟨hsegments, hsegment, ((pipeline_segment hsegments (by decide) hbefore).1 _ _ hsegment).trans ?_⟩
  rfl

/-- A second group behind the first one becomes part of the argument. -/
theorem group_misread :
    ¬ ∀ (registry : Registry) (s value segment : Text) (before more : List Text) (result : Text × Bool),
      segments s = value :: (before ++ segment :: more) → value ≠ [] →
      applyAll registry s (value, false) before = .ok result →
      (¬ ∃ name args, IsSegment Argument.Balanced segment name args) →
      pipeline registry s = .error (.compile { cause := .malformedFilter segment, excerpt := some s }) := by
  intro h
  have hsegments : segments "x | number(1)(2)" = "x".toList :: ([] ++ "number(1)(2)".toList :: []) := by decide +kernel
  have hungrouped : ¬ ∃ name args, IsSegment Argument.Balanced "number(1)(2)" name args := by
    rintro ⟨name, args, hsegment⟩
    have hmem : "number(1)(2)".toList ∈ segments "x | number(1)(2)" := by
      rw [hsegments]
      exact List.mem_cons_of_mem _ List.mem_cons_self
    have hread : segment? "number(1)(2)" = some (name, args) :=
      (segment?_eq_some_iff (isBlank_eq_false_of_mem_segments hmem)).mpr (hsegment.mono fun _ _ => trivial)
    have hread' : segment? "number(1)(2)" = some ("number".toList, some "1)(2".toList) := by rfl
    obtain ⟨-, rfl⟩ := Prod.mk.inj (Option.some.inj (hread.symm.trans hread'))
    have hbalanced : Argument.Balanced "1)(2" := hsegment.holds
    have hgroup : Argument.groupAt ('(' :: "1)(2".toList ++ [')']) 0 = .ok ("1".toList, 3) := by rfl
    rw [Argument.Balanced, hgroup] at hbalanced
    exact absurd (Prod.mk.inj (Except.ok.inj hbalanced)).1 (by decide)
  have hrefused := h .standard _ _ _ _ _ _ hsegments (by decide) rfl hungrouped
  have htaken : pipeline .standard "x | number(1)(2)" = .ok ("_rt.number_format(x, 1)(2)".toList, false) :=
    (pipeline_eq hsegments (by decide) rfl).trans rfl
  rw [htaken] at hrefused
  cases hrefused

end Filter
end Stencil
