import Mathlib
import Stencil.Proofs.Table
import Stencil.Value.Access

/-!
# Keys of mappings

A mapping is asked for a key by likeness of values.  Among what can be a key, likeness is symmetric and transitive, so a
key that has been bound is found again by every value that is like it, and binding another one leaves it alone.

* `Worth.Same` — likeness of numbers; `Trait` — what every other key without parts is known by.
* `IsKey` — what can be a key: nothing in it can change, and the members of a set in it differ.
* `IsKey.symm`, `IsKey.trans` — likeness of keys is symmetric and transitive.
* `Agrees` — two keys are told apart as a third one tells them; names and keys agree.
* `Mapping` — the keys of the entries differ; `lookup_merge` — what is found behind putting the entries of a mapping
  into others.
* `texts` — the entries of a mapping under names; `mapping_of_names` — a table as a mapping.
-/

namespace Stencil.Value

open Float.Model (UnpackedFloat Format)

/-! ## Numbers -/

/-- A floating point number is no number if its bits say so. -/
theorem isNaN_iff (x : Float) : x.isNaN = true ↔ Number.parts x = .nan := by
  let bits : BitVec Format.binary64.numBits := x.toBits.toBitVec
  have hexponent : (UnpackedFloat.unpackExponent bits).toNat = x.toBits.toNat / 2 ^ 52 % 2 ^ 11 := by
    simp [bits, UnpackedFloat.unpackExponent, Nat.shiftRight_eq_div_pow]
  have hmantissa : (UnpackedFloat.unpackMantissa bits).toNat = x.toBits.toNat % 2 ^ 52 := by
    simp [bits, UnpackedFloat.unpackMantissa]
  have hunpacked : x.isNaN = true ↔ x.toBits.toNat / 2 ^ 52 % 2 ^ 11 = 2047 ∧ x.toBits.toNat % 2 ^ 52 ≠ 0 := by
    rw [← hexponent, ← hmantissa]
    change (UnpackedFloat.unpack Format.binary64 bits).isNaN = true ↔ _
    generalize hm : UnpackedFloat.unpackMantissa bits = mantissa
    generalize he : UnpackedFloat.unpackExponent bits = exponent
    have hfull : exponent = -1#_ ↔ exponent.toNat = 2047 := BitVec.toNat_inj.symm
    have hzero : mantissa = 0#_ ↔ mantissa.toNat = 0 := BitVec.toNat_inj.symm
    rw [UnpackedFloat.unpack, ← hfull, Ne, ← hzero]
    simp only [hm, he]
    repeat' split
    all_goals simp_all [UnpackedFloat.isNaN]
  have hparts : Number.parts x = .nan ↔ x.toBits.toNat / 2 ^ 52 % 2 ^ 11 = 2047 ∧ x.toBits.toNat % 2 ^ 52 ≠ 0 := by
    simp only [Number.parts, Nat.pow_eq]
    repeat' split
    all_goals simp_all
  rw [hunpacked, hparts]

namespace Worth

/-- A fraction has a positive denominator. -/
def Proper : Worth → Prop
  | .fraction _ den => 0 < den
  | _ => True

/-- Two worths are equal, or neither is that of a number. -/
def Same (x y : Worth) : Prop := x = .nan ∧ y = .nan ∨ x.compare y = some .eq

theorem compare_fraction {a c : Int} {b d : Nat} :
    (Worth.fraction a b).compare (.fraction c d) = some .eq ↔ a * d = c * b := by
  rw [Worth.compare, Option.some.injEq, Std.LawfulEqCmp.compare_eq_iff_eq]

theorem compare_infinite {a b : Bool} : (Worth.infinite a).compare (.infinite b) = some .eq ↔ a = b := by
  cases a <;> cases b <;> simp [Worth.compare]

theorem compare_kinds {a : Bool} {b : Int} {c : Nat} :
    (Worth.infinite a).compare (.fraction b c) ≠ some .eq ∧ (Worth.fraction b c).compare (.infinite a) ≠ some .eq := by
  cases a <;> simp [Worth.compare]

/-- What a worth is the same as. -/
theorem same_iff {x y : Worth} : x.Same y ↔ match x, y with
    | .nan, .nan => True
    | .infinite a, .infinite b => a = b
    | .fraction a b, .fraction c d => a * d = c * b
    | _, _ => False := by
  unfold Same
  cases x <;> cases y <;> simp [compare_fraction, compare_infinite, compare_kinds]
  all_goals simp [Worth.compare]

theorem Same.symm {x y : Worth} (h : x.Same y) : y.Same x := by
  rw [same_iff] at h ⊢
  cases x <;> cases y <;> simp_all

/-- A denominator that is not zero can be left out on both sides. -/
theorem Same.trans {x y z : Worth} (hy : y.Proper) (hxy : x.Same y) (hyz : y.Same z) : x.Same z := by
  rw [same_iff] at hxy hyz ⊢
  cases x <;> cases y <;> cases z <;> simp_all
  case fraction a b c d e f =>
    have hd : (d : Int) ≠ 0 := Int.natCast_ne_zero.mpr (Nat.pos_iff_ne_zero.mp hy)
    refine Int.eq_of_mul_eq_mul_right hd ?_
    calc a * f * d = (a * d) * f := by ring
      _ = (c * f) * b := by rw [hxy]; ring
      _ = e * b * d := by rw [hyz]; ring

end Worth

theorem ratio_pos (m : Nat) (q : Int) : 0 < (Number.ratio m q).2 := by
  unfold Number.ratio
  split
  · exact Nat.pow_pos (Nat.succ_pos 1)
  · exact Nat.one_pos

/-- The worth of a number is proper. -/
theorem proper_of_worth? {v : Value} {x : Worth} (h : worth? v = some x) : x.Proper := by
  cases v <;> cases h
  case float y =>
    unfold worthOf
    cases Number.parts y with
    | nan | infinite => trivial
    | finite negative m q => exact ratio_pos m q
  all_goals exact Nat.one_pos

theorem isNan_iff (v : Value) : isNan v = true ↔ worth? v = some .nan := by
  cases v with
  | float x =>
    rw [isNan, isNaN_iff, worth?, worthOf, Option.some.injEq]
    cases Number.parts x <;> simp
  | _ => simp [isNan, worth?]

/-- A number is like the numbers that are worth the same. -/
theorem alike_number {a : Value} {x : Worth} (h : worth? a = some x) (b : Value) :
    alike a b = true ↔ ∃ y, worth? b = some y ∧ x.Same y := by
  rw [alike, equal.eq_def, h, Bool.or_eq_true, Bool.and_eq_true, isNan_iff, isNan_iff, h]
  cases hb : worth? b with
  | none => simp
  | some y => simp [Worth.Same, or_comm]

/-! ## Other values without parts -/

/-- What a value without parts that is no number is known by. -/
inductive Trait where
  | text (s : Text)
  /-- How many numbers a range goes through, the first one and the step if they matter. -/
  | numbers (count : Nat) (first step : Option Int)
  /-- An instant, and whether it is known where. -/
  | instant (known : Bool) (microseconds : Int)
  | component (id : Nat)
  | stream (id : Nat)
  | itself (v : Value)

/-- What a value is known by among those without parts. -/
def trait? : Value → Option Trait
  | .str s | .markup s => some (.text s)
  | .range a b c =>
    let n := rangeLength a b c
    some (.numbers n (if n = 0 then none else some a) (if n ≤ 1 then none else some c))
  | .moment m => some (.instant m.offset.isSome m.instant)
  | .component id _ => some (.component id)
  | .stream id _ => some (.stream id)
  | .null => some (.itself .null)
  | .day d => some (.itself (.day d))
  | .view => some (.itself .view)
  | .helpers => some (.itself .helpers)
  | .registered => some (.itself .registered)
  | .builtin name => some (.itself (.builtin name))
  | .helper name => some (.itself (.helper name))
  | .function name => some (.itself (.function name))
  | _ => none

theorem alike_range (a b c : Int) (v : Value) :
    alike (.range a b c) v = true ↔ trait? (.range a b c) = trait? v := by
  rw [alike, equal.eq_def]
  cases v <;> simp [worth?, isNan, trait?]
  case range d e f =>
    simp only [equalRanges, Bool.and_eq_true, beq_iff_eq, Bool.or_eq_true]
    generalize rangeLength a b c = n
    generalize rangeLength d e f = m
    refine and_congr_right ?_
    rintro rfl
    rcases n with _ | _ | n <;> simp

/-- What is known by a trait is like the values with this trait. -/
theorem alike_trait {a : Value} (h : (trait? a).isSome) (b : Value) : alike a b = true ↔ trait? a = trait? b := by
  cases a with
  | range => exact alike_range ..
  | _ => cases h <;> rw [alike, equal.eq_def] <;> cases b <;> simp [worth?, isNan, trait?, equalMoments]

/-- A value without parts that nothing can change. -/
def isPlain : Value → Bool
  | .tuple _ | .frozenSet _ => false
  | v => (changeable? v).isNone

/-- Nothing is like a value that has neither worth nor trait nor parts. -/
theorem alike_object (b : Value) : alike .object b = false := by
  rw [alike, equal.eq_def]
  cases b <;> simp [worth?, isNan]

theorem alike_method (receiver : Value) (name : Text) (b : Value) : alike (.method receiver name) b = false := by
  rw [alike, equal.eq_def]
  cases b <;> simp [worth?, isNan]

theorem alike_slot (helper : SlotHelper) (id : Nat) (b : Value) : alike (.slot helper id) b = false := by
  rw [alike, equal.eq_def]
  cases b <;> simp [worth?, isNan]

theorem alike_values (entries : List (Value × Value)) (who : Option Identity) (b : Value) :
    alike (.listing .values entries who) b = false := by
  rw [alike, equal.eq_def]
  cases b <;> simp [worth?, isNan]

/-- A value without parts is a number, or it is known by a trait, or nothing is like it. -/
theorem isPlain_cases {a : Value} (h : a.isPlain) :
    (∃ x, worth? a = some x) ∨ (trait? a).isSome ∨ ∀ b, alike a b = false := by
  cases a with
  | bool | int | float => exact .inl ⟨_, rfl⟩
  | object => exact .inr (.inr alike_object)
  | method receiver name => exact .inr (.inr (alike_method receiver name))
  | slot helper id => exact .inr (.inr (alike_slot helper id))
  | listing kind entries who =>
    cases kind with
    | values => exact .inr (.inr (alike_values entries who))
    | keys | items => cases h
  | list | set | dict | record | within | frame | tuple | frozenSet => cases h
  | _ => exact .inr (.inl rfl)

/-! ## Lists of parts -/

theorem allIn_iff {xs ys : List Value} : allIn xs ys = true ↔ ∀ x ∈ xs, ∃ y ∈ ys, alike x y = true := by
  induction xs with
  | nil => simp [allIn]
  | cons x xs ih => rw [allIn, Bool.and_eq_true, List.any_eq_true, ih, List.forall_mem_cons]

theorem equalAll_iff {xs ys : List Value} :
    equalAll xs ys = true ↔ List.Forall₂ (fun x y => alike x y = true) xs ys := by
  induction xs generalizing ys with
  | nil => cases ys <;> simp [equalAll]
  | cons x xs ih =>
    cases ys with
    | nil => simp [equalAll]
    | cons y ys => rw [equalAll, Bool.and_eq_true, ih, List.forall₂_cons]

theorem forall₂_trans {α : Type} {R : α → α → Prop} {xs ys zs : List α}
    (h : ∀ x ∈ xs, ∀ y ∈ ys, ∀ z ∈ zs, R x y → R y z → R x z) (hxy : List.Forall₂ R xs ys)
    (hyz : List.Forall₂ R ys zs) : List.Forall₂ R xs zs := by
  induction hxy generalizing zs with
  | nil =>
    cases hyz
    exact .nil
  | @cons x y xs ys hxy _ ih =>
    cases hyz with
    | @cons _ z _ zs hyz hrest =>
      refine .cons (h x (by simp) y (by simp) z (by simp) hxy hyz) (ih (fun x hx y hy z hz => ?_) hrest)
      exact h x (List.mem_cons_of_mem _ hx) y (List.mem_cons_of_mem _ hy) z (List.mem_cons_of_mem _ hz)

theorem forall₂_symm {α : Type} {R : α → α → Prop} {xs ys : List α} (h : ∀ x ∈ xs, ∀ y ∈ ys, R x y → R y x)
    (hxy : List.Forall₂ R xs ys) : List.Forall₂ R ys xs := by
  induction hxy with
  | nil => exact .nil
  | @cons x y xs ys hxy _ ih =>
    refine .cons (h x (by simp) y (by simp) hxy) (ih fun x hx y hy => ?_)
    exact h x (List.mem_cons_of_mem _ hx) y (List.mem_cons_of_mem _ hy)

theorem alike_tuple (xs : List Value) (b : Value) :
    alike (.tuple xs) b = true ↔ ∃ ys, b = .tuple ys ∧ List.Forall₂ (fun x y => alike x y = true) xs ys := by
  rw [alike, equal.eq_def]
  cases b <;> simp [worth?, isNan, equalAll_iff]

theorem alike_frozenSet (xs : List Value) {b : Value} (h : (changeable? b).isNone) :
    alike (.frozenSet xs) b = true ↔
      ∃ ys, b = .frozenSet ys ∧ xs.length = ys.length ∧ ∀ x ∈ xs, ∃ y ∈ ys, alike x y = true := by
  rw [alike, equal.eq_def]
  cases b with
  | listing kind entries who =>
    cases kind with
    | values => simp [worth?, isNan, members?]
    | keys | items => cases h
  | set => cases h
  | _ => simp [worth?, isNan, members?, allIn_iff]

/-- Different things that are all related to one of as few things leave none of these out. -/
theorem exists_of_distinct {α : Type} {R : α → α → Prop} {xs ys : List α}
    (hback : ∀ x ∈ xs, ∀ y ∈ ys, R x y → R y x) (hthrough : ∀ x ∈ xs, ∀ y ∈ ys, ∀ z ∈ xs, R x y → R y z → R x z)
    (hdistinct : xs.Pairwise fun x z => ¬ R x z) (hlength : ys.length ≤ xs.length) (h : ∀ x ∈ xs, ∃ y ∈ ys, R x y) :
    ∀ y ∈ ys, ∃ x ∈ xs, R y x := by
  induction xs generalizing ys with
  | nil =>
    obtain rfl := List.eq_nil_of_length_eq_zero (Nat.le_zero.mp hlength)
    exact fun y hy => absurd hy List.not_mem_nil
  | cons x xs ih =>
    obtain ⟨hx, hxs⟩ := List.pairwise_cons.mp hdistinct
    obtain ⟨y, hy, hxy⟩ := h x List.mem_cons_self
    obtain ⟨before, behind, rfl⟩ := List.append_of_mem hy
    have hmem : ∀ {w}, w ∈ before ++ behind → w ∈ before ++ y :: behind := by
      intro w hw
      rw [List.mem_append, List.mem_cons]
      exact (List.mem_append.mp hw).imp_right .inr
    -- what is related to `y` is `x` and nothing else
    have hothers : ∀ z ∈ xs, ∃ w ∈ before ++ behind, R z w := by
      intro z hz
      obtain ⟨w, hw, hzw⟩ := h z (List.mem_cons_of_mem _ hz)
      rcases List.mem_append.mp hw with hw | hw
      · exact ⟨w, List.mem_append_left _ hw, hzw⟩
      · rcases List.mem_cons.mp hw with rfl | hw
        · have hback := hback z (List.mem_cons_of_mem _ hz) w (by simp) hzw
          exact absurd (hthrough x List.mem_cons_self w (by simp) z (List.mem_cons_of_mem _ hz) hxy hback) (hx z hz)
        · exact ⟨w, List.mem_append_right _ hw, hzw⟩
    have hcovered := ih (fun z hz w hw => hback z (List.mem_cons_of_mem _ hz) w (hmem hw))
      (fun z hz w hw z' hz' => hthrough z (List.mem_cons_of_mem _ hz) w (hmem hw) z' (List.mem_cons_of_mem _ hz'))
      hxs (by simp at hlength ⊢; omega) hothers
    intro w hw
    by_cases hwy : w = y
    · exact ⟨x, List.mem_cons_self, hwy ▸ hback x List.mem_cons_self y (by simp) hxy⟩
    · have hw : w ∈ before ++ behind := by
        rw [List.mem_append, List.mem_cons] at hw
        exact List.mem_append.mpr (hw.imp_right fun h => h.resolve_left hwy)
      obtain ⟨z, hz, hwz⟩ := hcovered w hw
      exact ⟨z, List.mem_cons_of_mem _ hz, hwz⟩

/-! ## Keys -/

/-- What can be a key of a mapping: nothing in it can change, and the members of a set in it differ. -/
inductive IsKey : Value → Prop
  | plain {v : Value} : v.isPlain → IsKey v
  | tuple {items : List Value} : (∀ v ∈ items, IsKey v) → IsKey (.tuple items)
  | frozenSet {items : List Value} : (∀ v ∈ items, IsKey v) → items.Pairwise (fun v w => ¬ alike v w = true) →
    IsKey (.frozenSet items)

namespace IsKey

variable {a b c : Value}

theorem tuple_iff {items : List Value} : IsKey (.tuple items) ↔ ∀ v ∈ items, IsKey v := by
  refine ⟨fun h => ?_, .tuple⟩
  cases h with
  | plain h => cases h
  | tuple h => exact h

theorem frozenSet_iff {items : List Value} : IsKey (.frozenSet items) ↔
    (∀ v ∈ items, IsKey v) ∧ items.Pairwise fun v w => ¬ alike v w = true := by
  refine ⟨fun h => ?_, fun h => .frozenSet h.1 h.2⟩
  cases h with
  | plain h => cases h
  | frozenSet h hdistinct => exact ⟨h, hdistinct⟩

theorem changeableOf?_eq_none {items : List Value} (h : ∀ v ∈ items, changeable? v = none) :
    changeableOf? items = none := by
  induction items with
  | nil => rfl
  | cons v items ih =>
    rw [changeableOf?, h v List.mem_cons_self, ih fun w hw => h w (List.mem_cons_of_mem _ hw)]
    rfl

/-- Nothing in a key can change. -/
theorem changeable?_isNone (h : IsKey a) : (changeable? a).isNone := by
  rw [Option.isNone_iff_eq_none]
  induction h with
  | @plain v h =>
    unfold isPlain at h
    split at h
    · cases h
    · cases h
    · exact Option.isNone_iff_eq_none.mp h
  | tuple _ ih =>
    rw [changeable?]
    exact changeableOf?_eq_none ih
  | frozenSet => rfl

theorem trans (ha : IsKey a) (hb : IsKey b) (hc : IsKey c) (hab : alike a b = true) (hbc : alike b c = true) :
    alike a c = true := by
  induction ha generalizing b c with
  | plain h =>
    rcases isPlain_cases h with ⟨x, hx⟩ | htrait | hnone
    · rw [alike_number hx] at hab ⊢
      obtain ⟨y, hy, hxy⟩ := hab
      obtain ⟨z, hz, hyz⟩ := (alike_number hy c).mp hbc
      exact ⟨z, hz, hxy.trans (proper_of_worth? hy) hyz⟩
    · rw [alike_trait htrait] at hab ⊢
      rwa [alike_trait (hab ▸ htrait), ← hab] at hbc
    · rw [hnone] at hab
      cases hab
  | @tuple xs _ ih =>
    obtain ⟨ys, rfl, hxy⟩ := (alike_tuple xs b).mp hab
    obtain ⟨zs, rfl, hyz⟩ := (alike_tuple ys c).mp hbc
    rw [tuple_iff] at hb hc
    have hthrough := forall₂_trans (fun x hx y hy z hz => ih x hx (hb y hy) (hc z hz)) hxy hyz
    exact (alike_tuple xs _).mpr ⟨zs, rfl, hthrough⟩
  | @frozenSet xs _ _ ih =>
    obtain ⟨ys, rfl, hlength, hxy⟩ := (alike_frozenSet xs hb.changeable?_isNone).mp hab
    obtain ⟨zs, rfl, hlength', hyz⟩ := (alike_frozenSet ys hc.changeable?_isNone).mp hbc
    refine (alike_frozenSet xs rfl).mpr ⟨zs, rfl, hlength.trans hlength', fun x hx => ?_⟩
    obtain ⟨y, hy, hxy⟩ := hxy x hx
    obtain ⟨z, hz, hyz⟩ := hyz y hy
    exact ⟨z, hz, ih x hx ((frozenSet_iff.mp hb).1 y hy) ((frozenSet_iff.mp hc).1 z hz) hxy hyz⟩

theorem symm (ha : IsKey a) (hb : IsKey b) (hab : alike a b = true) : alike b a = true := by
  induction ha generalizing b with
  | plain h =>
    rcases isPlain_cases h with ⟨x, hx⟩ | htrait | hnone
    · obtain ⟨y, hy, hxy⟩ := (alike_number hx b).mp hab
      exact (alike_number hy _).mpr ⟨x, hx, hxy.symm⟩
    · rw [alike_trait htrait] at hab
      exact (alike_trait (hab ▸ htrait) _).mpr hab.symm
    · rw [hnone] at hab
      cases hab
  | @tuple xs _ ih =>
    obtain ⟨ys, rfl, hxy⟩ := (alike_tuple xs b).mp hab
    rw [tuple_iff] at hb
    exact (alike_tuple ys _).mpr ⟨xs, rfl, forall₂_symm (fun x hx y hy => ih x hx (hb y hy)) hxy⟩
  | @frozenSet xs hkeys hdistinct ih =>
    obtain ⟨ys, rfl, hlength, hxy⟩ := (alike_frozenSet xs hb.changeable?_isNone).mp hab
    have hys := (frozenSet_iff.mp hb).1
    refine (alike_frozenSet ys rfl).mpr ⟨xs, rfl, hlength.symm, ?_⟩
    exact exists_of_distinct (fun x hx y hy => ih x hx (hys y hy))
      (fun x hx y hy z hz => (hkeys x hx).trans (hys y hy) (hkeys z hz)) hdistinct hlength.ge hxy

end IsKey

/-! ## Keys that agree -/

theorem trait?_eq_text (a : Value) (name : Text) : trait? a = some (.text name) ↔ a.text? = some name := by
  cases a <;> simp [trait?, text?]

/-- A text is like the values that have this text. -/
theorem alike_text {key : Value} {name : Text} (h : key.text? = some name) (a : Value) :
    alike a key = true ↔ a.text? = some name := by
  cases key <;> cases h
  case str => exact alike_str a name
  case markup =>
    rw [alike, equal.eq_def]
    cases a <;> simp [worth?, isNan, text?, members?]
    case listing kind entries who => cases kind <;> rfl

/-- Whether two values are alike agrees with how a text tells them. -/
theorem agrees_text {key : Value} {name : Text} (h : key.text? = some name) (a b : Value) : Agrees key a b := by
  rw [Agrees, alike_text h, alike_text h]
  refine ⟨fun hab => ⟨fun ha => ?_, fun hb => (alike_text hb a).mp hab⟩, fun ha hb => (alike_text hb a).mpr ha⟩
  rw [← trait?_eq_text] at ha ⊢
  rwa [alike_trait (by rw [ha]; rfl), ha, eq_comm] at hab

/-- Whether two keys are alike agrees with how a third one tells them. -/
theorem IsKey.agrees {key a b : Value} (hkey : IsKey key) (ha : IsKey a) (hb : IsKey b) : Agrees key a b :=
  ⟨fun hab => ⟨fun h => hb.trans ha hkey (ha.symm hb hab) h, fun h => ha.trans hb hkey hab h⟩,
    fun h h' => ha.trans hkey hb h (hb.symm hkey h')⟩

/-! ## Mappings -/

/-- The keys of a mapping are keys, and they differ. -/
structure Mapping {α : Type} (entries : List (Value × α)) : Prop where
  keys : ∀ e ∈ entries, IsKey e.1
  distinct : entries.Pairwise fun e e' => ¬ alike e.1 e'.1 = true

variable {α : Type} {key k : Value} {entries old : List (Value × α)}

/-- Binding adds no key but the one that is bound. -/
theorem mem_of_mem_bind {a : α} {e : Value × α} (h : e ∈ bind k a entries) : e.1 = k ∨ ∃ e' ∈ entries, e'.1 = e.1 := by
  induction entries with
  | nil => exact .inl (congrArg Prod.fst (List.mem_singleton.mp h))
  | cons entry rest ih =>
    rw [bind] at h
    split at h
    · rcases List.mem_cons.mp h with rfl | h
      · exact .inr ⟨entry, List.mem_cons_self, rfl⟩
      · exact .inr ⟨e, List.mem_cons_of_mem _ h, rfl⟩
    · rcases List.mem_cons.mp h with rfl | h
      · exact .inr ⟨entry, List.mem_cons_self, rfl⟩
      · rcases ih h with heq | ⟨e', he', heq⟩
        · exact .inl heq
        · exact .inr ⟨e', List.mem_cons_of_mem _ he', heq⟩

theorem lookup_eq_none (h : ∀ e ∈ entries, ¬ alike e.1 key = true) : lookup key entries = none := by
  induction entries with
  | nil => rfl
  | cons entry rest ih =>
    rw [lookup, if_neg (h entry List.mem_cons_self), ih fun e he => h e (List.mem_cons_of_mem _ he)]

/-- **Putting a mapping into other entries.**  What the mapping has under a key is found under it, and where it has
nothing, what was there before. -/
theorem lookup_merge (hdistinct : entries.Pairwise fun e e' => ¬ alike e.1 e'.1 = true)
    (hold : ∀ e ∈ old, ∀ e' ∈ entries, Agrees key e.1 e'.1)
    (hentries : ∀ e ∈ entries, ∀ e' ∈ entries, Agrees key e.1 e'.1) :
    lookup key (entries.foldl (fun d (k, a) => bind k a d) old) = (lookup key entries <|> lookup key old) := by
  induction entries generalizing old with
  | nil => rfl
  | cons entry rest ih =>
    obtain ⟨k, a⟩ := entry
    obtain ⟨hk, hrest⟩ := List.pairwise_cons.mp hdistinct
    have hbound := lookup_bind_of_agrees (fun e he => hold e he (k, a) List.mem_cons_self) a
    rw [List.foldl_cons, ih hrest, hbound, lookup]
    · by_cases hkey : alike k key = true
      · -- no other key of the mapping is like this one
        have hnone : lookup key rest = none := lookup_eq_none fun e he h =>
          hk e he ((hentries (k, a) List.mem_cons_self e (List.mem_cons_of_mem _ he)).2 hkey h)
        rw [if_pos hkey, if_pos hkey, hnone]
        rfl
      · rw [if_neg hkey, if_neg hkey]
    · intro e he e' he'
      rcases mem_of_mem_bind he with heq | ⟨e₀, he₀, heq⟩
      · rw [heq]
        exact hentries (k, a) List.mem_cons_self e' (List.mem_cons_of_mem _ he')
      · rw [← heq]
        exact hold e₀ he₀ e' (List.mem_cons_of_mem _ he')
    · exact fun e he e' he' => hentries e (List.mem_cons_of_mem _ he) e' (List.mem_cons_of_mem _ he')

/-! ## Entries under names -/

/-- The entries whose keys are texts. -/
def texts (entries : List (Value × α)) : Table α := entries.filterMap fun e => e.1.text?.map fun name => (name, e.2)

/-- What is bound to a name is what is found under it. -/
theorem get?_texts (name : Text) (entries : List (Value × α)) :
    (texts entries).get? name = lookup (.str name) entries := by
  induction entries with
  | nil => rfl
  | cons e rest ih =>
    have hlike := alike_str e.1 name
    rw [lookup, texts, List.filterMap_cons]
    cases htext : e.1.text? with
    | none =>
      have hother : ¬ alike e.1 (.str name) = true := by
        rw [hlike, htext]
        exact (Option.some_ne_none name).symm
      rw [if_neg hother]
      exact ih
    | some other =>
      rw [htext, Option.some.injEq] at hlike
      by_cases hname : other = name
      · rw [if_pos (hlike.mpr hname), Option.map_some, Table.get?, if_pos hname]
      · rw [if_neg fun h => hname (hlike.mp h), Option.map_some, Table.get?, if_neg hname]
        exact ih

/-- Keys that differ have different texts. -/
theorem nodup_texts (h : entries.Pairwise fun e e' => ¬ alike e.1 e'.1 = true) : (texts entries).names.Nodup := by
  have hnames : (texts entries).names = entries.filterMap fun e => e.1.text? := by
    simp only [texts, Table.names, List.map_filterMap, Option.map_map, Function.comp_def, Option.map_id']
  rw [hnames, List.Nodup, List.pairwise_filterMap]
  refine h.imp fun hdiffer name hname other hother heq => hdiffer ?_
  exact (alike_text hother _).mpr (heq ▸ hname)

/-- A table that binds no name twice is a mapping. -/
theorem mapping_of_names {t : Table α} (h : t.names.Nodup) : Mapping (t.map fun e => (str e.1, e.2)) where
  keys := by
    intro e he
    obtain ⟨e', -, rfl⟩ := List.mem_map.mp he
    exact .plain rfl
  distinct := by
    refine List.pairwise_map.mpr ((List.pairwise_map.mp h).imp fun hne halike => hne ?_)
    exact Option.some.inj ((alike_str ..).mp halike)

end Stencil.Value
