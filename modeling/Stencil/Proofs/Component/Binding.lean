import Mathlib.Data.List.Nodup
import Stencil.Proofs.Step
import Stencil.Proofs.Value.Likeness
import Stencil.View.Component

/-!
# Making components from data

Each parameter of a constructor takes the value under its name; what is left over goes to the parameter that takes all
further named arguments, if there is one.  Whatever the constructor does with it, the component holds all of the data.

* `Parameter.value`, `Parameter.isLacking` — what a parameter takes from data, and when there is nothing for it.
* `Signature.Legal` — what every signature keeps to; `Signature.rest` — what is left over.
* `Signature.lacking`, `Signature.refusal` — why a constructor is not called.
* `Signature.Filled` — a constructor's parameters have what data give them; `Signature.Legal.bind_eq` — binding does it.
* `Run.create_binds` — making a component; `Run.rest_name_lost` — what is lost on the way.
-/

namespace Stencil

namespace Parameter

/-- The parameter takes all further arguments of a kind. -/
def isVariadic (p : Parameter) : Bool := p.taking = .allPositional || p.taking = .allNamed

/-- What the parameter takes from data: the value under its name, else all of the data or its default. -/
def share (data : List (Value × Value)) (p : Parameter) : Option Value :=
  match Value.lookup (.str p.name) data with
  | some v => some v
  | none => if p.name = "data" then some (.dict data none) else p.default

/-- The value that the parameter takes from data. -/
def value (data : List (Value × Value)) (p : Parameter) : Value := (p.share data).getD .null

/-- The parameter must have a value, and there is none for it in data. -/
def isLacking (data : List (Value × Value)) (p : Parameter) : Bool :=
  !p.isVariadic && p.default.isNone && p.name ≠ "data" && (Value.lookup (.str p.name) data).isNone

variable {data : List (Value × Value)} {p : Parameter} {v : Value}

theorem value_of_lookup (h : Value.lookup (.str p.name) data = some v) : p.value data = v := by
  rw [value, share, h]
  rfl

theorem value_of_absent (h : Value.lookup (.str p.name) data = none) :
    p.value data = if p.name = "data" then .dict data none else p.default.getD .null := by
  rw [value, share, h]
  dsimp only
  split <;> rfl

/-- A parameter lacks a value exactly if it takes none from data. -/
theorem isLacking_iff : p.isLacking data = true ↔ p.isVariadic = false ∧ p.share data = none := by
  have hshare : p.share data = none ↔
      (p.default = none ∧ p.name ≠ "data") ∧ Value.lookup (.str p.name) data = none := by
    rw [share]
    cases Value.lookup (.str p.name) data with
    | some v => exact iff_of_false (fun h => nomatch h) fun h => nomatch h.2
    | none =>
      by_cases hname : p.name = "data"
      · exact iff_of_false (fun h => by rw [if_pos hname] at h; cases h) fun h => h.1.2 hname
      · dsimp only
        rw [if_neg hname]
        exact ⟨fun h => ⟨⟨h, hname⟩, rfl⟩, fun h => h.1.1⟩
  rw [hshare, isLacking, Bool.and_eq_true, Bool.and_eq_true, Bool.and_eq_true, Bool.not_eq_true',
    Option.isNone_iff_eq_none, Option.isNone_iff_eq_none, decide_eq_true_eq, and_assoc, and_assoc, and_assoc]

theorem share_eq_value (hv : p.isVariadic = false) (h : p.isLacking data = false) :
    p.share data = some (p.value data) := by
  cases hshare : p.share data with
  | some v => rw [value, hshare]; rfl
  | none =>
    rw [isLacking_iff.mpr ⟨hv, hshare⟩] at h
    cases h

end Parameter

namespace Signature

/-- What every signature keeps to: parameters have different names, none has the receiver's, and nothing stands behind
the parameter that takes all further named arguments. -/
structure Legal (s : Signature) : Prop where
  distinct : (s.parameters.map Parameter.name).Nodup
  receiver : s.receiver = true → ("self" : Text) ∉ s.parameters.map Parameter.name
  last : ∀ p ∈ s.parameters.dropLast, p.taking ≠ .allNamed

variable {s : Signature} {data : List (Value × Value)}

/-- What no parameter has the name of. -/
def rest (s : Signature) (data : List (Value × Value)) : Table Value :=
  (Value.texts data).filter fun e => e.1 ∉ s.parameters.map Parameter.name

/-- What a constructor is given beside its parameters: what is left over, if a parameter takes it. -/
def more (s : Signature) (data : List (Value × Value)) : Table Value := if s.takes .allNamed then s.rest data else []

/-- The first parameter that must have a value and has none in data. -/
def lacking (s : Signature) (data : List (Value × Value)) : Option Parameter :=
  s.parameters.find? (·.isLacking data)

/-- Why what is left over cannot be given to a constructor: a key is no text, or it names the receiver. -/
def refusal (s : Signature) (data : List (Value × Value)) : Option Text :=
  if s.takes .allNamed && data.any fun e => e.1.text?.isNone then some "keywords must be strings"
  else if s.takes .allNamed && (s.receiver && (Value.lookup (.str "self") data).isSome) then
    some (s.name ++ "() got multiple values for argument " ++ Text.quoted "self")
  else none

/-- The parameter that takes what is left over stands at the end. -/
theorem Legal.split (h : s.Legal) :
    (s.takes .allNamed = false ∧ ∀ p ∈ s.parameters, p.taking ≠ .allNamed) ∨
      ∃ ps p, s.takes .allNamed = true ∧ s.parameters = ps ++ [p] ∧ p.taking = .allNamed ∧
        ∀ q ∈ ps, q.taking ≠ .allNamed := by
  cases htakes : s.takes .allNamed with
  | false =>
    refine .inl ⟨rfl, fun p hp => ?_⟩
    simpa using List.any_eq_false.mp htakes p hp
  | true =>
    obtain ⟨p, hp, htaking⟩ := List.any_eq_true.mp htakes
    have hne : s.parameters ≠ [] := List.ne_nil_of_mem hp
    have hsplit := List.dropLast_append_getLast hne
    rw [← hsplit, List.mem_append, List.mem_singleton] at hp
    refine .inr ⟨s.parameters.dropLast, s.parameters.getLast hne, rfl, hsplit.symm, ?_, h.last⟩
    rcases hp with hp | rfl
    · exact absurd (of_decide_eq_true htaking) (h.last p hp)
    · exact of_decide_eq_true htaking

theorem rest_cons_some {e : Value × Value} {n : Text} (h : e.1.text? = some n) : s.rest (e :: data) =
    if n ∈ s.parameters.map Parameter.name then s.rest data else (n, e.2) :: s.rest data := by
  rw [rest, Value.texts, List.filterMap_cons, h]
  dsimp only [Option.map_some]
  rw [List.filter_cons]
  by_cases hn : n ∈ s.parameters.map Parameter.name
  · rw [if_neg (by simpa using hn), if_pos hn]
    rfl
  · rw [if_pos (by simpa using hn), if_neg hn]
    rfl

/-- What is left over under a name is what data have under it, if no parameter has this name. -/
theorem get?_rest (n : Text) (data : List (Value × Value)) : (s.rest data).get? n =
    if n ∈ s.parameters.map Parameter.name then none else Value.lookup (.str n) data := by
  rw [rest, Table.get?_filter fun m => m ∉ s.parameters.map Parameter.name, Value.get?_texts]
  by_cases hn : n ∈ s.parameters.map Parameter.name <;> simp only [hn, not_true_eq_false, not_false_eq_true,
    decide_true, decide_false, if_true, if_false, Bool.false_eq_true]

theorem nodup_rest (h : Value.Mapping data) : (s.rest data).names.Nodup := by
  rw [rest, Table.names_filter fun m => m ∉ s.parameters.map Parameter.name]
  exact (Value.nodup_texts h.distinct).filter _

/-! ## Binding -/

variable {b : Bound} {given : List Text}

theorem isVariadic_eq_false {p : Parameter} :
    p.isVariadic = false ↔ p.taking.byPosition = true ∨ p.taking = .named := by
  cases htaking : p.taking <;> simp [Parameter.isVariadic, Taking.byPosition, htaking]

/-- The parameters that have one value each have different names. -/
theorem Legal.nodup_named (h : s.Legal) : ((s.positional ++ s.namedOnly).map Parameter.name).Nodup := by
  have hsub : ∀ p ∈ s.positional ++ s.namedOnly, p ∈ s.parameters := by
    intro p hp
    exact (List.mem_append.mp hp).elim List.mem_of_mem_filter List.mem_of_mem_filter
  have hparameters : s.parameters.Nodup := h.distinct.of_map
  refine List.Nodup.map_on (fun p hp q hq => List.inj_on_of_nodup_map h.distinct (hsub p hp) (hsub q hq)) ?_
  refine List.nodup_append.mpr ⟨hparameters.filter _, hparameters.filter _, ?_⟩
  rintro p hp q hq rfl
  have htaking : p.taking = .named := by simpa using List.of_mem_filter hq
  have := List.of_mem_filter hp
  rw [htaking] at this
  cases this

theorem bindNamed_parameter {p : Parameter} (hp : p ∈ s.parameters) (hby : p.taking.byName = true)
    (hself : s.receiver = true → p.name ≠ "self") (hfresh : p.name ∉ b.values.names) (v : Value) :
    s.bindNamed given b p.name v = .ok { b with values := b.values ++ [(p.name, v)] } := by
  have hparameter : s.parameters.any (fun q => q.taking.byName && q.name = p.name) = true :=
    List.any_eq_true.mpr ⟨p, hp, by simp [hby]⟩
  have hmultiple : ¬ (b.values.has p.name ∨ (s.receiver = true ∧ p.name = "self")) := by
    rintro (h | h)
    · exact hfresh (Table.has_iff.mp h)
    · exact hself h.1 h.2
  rw [bindNamed, if_pos (.inl hparameter), if_neg hmultiple, Table.put_of_not_mem hfresh]

theorem bindNamed_rest {n : Text} (hn : n ∉ s.parameters.map Parameter.name)
    (hself : ¬ (s.receiver = true ∧ n = "self")) (htakes : s.takes .allNamed = true) (v : Value) :
    s.bindNamed given b n v = .ok { b with more := b.more.put n v } := by
  have hparameter : ¬ (s.parameters.any (fun p => p.taking.byName && p.name = n) = true ∨
      (s.receiver = true ∧ n = "self")) := by
    rintro (h | h)
    · obtain ⟨p, hp, hname⟩ := List.any_eq_true.mp h
      rw [Bool.and_eq_true, decide_eq_true_eq] at hname
      exact hn (hname.2 ▸ List.mem_map_of_mem hp)
    · exact hself h
  rw [bindNamed, if_neg hparameter, if_pos htakes]

/-- The fault of a named argument that has the name of the receiver. -/
theorem bindNamed_self (h : s.receiver = true) (v : Value) :
    s.bindNamed given b "self" v = s.fault ("got multiple values for argument " ++ Text.quoted "self") := by
  rw [bindNamed, if_pos (.inr ⟨h, rfl⟩), if_pos (.inr ⟨h, rfl⟩)]

theorem foldlM_bindNamed_parameters {ps : List Parameter}
    (hps : ∀ p ∈ ps, p ∈ s.parameters ∧ p.taking.byName = true)
    (hself : s.receiver = true → ("self" : Text) ∉ s.parameters.map Parameter.name)
    (hdistinct : (ps.map Parameter.name).Nodup) (hfresh : ∀ p ∈ ps, p.name ∉ b.values.names) :
    (ps.map fun p => (p.name, p.value data)).foldlM (fun b e => s.bindNamed given b e.1 e.2) b =
      .ok { b with values := b.values ++ ps.map fun p => (p.name, p.value data) } := by
  induction ps generalizing b with
  | nil => rw [List.map_nil, List.append_nil]; rfl
  | cons p ps ih =>
    obtain ⟨hp, hps⟩ := List.forall_mem_cons.mp hps
    obtain ⟨hfirst, hfresh⟩ := List.forall_mem_cons.mp hfresh
    obtain ⟨hpn, hdistinct⟩ := List.nodup_cons.mp hdistinct
    have hname : s.receiver = true → p.name ≠ "self" := fun h heq =>
      hself h (heq ▸ List.mem_map_of_mem hp.1)
    rw [List.map_cons, List.foldlM_cons, bindNamed_parameter hp.1 hp.2 hname hfirst]
    refine (ih hps hdistinct fun q hq => ?_).trans ?_
    · have hne : q.name ≠ p.name := fun heq => hpn (heq ▸ List.mem_map_of_mem hq)
      simpa [Table.names, hne] using hfresh q hq
    · rw [List.append_assoc]
      rfl

theorem foldlM_bindNamed_rest {t : Table Value} (ht : ∀ n ∈ t.names, n ∉ s.parameters.map Parameter.name)
    (hself : s.receiver = true → ("self" : Text) ∉ t.names) (htakes : s.takes .allNamed = true)
    (hdistinct : t.names.Nodup) (hfresh : ∀ n ∈ t.names, n ∉ b.more.names) :
    t.foldlM (fun b e => s.bindNamed given b e.1 e.2) b = .ok { b with more := b.more ++ t } := by
  induction t generalizing b with
  | nil => rw [List.append_nil]; rfl
  | cons e t ih =>
    rw [Table.names_cons] at ht hself hdistinct hfresh
    obtain ⟨hn, ht⟩ := List.forall_mem_cons.mp ht
    obtain ⟨hfirst, hfresh⟩ := List.forall_mem_cons.mp hfresh
    obtain ⟨hen, hdistinct⟩ := List.nodup_cons.mp hdistinct
    have hother : ¬ (s.receiver = true ∧ e.1 = "self") := fun h => hself h.1 (h.2 ▸ List.mem_cons_self)
    rw [List.foldlM_cons, bindNamed_rest hn hother htakes, Table.put_of_not_mem hfirst]
    refine (ih ht (fun h hmem => hself h (List.mem_cons_of_mem _ hmem)) hdistinct fun n hmem => ?_).trans ?_
    · have hne : n ≠ e.1 := fun heq => hen (heq ▸ hmem)
      simpa [Table.names, hne] using hfresh n hmem
    · rw [List.append_assoc]
      rfl

/-- What is left over cannot be given if something in it has the name of the receiver. -/
theorem foldlM_bindNamed_self {t : Table Value} (ht : ∀ n ∈ t.names, n ∉ s.parameters.map Parameter.name)
    (hreceiver : s.receiver = true) (hself : ("self" : Text) ∈ t.names) (htakes : s.takes .allNamed = true) :
    t.foldlM (fun b e => s.bindNamed given b e.1 e.2) b =
      s.fault ("got multiple values for argument " ++ Text.quoted "self") := by
  induction t generalizing b with
  | nil => cases hself
  | cons e t ih =>
    rw [Table.names_cons] at ht hself
    obtain ⟨hn, ht⟩ := List.forall_mem_cons.mp ht
    rw [List.foldlM_cons]
    by_cases he : e.1 = "self"
    · rw [he, bindNamed_self hreceiver]
      rfl
    · rw [bindNamed_rest hn (fun h => he h.2) htakes]
      exact ih ht ((List.mem_cons.mp hself).resolve_left fun h => he h.symm)

theorem foldl_fillDefault {ps : List Parameter} {values : Table Value} (h : ∀ p ∈ ps, p.name ∈ values.names) :
    ps.foldl fillDefault values = values := by
  induction ps with
  | nil => rfl
  | cons p ps ih =>
    obtain ⟨hp, hps⟩ := List.forall_mem_cons.mp h
    rw [List.foldl_cons, fillDefault, if_pos (Table.has_iff.mpr hp)]
    exact ih hps

theorem checkMissing_eq {ps : List Parameter} {values : Table Value} (h : ∀ p ∈ ps, p.name ∈ values.names)
    (noun : Text) : s.checkMissing values ps noun = .ok () := by
  have hnone : (ps.filter fun p => !values.has p.name) = [] := by
    refine List.filter_eq_nil_iff.mpr fun p hp => ?_
    rw [Table.has_iff.mpr (h p hp)]
    decide
  rw [checkMissing, hnone]
  rfl

theorem Legal.foldlM_bindNamed_namedOnly (h : s.Legal) :
    (s.namedOnly.map fun p => (p.name, p.value data)).foldlM (fun b e => s.bindNamed given b e.1 e.2)
      { values := s.positional.map fun p => (p.name, p.value data) } =
      .ok { values := (s.positional ++ s.namedOnly).map fun p => (p.name, p.value data) } := by
  have hnodup := h.nodup_named
  rw [List.map_append, List.nodup_append] at hnodup
  rw [List.map_append]
  refine foldlM_bindNamed_parameters (fun p hp => ⟨List.mem_of_mem_filter hp, ?_⟩) h.receiver hnodup.2.1 ?_
  · have htaking : p.taking = .named := by simpa using List.of_mem_filter hp
    rw [htaking]
    rfl
  · intro p hp hmem
    rw [Table.names, List.map_map] at hmem
    exact hnodup.2.2 p.name hmem p.name (List.mem_map_of_mem hp) rfl

/-- What is left over is given by name, unless something in it has the name of the receiver. -/
theorem Legal.foldlM_bindNamed_more (h : s.Legal) (hdata : Value.Mapping data) (hb : b.more = []) :
    (s.more data).foldlM (fun b e => s.bindNamed given b e.1 e.2) b =
      if s.takes .allNamed && (s.receiver && (Value.lookup (.str "self") data).isSome) then
        s.fault ("got multiple values for argument " ++ Text.quoted "self")
      else .ok { b with more := s.more data } := by
  cases htakes : s.takes .allNamed with
  | false =>
    rw [more, htakes, Bool.false_and, if_neg Bool.false_ne_true, if_neg Bool.false_ne_true, ← hb]
    exact congrArg (List.foldlM _ b) hb
  | true =>
    have hnames : ∀ n ∈ (s.rest data).names, n ∉ s.parameters.map Parameter.name := by
      intro n hn
      rw [rest, Table.names_filter fun m => m ∉ s.parameters.map Parameter.name, List.mem_filter] at hn
      simpa using hn.2
    have hself : s.receiver = true →
        (("self" : Text) ∈ (s.rest data).names ↔ (Value.lookup (.str "self") data).isSome = true) := by
      intro hreceiver
      rw [Table.mem_names_iff, get?_rest, if_neg (h.receiver hreceiver), Option.isSome_iff_exists]
    rw [more, htakes, if_pos rfl, Bool.true_and]
    by_cases hrefused : (s.receiver && (Value.lookup (.str "self") data).isSome) = true
    · rw [if_pos hrefused]
      rw [Bool.and_eq_true] at hrefused
      exact foldlM_bindNamed_self hnames hrefused.1 ((hself hrefused.1).mpr hrefused.2) htakes
    · rw [if_neg hrefused]
      rw [Bool.and_eq_true, not_and] at hrefused
      have hfresh : ∀ n ∈ (s.rest data).names, n ∉ b.more.names := by
        rw [hb]
        exact fun n _ => List.not_mem_nil
      rw [foldlM_bindNamed_rest hnames (fun hr hmem => hrefused hr ((hself hr).mp hmem)) htakes (nodup_rest hdata)
        hfresh, hb]
      rfl

/-- The values of a constructor's parameters that are taken from data. -/
def filled (s : Signature) (data : List (Value × Value)) : Bound where
  values := (s.positional ++ s.namedOnly).map fun p => (p.name, p.value data)
  more := s.more data

/-- The parameters of a constructor have the values that data give them: each one what it has under its name, or else
all of the data or its default; the one that takes further named arguments has what no parameter has the name of. -/
structure Filled (s : Signature) (data : List (Value × Value)) (b : Bound) : Prop where
  names : ∀ n, n ∈ b.values.names ↔ ∃ p ∈ s.parameters, p.isVariadic = false ∧ p.name = n
  given : ∀ p ∈ s.parameters, p.isVariadic = false → ∀ v, Value.lookup (.str p.name) data = some v → b.get p.name = v
  absent : ∀ p ∈ s.parameters, p.isVariadic = false → Value.lookup (.str p.name) data = none →
    b.get p.name = if p.name = "data" then .dict data none else p.default.getD .null
  extra : b.extra = []
  distinct : b.more.names.Nodup
  more : ∀ n, b.more.get? n =
    if s.takes .allNamed = true ∧ n ∉ s.parameters.map Parameter.name then Value.lookup (.str n) data else none

theorem mem_single {p : Parameter} :
    p ∈ s.positional ++ s.namedOnly ↔ p ∈ s.parameters ∧ p.isVariadic = false := by
  rw [List.mem_append, positional, namedOnly, List.mem_filter, List.mem_filter, ← and_or_left, decide_eq_true_eq,
    isVariadic_eq_false]

theorem Legal.filled (h : s.Legal) (hdata : Value.Mapping data) : s.Filled data (s.filled data) := by
  have hnames : (s.filled data).values.names = (s.positional ++ s.namedOnly).map Parameter.name := by
    rw [Signature.filled, Table.names, List.map_map]
    rfl
  have hget : ∀ p ∈ s.parameters, p.isVariadic = false → (s.filled data).get p.name = p.value data := by
    intro p hp hv
    have hmem : (p.name, p.value data) ∈ (s.filled data).values :=
      List.mem_map_of_mem (mem_single.mpr ⟨hp, hv⟩)
    rw [Bound.get, (Table.mem_iff (hnames ▸ h.nodup_named)).mp hmem]
    rfl
  refine ⟨fun n => ?_, fun p hp hv v hlookup => ?_, fun p hp hv hlookup => ?_, rfl, ?_, fun n => ?_⟩
  · simp only [hnames, List.mem_map, mem_single, and_assoc]
  · rw [hget p hp hv, Parameter.value_of_lookup hlookup]
  · rw [hget p hp hv, Parameter.value_of_absent hlookup]
  · change (s.more data).names.Nodup
    rw [Signature.more]
    split
    · exact nodup_rest hdata
    · exact List.nodup_nil
  · change (s.more data).get? n = _
    rw [Signature.more]
    by_cases htakes : s.takes .allNamed = true
    · rw [if_pos htakes, get?_rest]
      by_cases hn : n ∈ s.parameters.map Parameter.name
      · rw [if_pos hn, if_neg fun h => h.2 hn]
      · rw [if_neg hn, if_pos ⟨htakes, hn⟩]
    · rw [if_neg htakes, if_neg fun h => htakes h.1]
      rfl

theorem name_mem_filled {p : Parameter} (hp : p ∈ s.positional ++ s.namedOnly) :
    p.name ∈ (s.filled data).values.names := by
  rw [filled, Table.names, List.map_map]
  exact List.mem_map_of_mem hp

/-- **Binding.**  A constructor that is called with what its parameters take from data binds just that, unless something
that is left over has the name of the receiver. -/
theorem Legal.bind_eq (h : s.Legal) (hdata : Value.Mapping data) :
    s.bind (s.positional.map (·.value data)) ((s.namedOnly.map fun p => (p.name, p.value data)) ++ s.more data) =
      if s.takes .allNamed && (s.receiver && (Value.lookup (.str "self") data).isSome) then
        s.fault ("got multiple values for argument " ++ Text.quoted "self")
      else .ok (s.filled data) := by
  have hdirect : (s.positional.map Parameter.name).zip (s.positional.map (·.value data)) =
      s.positional.map fun p => (p.name, p.value data) := List.zip_map' ..
  have hextra : (s.positional.map (·.value data)).drop s.positional.length = [] :=
    List.drop_eq_nil_of_le (List.length_map _).le
  have hcount : ∀ n, s.checkCount (s.positional.map (·.value data)).length n = .ok () := by
    intro n
    rw [checkCount, List.length_map]
    exact if_pos (.inl le_rfl)
  have hpositional : ∀ p ∈ s.positional, p.name ∈ (s.filled data).values.names :=
    fun p hp => name_mem_filled (List.mem_append_left _ hp)
  have hnamedOnly : ∀ p ∈ s.namedOnly, p.name ∈ (s.filled data).values.names :=
    fun p hp => name_mem_filled (List.mem_append_right _ hp)
  rw [Signature.bind, hdirect, hextra, List.foldlM_append]
  change ((((s.namedOnly.map fun p => (p.name, p.value data)).foldlM (fun b e => s.bindNamed _ b e.1 e.2)
    { values := s.positional.map fun p => (p.name, p.value data) }) >>= fun b =>
      (s.more data).foldlM (fun b e => s.bindNamed _ b e.1 e.2) b) >>= _) = _
  rw [h.foldlM_bindNamed_namedOnly]
  change ((s.more data).foldlM (fun b e => s.bindNamed _ b e.1 e.2)
    { values := (s.positional ++ s.namedOnly).map fun p => (p.name, p.value data) } >>= _) = _
  rw [h.foldlM_bindNamed_more hdata rfl]
  split
  · rfl
  · change (s.checkCount _ _ >>= fun _ =>
      let values := (s.positional ++ s.namedOnly).foldl fillDefault (s.filled data).values
      s.checkMissing values s.positional "positional argument" >>= fun _ =>
        s.checkMissing values s.namedOnly "keyword-only argument" >>= fun _ => .ok { s.filled data with values }) = _
    rw [hcount, foldl_fillDefault fun p => name_mem_filled]
    dsimp only
    rw [checkMissing_eq hpositional, checkMissing_eq hnamedOnly]
    rfl

end Signature

namespace ComponentRegistry

variable {name : Text} {cls : ComponentClass} {data : List (Value × Value)} {a : Arguments} {p : Parameter}

/-- The error of a parameter that has no value. -/
def missing (name : Text) (cls : ComponentClass) (p : Parameter) : Error :=
  .component name ("missing required parameter '" ++ p.name ++ "' for " ++ cls.name)

/-- The error of a constructor that cannot be called. -/
def unconstructed (name : Text) (cls : ComponentClass) (detail : Text) : Error :=
  .component name ("cannot construct " ++ cls.name ++ ": " ++ detail)

theorem constructionError_wrongType (detail : Text) :
    constructionError name cls (.fault (.wrongType detail)) = unconstructed name cls detail := by
  rw [constructionError, if_pos (by rfl)]
  rfl

theorem takeParameter_eq (hp : p.isVariadic = false) :
    takeParameter name cls data a p = match p.share data with
      | some v => .ok (a.give p v)
      | none => .error (missing name cls p) := by
  obtain ⟨n, taking, default⟩ := p
  unfold takeParameter Parameter.share
  cases taking <;> simp [Parameter.isVariadic] at hp
  all_goals
    dsimp only
    cases Value.lookup (.str n) data with
    | some v => rfl
    | none =>
      dsimp only
      split
      · rfl
      · cases default <;> rfl

/-- The parameters in front of a first one that lacks a value take theirs; then making the component ends. -/
theorem foldlM_takeParameter_missing {ps : List Parameter} (hlast : ∀ q ∈ ps.dropLast, q.taking ≠ .allNamed)
    (hfind : ps.find? (·.isLacking data) = some p) (a : Arguments) :
    ps.foldlM (takeParameter name cls data) a = .error (missing name cls p) := by
  induction ps generalizing a with
  | nil => cases hfind
  | cons q ps ih =>
    rw [List.foldlM_cons]
    by_cases hq : q.isLacking data = true
    · rw [List.find?_cons_of_pos hq, Option.some.injEq] at hfind
      subst hfind
      obtain ⟨hv, hshare⟩ := Parameter.isLacking_iff.mp hq
      rw [takeParameter_eq hv, hshare]
      rfl
    · rw [List.find?_cons_of_neg hq] at hfind
      have hne : ps ≠ [] := by
        rintro rfl
        cases hfind
      rw [List.dropLast_cons_of_ne_nil hne, List.forall_mem_cons] at hlast
      obtain ⟨a', ha'⟩ : ∃ a', takeParameter name cls data a q = .ok a' := by
        by_cases hv : q.isVariadic = true
        · have hall : q.taking = .allPositional := by
            simpa [Parameter.isVariadic, hlast.1] using hv
          exact ⟨a, by rw [takeParameter, hall]⟩
        · rw [Bool.not_eq_true] at hv hq
          rw [takeParameter_eq hv, Parameter.share_eq_value hv hq]
          exact ⟨_, rfl⟩
      rw [ha']
      exact ih hlast.2 hfind a'

/-- Gives a parameter its value, unless it takes further arguments. -/
def Arguments.take (data : List (Value × Value)) (a : Arguments) (p : Parameter) : Arguments :=
  if p.isVariadic then a else a.give p (p.value data)

theorem foldlM_takeParameter {ps : List Parameter} (hps : ∀ q ∈ ps, q.taking ≠ .allNamed)
    (hfind : ∀ q ∈ ps, q.isLacking data = false) (a : Arguments) :
    ps.foldlM (takeParameter name cls data) a = .ok (ps.foldl (Arguments.take data) a) := by
  induction ps generalizing a with
  | nil => rfl
  | cons q ps ih =>
    obtain ⟨hq, hps⟩ := List.forall_mem_cons.mp hps
    obtain ⟨hshare, hfind⟩ := List.forall_mem_cons.mp hfind
    have htaken : takeParameter name cls data a q = .ok (a.take data q) := by
      rw [Arguments.take]
      split
      case isTrue hv =>
        have hall : q.taking = .allPositional := by simpa [Parameter.isVariadic, hq] using hv
        rw [takeParameter, hall]
      case isFalse hv =>
        rw [Bool.not_eq_true] at hv
        rw [takeParameter_eq hv, Parameter.share_eq_value hv hshare]
    rw [List.foldlM_cons, htaken]
    exact ih hps hfind _

theorem positional_foldl_take (ps : List Parameter) (a : Arguments) :
    (ps.foldl (Arguments.take data) a).positional =
      a.positional ++ (ps.filter (·.taking.byPosition)).map (·.value data) := by
  induction ps generalizing a with
  | nil => exact (List.append_nil _).symm
  | cons q ps ih =>
    rw [List.foldl_cons, ih]
    cases htaking : q.taking <;>
      simp [Arguments.take, Arguments.give, Parameter.isVariadic, Taking.byPosition, htaking]

theorem named_foldl_take {ps : List Parameter} {a : Arguments}
    (hdistinct : (ps.map Parameter.name).Nodup) (hfresh : ∀ q ∈ ps, q.name ∉ a.named.names) :
    (ps.foldl (Arguments.take data) a).named =
      a.named ++ (ps.filter (·.taking = .named)).map fun q => (q.name, q.value data) := by
  induction ps generalizing a with
  | nil => exact (List.append_nil _).symm
  | cons q ps ih =>
    obtain ⟨hq, hdistinct⟩ := List.nodup_cons.mp hdistinct
    obtain ⟨hfirst, hfresh⟩ := List.forall_mem_cons.mp hfresh
    rw [List.foldl_cons]
    by_cases htaking : q.taking = .named
    · have htake : a.take data q = { a with named := a.named ++ [(q.name, q.value data)] } := by
        rw [Arguments.take, if_neg (by simp [Parameter.isVariadic, htaking]), Arguments.give, if_pos htaking,
          Table.put_of_not_mem hfirst]
      rw [htake, ih hdistinct, List.filter_cons_of_pos (by simpa using htaking), List.map_cons, List.append_assoc]
      · rfl
      · intro r hr
        have hne : r.name ≠ q.name := fun heq => hq (heq ▸ List.mem_map_of_mem hr)
        simpa [Table.names, hne] using hfresh r hr
    · have hnamed : (a.take data q).named = a.named := by
        rw [Arguments.take]
        split
        · rfl
        · rw [Arguments.give, if_neg htaking]
      rw [ih hdistinct (by rwa [hnamed]), hnamed, List.filter_cons_of_neg (by simpa using htaking)]

theorem namedFrom_cons_some {e : Value × Value} {n : Text} (h : e.1.text? = some n) (entries : List (Value × Value)) :
    namedFrom name cls (e :: entries) = (namedFrom name cls entries).map ((n, e.2) :: ·) := by
  obtain ⟨k, v⟩ := e
  dsimp only at h ⊢
  rw [namedFrom, List.mapM_cons]
  dsimp only
  rw [h]
  change (namedFrom name cls entries >>= fun more => Except.ok ((n, v) :: more)) = _
  cases namedFrom name cls entries <;> rfl

theorem namedFrom_cons_none {e : Value × Value} (h : e.1.text? = none) (entries : List (Value × Value)) :
    namedFrom name cls (e :: entries) = .error (unconstructed name cls "keywords must be strings") := by
  obtain ⟨k, v⟩ := e
  dsimp only at h
  have hdetail : unconstructed name cls "keywords must be strings" =
      .component name ("cannot construct " ++ cls.name ++ ": keywords must be strings") :=
    congrArg (Error.component name) (List.append_assoc ..)
  rw [namedFrom, List.mapM_cons, hdetail]
  dsimp only
  rw [h]
  rfl

theorem foldl_take {ps : List Parameter} (hdistinct : (ps.map Parameter.name).Nodup) :
    ps.foldl (Arguments.take data) {} = {
      positional := (ps.filter (·.taking.byPosition)).map (·.value data)
      named := (ps.filter (·.taking = .named)).map fun p => (p.name, p.value data) } := by
  have hpositional := @positional_foldl_take data ps {}
  have hnamed := @named_foldl_take data ps {} hdistinct fun _ _ => List.not_mem_nil
  rw [List.nil_append] at hpositional hnamed
  rw [← hpositional, ← hnamed]

/-- What is left over can be given by name if all keys are texts. -/
theorem namedFrom_rest (data : List (Value × Value)) :
    namedFrom name cls (data.filter fun e => (e.1.text?.map fun s =>
      !(cls.signature.parameters.map Parameter.name).contains s).getD true) =
      if data.any fun e => e.1.text?.isNone then .error (unconstructed name cls "keywords must be strings")
      else .ok (cls.signature.rest data) := by
  induction data with
  | nil => rfl
  | cons e data ih =>
    rw [List.filter_cons, List.any_cons]
    cases htext : e.1.text? with
    | none => exact namedFrom_cons_none htext _
    | some n =>
      rw [Option.map_some, Option.getD_some, Option.isNone_some, Bool.false_or, Signature.rest_cons_some htext]
      by_cases hn : n ∈ cls.signature.parameters.map Parameter.name
      · rw [if_neg (by simpa using hn), if_pos hn]
        exact ih
      · rw [if_pos (by simpa using hn), if_neg hn, namedFrom_cons_some htext, ih]
        split <;> rfl

/-- The parameter that takes all further named arguments takes what is left over, if all keys are texts. -/
theorem takeParameter_rest (hp : p.taking = .allNamed) (a : Arguments) :
    takeParameter name cls data a p =
      if data.any fun e => e.1.text?.isNone then .error (unconstructed name cls "keywords must be strings")
      else .ok { a with named := a.named ++ cls.signature.rest data } := by
  rw [takeParameter, hp]
  dsimp only
  rw [namedFrom_rest]
  split <;> rfl

/-- The arguments of a constructor for which every parameter has its value. -/
theorem argumentsFrom_eq (hlegal : cls.signature.Legal) (hnone : cls.signature.lacking data = none) :
    argumentsFrom name cls data =
      if cls.signature.takes .allNamed && data.any fun e => e.1.text?.isNone then
        .error (unconstructed name cls "keywords must be strings")
      else .ok {
        positional := cls.signature.positional.map (·.value data)
        named := (cls.signature.namedOnly.map fun p => (p.name, p.value data)) ++ cls.signature.more data } := by
  have hfind : ∀ p ∈ cls.signature.parameters, p.isLacking data = false := by
    intro p hp
    simpa using List.find?_eq_none.mp hnone p hp
  have hdistinct := hlegal.distinct
  rcases hlegal.split with ⟨htakes, hall⟩ | ⟨ps, p, htakes, hsplit, hp, hps⟩
  · rw [argumentsFrom, foldlM_takeParameter hall hfind, foldl_take hdistinct, Signature.more, htakes, Bool.false_and,
      if_neg Bool.false_ne_true, if_neg Bool.false_ne_true, List.append_nil]
    rfl
  · rw [hsplit, List.forall_mem_append] at hfind
    rw [hsplit, List.map_append] at hdistinct
    have hlast : ∀ a, [p].foldlM (takeParameter name cls data) a = takeParameter name cls data a p :=
      fun a => bind_pure _
    rw [argumentsFrom, hsplit, List.foldlM_append, foldlM_takeParameter hps hfind.1,
      foldl_take (List.Nodup.of_append_left hdistinct)]
    change [p].foldlM (takeParameter name cls data) _ = _
    rw [hlast, takeParameter_rest hp, htakes, Bool.true_and, Signature.more, htakes, if_pos rfl, Signature.positional,
      Signature.namedOnly, hsplit, List.filter_append, List.filter_append]
    simp only [hp, Taking.byPosition, List.filter_cons_of_neg, List.filter_nil, List.append_nil, reduceCtorEq,
      decide_false, Bool.false_eq_true, not_false_eq_true]

end ComponentRegistry

namespace Bag

/-- What has been put into data is found there. -/
theorem get_merge {bag : Bag} {data : List (Value × Value)} {key w : Value} (hdata : Value.Mapping data)
    (h : Value.lookup key data = some w)
    (hkey : key.text?.isSome ∨ Value.IsKey key ∧ ∀ e ∈ bag.data, Value.IsKey e.1) (d : Value) :
    (bag.merge data).get key d = w := by
  have hagrees : (∀ e ∈ bag.data, ∀ e' ∈ data, Value.Agrees key e.1 e'.1) ∧
      ∀ e ∈ data, ∀ e' ∈ data, Value.Agrees key e.1 e'.1 := by
    rcases hkey with htext | ⟨hkey, hbag⟩
    · obtain ⟨name, hname⟩ := Option.isSome_iff_exists.mp htext
      exact ⟨fun _ _ _ _ => Value.agrees_text hname .., fun _ _ _ _ => Value.agrees_text hname ..⟩
    · exact ⟨fun e he e' he' => hkey.agrees (hbag e he) (hdata.keys e' he'),
        fun e he e' he' => hkey.agrees (hdata.keys e he) (hdata.keys e' he')⟩
  rw [Bag.get, Bag.merge, Value.lookup_merge hdata.distinct hagrees.1 hagrees.2, h]
  rfl

end Bag

namespace Run

variable {name : Text} {cls : ComponentClass} {data : List (Value × Value)}

/-- What a constructor makes of the values of its parameters. -/
def called (cls : ComponentClass) (b : Bound) : Run Component := do
  let (data, attributes) ← lift (cls.construct b)
  let data ← entriesOrNone data
  let bag ← lift (cls.prepare { data, attributes })
  return { bag with cls }

theorem construct_of_bind {args : List Value} {named : Table Value} {b : Bound}
    (h : cls.signature.bind args named = .ok b) : construct cls args named = called cls b := by
  rw [construct, h]
  rfl

theorem construct_of_fault {args : List Value} {named : Table Value} {f : Fault}
    (h : cls.signature.bind args named = .error f) : construct cls args named = throw (.fault f) := by
  rw [construct, h]
  rfl

theorem constructFrom_missing {p : Parameter} (hlegal : cls.signature.Legal)
    (h : cls.signature.lacking data = some p) :
    constructFrom name cls data = throw (ComponentRegistry.missing name cls p) := by
  rw [constructFrom, ComponentRegistry.argumentsFrom, ComponentRegistry.foldlM_takeParameter_missing hlegal.last h]

/-- A constructor whose parameters all have their values is called with them, unless what is left over cannot be
given. -/
theorem constructFrom_eq (hlegal : cls.signature.Legal) (hdata : Value.Mapping data)
    (hnone : cls.signature.lacking data = none) :
    constructFrom name cls data = match cls.signature.refusal data with
      | some detail => throw (ComponentRegistry.unconstructed name cls detail)
      | none => do
        let c ← tryCatch (called cls (cls.signature.filled data)) fun e =>
          throw (ComponentRegistry.constructionError name cls e)
        return { c.toBag.merge data with cls, attached := true } := by
  have hbind := hlegal.bind_eq hdata
  rw [constructFrom, ComponentRegistry.argumentsFrom_eq hlegal hnone, Signature.refusal]
  by_cases hkeys : (cls.signature.takes .allNamed && data.any fun e => e.1.text?.isNone) = true
  · rw [if_pos hkeys, if_pos hkeys]
  rw [if_neg hkeys, if_neg hkeys]
  by_cases hself : (cls.signature.takes .allNamed &&
      (cls.signature.receiver && (Value.lookup (.str "self") data).isSome)) = true
  · have hdetail : cls.signature.name ++ "() " ++ ("got multiple values for argument " ++ Text.quoted "self") =
        cls.signature.name ++ "() got multiple values for argument " ++ Text.quoted "self" := by
      rw [List.append_assoc, List.append_assoc]
      rfl
    rw [if_pos hself, Signature.fault, hdetail] at hbind
    rw [if_pos hself]
    dsimp only
    rw [construct_of_fault hbind, ← ComponentRegistry.constructionError_wrongType]
    rfl
  · rw [if_neg hself] at hbind
    rw [if_neg hself]
    dsimp only
    rw [construct_of_bind hbind]

/-- A component that has been made from data holds them, whatever else it holds. -/
theorem runFrom_constructFrom {s t : State} {c : Component}
    (h : runFrom (constructFrom name cls data) s = (.ok c, t)) :
    ∃ bag : Bag, c = { bag.merge data with cls, attached := true } := by
  rw [constructFrom] at h
  split at h
  · cases h
  · obtain ⟨c₀, u, -, hc⟩ := runFrom_bind_eq_ok.mp h
    exact ⟨c₀.toBag, by cases hc; rfl⟩

/-- **Making a component from data.**  It fails with the first parameter that has no value, or because of what is left
over; otherwise the constructor is called with what data give its parameters.  A component that comes of it holds all of
the data. -/
theorem create_binds {v : View} {title : Value} (htitle : title.text? = some name)
    (hname : ComponentRegistry.isName name = true) (hcls : v.components.resolve name = some cls)
    (hlegal : cls.signature.Legal) (hdata : Value.Mapping data) :
    (∀ p, cls.signature.lacking data = some p → create v title data = throw (ComponentRegistry.missing name cls p)) ∧
    (cls.signature.lacking data = none → ∀ detail, cls.signature.refusal data = some detail →
      create v title data = throw (ComponentRegistry.unconstructed name cls detail)) ∧
    (cls.signature.lacking data = none → cls.signature.refusal data = none →
      ∃ b, cls.signature.Filled data b ∧ create v title data = do
        let c ← tryCatch (called cls b) fun e => throw (ComponentRegistry.constructionError name cls e)
        addComponent { c.toBag.merge data with cls, attached := true }) ∧
    ∀ s id t, runFrom (create v title data) s = (.ok id, t) → ∃ (bag : Bag) (c : Component),
      c = { bag.merge data with cls, attached := true } ∧ t.components[id]? = some c ∧
      (bag.who = none → t.component id = c) ∧
      ∀ key w, Value.lookup key data = some w →
        (key.text?.isSome ∨ Value.IsKey key ∧ ∀ e ∈ bag.data, Value.IsKey e.1) → ∀ d, c.get key d = w := by
  have hcreate : create v title data = constructFrom name cls data >>= addComponent := by
    rw [create, htitle]
    dsimp only
    rw [hname, hcls]
    rfl
  rw [hcreate]
  refine ⟨fun p hp => ?_, fun hnone detail hdetail => ?_, fun hnone hfree => ?_, fun s id t h => ?_⟩
  · rw [constructFrom_missing hlegal hp]
    rfl
  · rw [constructFrom_eq hlegal hdata hnone, hdetail]
    rfl
  · refine ⟨cls.signature.filled data, hlegal.filled hdata, ?_⟩
    rw [constructFrom_eq hlegal hdata hnone, hfree]
    dsimp only
    simp only [bind_assoc, pure_bind]
  · obtain ⟨c, u, hc, hadd⟩ := runFrom_bind_eq_ok.mp h
    obtain ⟨bag, rfl⟩ := runFrom_constructFrom hc
    cases hadd
    refine ⟨bag, _, rfl, Array.getElem?_push_size, fun hwho => ?_, fun key w hw hkey d => Bag.get_merge hdata hw hkey d⟩
    have hwho : (bag.merge data).who = none := hwho
    rw [State.component, Array.getElem?_push_size]
    dsimp only [Option.getD_some]
    rw [hwho]
    rfl

/-- A constructor with a parameter and one that takes all further named arguments, which become attributes. -/
def gathering : ComponentClass where
  name := "Rest"
  signature := {
    name := "Rest.__init__"
    parameters := [{ name := "first" }, { name := "rest", taking := .allNamed }]
    receiver := true }
  construct b := .ok (.null, ("first", b.get "first") :: b.more)

/-- A view that knows this class. -/
def gatheringView : View where
  config := { app := ⟨[], ["app"]⟩ }
  finder := { app := ⟨[], ["app"]⟩ }
  registry := .standard
  components := { app := [("rest", gathering)] }
  context := {}

theorem gathering_legal : gathering.signature.Legal where
  distinct := by decide
  receiver _ := by decide
  last := by decide

/-- Nothing has been made yet. -/
def untouched : State := .ofFiles {}

/-- Data for the parameter and two things more. -/
def threeNames : Table Value := [("first", .int 1), ("b", .int 2), ("a", .int 3)]

/-- The things more reach the constructor, and the component holds everything. -/
theorem gathering_binds :
    let data := threeNames.map fun e => (Value.str e.1, e.2)
    (∃ b, b.get "first" = .int 1 ∧ b.more.get? "b" = some (.int 2) ∧ b.more.get? "a" = some (.int 3) ∧
      create gatheringView (.str "rest") data = do
        let c ← tryCatch (called gathering b) fun e => throw (ComponentRegistry.constructionError "rest" gathering e)
        addComponent { c.toBag.merge data with cls := gathering, attached := true }) ∧
    ∃ t c, runFrom (create gatheringView (.str "rest") data) untouched = (.ok 0, t) ∧
      t.components[0]? = some c ∧ ∀ d, c.get (.str "a") d = .int 3 := by
  intro data
  have hmapping : Value.Mapping data := Value.mapping_of_names (by decide)
  obtain ⟨-, -, hcalled, hmade⟩ := @create_binds "rest" gathering data gatheringView (.str "rest") rfl (by decide) rfl
    gathering_legal hmapping
  obtain ⟨b, hfilled, hcreate⟩ := hcalled (by cbv) (by cbv)
  refine ⟨⟨b, hfilled.given _ List.mem_cons_self rfl _ (by cbv), ?_, ?_, hcreate⟩, ?_⟩
  · exact (hfilled.more _).trans (by cbv)
  · exact (hfilled.more _).trans (by cbv)
  · obtain ⟨t, ht⟩ : ∃ t, runFrom (create gatheringView (.str "rest") data) untouched = (.ok 0, t) := by
      rw [hcreate]
      exact ⟨_, rfl⟩
    obtain ⟨bag, c, -, hc, -, hget⟩ := hmade _ _ _ ht
    exact ⟨t, c, ht, hc, hget _ _ (by cbv) (.inl rfl)⟩

/-- Data with something under the name of the parameter that takes all further named arguments. -/
def sameName : List (Value × Value) := [(.str "first", .int 1), (.str "rest", .int 2)]

/-- No other parameter has this name, but what data have under it does not reach the constructor. -/
theorem rest_name_lost :
    Value.lookup (.str "rest") sameName = some (.int 2) ∧
    (∀ p ∈ gathering.signature.parameters, p.isVariadic = false → p.name ≠ "rest") ∧
    ComponentRegistry.argumentsFrom "rest" gathering sameName = .ok { positional := [.int 1] } ∧
    ∃ t c, runFrom (create gatheringView (.str "rest") sameName) untouched = (.ok 0, t) ∧ t.components[0]? = some c ∧
      c.attributes = ([("first", .int 1)] : Table Value) := by
  have harguments : ComponentRegistry.argumentsFrom "rest" gathering sameName = .ok { positional := [.int 1] } := by cbv
  have hcreate : create gatheringView (.str "rest") sameName =
      constructFrom "rest" gathering sameName >>= addComponent := rfl
  refine ⟨by cbv, by decide, harguments, ?_⟩
  rw [hcreate, constructFrom, harguments]
  exact ⟨_, _, rfl, rfl, rfl⟩

end Run

end Stencil
