import Stencil.Proofs.View.Frame

/-!
# What a loop does to the state

A loop has a frame on top of the loops around it, and a stream that advances the frame with each value that is taken.  A
loop is *in a turn* if its frame says so and if as many values are still to come as the frame tells.  What is gone
through is looked at anew before each value, and has its length as long as nothing that a step changes is part of it.

* `Value.Current` — a value has as many parts as what is known to have changed of it.
* `Run.Undisturbed`, `Run.Spares` — what a step leaves of the loops that are open.
* `Run.Looping` — a loop that is open, in a turn.
* `Run.Looping.next`, `Run.openLoop_cases`, `Run.spares_closed` — taking a value, opening a loop and closing it.
* `Run.Stack` — all loops that are open, each in its turn.
-/

namespace Stencil

/-! ## Values that are up to date -/

namespace Value

variable {changes : Changes} {again : List Identity → Value → Value} {around : List Identity} {v w : Value} {n : Nat}

/-- What has changed is known under its own identity. -/
def Filed (changes : Changes) : Prop := ∀ who w, changes who = some w → w.identity? = some who

/-- A value has as many parts as what is known to have changed of it. -/
def Current (changes : Changes) (w : Value) : Prop :=
  match w, w.identity?.bind changes with
  | .list old _, some (.list new _) => new.length = old.length
  | .dict old _, some (.dict new _) => new.length = old.length
  | .listing _ old _, some (.dict new _) => new.length = old.length
  | .set old _, some (.set new _) => new.length = old.length
  | _, _ => True

@[simp] theorem length_refreshAll (vs : List Value) :
    (refreshAll changes again around vs).length = vs.length := by
  induction vs with
  | nil => rw [refreshAll]
  | cons v vs ih => rw [refreshAll, List.length_cons, ih, List.length_cons]

@[simp] theorem length_refreshEntries (es : List (Value × Value)) :
    (refreshEntries changes again around es).length = es.length := by
  induction es with
  | nil => rw [refreshEntries]
  | cons e es ih => rw [refreshEntries, List.length_cons, ih, List.length_cons]

@[simp] theorem length_listed (kind : Listing) (es : List (Value × Value)) : (listed kind es).length = es.length := by
  cases kind <;> simp [listed]

/-- A value that has a length goes through as many values. -/
theorem items?_of_length? (h : length? v = some n) : ∃ items, items? v = some items ∧ items.length = n := by
  cases v <;> simp_all [length?, items?]

theorem current_of_identity?_none (h : w.identity? = none) : Current changes w := by
  unfold Current
  rw [h]
  cases w <;> trivial

/-- A value that has just been brought up to date has as many parts as what is known of it. -/
theorem current_now (h : Filed changes) (levels : Nat) (v : Value) : Current changes (now changes levels v) := by
  have hparts : ∀ who c, changes who = some c →
      Current changes (refreshParts changes (levels + 1) [who] c) := by
    intro who c hc
    have hwho := h who c hc
    cases c <;> simp_all [Current, identity?, refreshParts]
  unfold now
  cases v with
  | list parts who | dict parts who =>
    cases who with
    | none => exact current_of_identity?_none rfl
    | some who =>
      rw [refresh, if_neg (by simp)]
      split
      case h_1 new old hwho => simp [Current, identity?, refreshParts, hwho]
      case h_2 hwho =>
        simp only [Current, identity?, Option.bind_some]
        split <;> simp_all
  | listing kind parts who | set parts who =>
    cases who with
    | none => exact current_of_identity?_none rfl
    | some who =>
      rw [refresh]
      split
      case h_1 new old hwho => simp [Current, identity?, refreshParts, hwho]
      case h_2 hwho =>
        simp only [Current, identity?, Option.bind_some]
        split <;> simp_all
  | record fields who =>
    cases who with
    | none => exact current_of_identity?_none rfl
    | some who =>
      rw [refresh, if_neg (by simp)]
      split <;> simp [Current, refreshParts]
  | within mapping who =>
    rw [refresh, if_neg (by simp)]
    cases hwho : changes who with
    | none => simp [Current]
    | some c => exact hparts who c hwho
  | _ => exact current_of_identity?_none rfl

/-- Looking at a value that is up to date once more does not change its length. -/
theorem length?_now (h : Current changes w) (hw : length? w = some n) (levels : Nat) :
    length? (now changes levels w) = some n := by
  unfold now
  cases w with
  | list parts who | dict parts who =>
    cases who with
    | none => exact hw
    | some who =>
      rw [refresh, if_neg (by simp)]
      split <;> simp_all [Current, identity?, length?, refreshParts]
  | listing kind parts who | set parts who =>
    cases who with
    | none => exact hw
    | some who =>
      rw [refresh]
      split <;> simp_all [Current, identity?, length?, refreshParts]
  | tuple items =>
    rw [refresh]
    simpa [length?] using hw
  | str | markup | frozenSet | range => exact hw
  | _ => cases hw

end Value

/-! ## What is still to come -/

namespace Pending

variable {p q : Pending} {w : Value}

theorem count_of_next? (h : p.next? = some (w, q)) : p.count = q.count + 1 := by
  match p, h with
  | values (_ :: vs), h => cases h; rfl
  | numbers _ _ (count + 1), h => cases h; rfl

theorem count_of_next?_eq_none (h : p.next? = none) : p.count = 0 := by
  match p, h with
  | values [], _ => rfl
  | numbers _ _ 0, _ => rfl

end Pending

namespace State

variable {s t : State} {st : Stream} {p q : Pending} {w : Value} {n : Nat}

/-- What is known to have changed. -/
def changes (s : State) : Value.Changes := fun who => s.changed.lookup who

theorem now_eq (s : State) (v : Value) : s.now v = v ∨ s.now v = v.now s.changes s.changed.length := by
  unfold now
  split
  · exact .inl rfl
  · exact .inr rfl

/-- A value that has just been looked at is up to date. -/
theorem current_now (h : Value.Filed s.changes) (v : Value) : Value.Current s.changes (s.now v) := by
  unfold now
  split
  case isTrue hempty =>
    have hchanges : s.changes = fun _ => none := by
      funext who
      rw [changes, List.isEmpty_iff.mp hempty, List.lookup_nil]
    have hnone : (v.identity?.bind fun _ => (none : Option Value)) = none := by cases v.identity? <;> rfl
    unfold Value.Current
    rw [hchanges, hnone]
    cases v <;> trivial
  case isFalse => exact Value.current_now h _ v

theorem pending_congr (h : t.changed = s.changed) (st : Stream) : t.pending st = s.pending st := by
  simp only [pending, h]

/-- Behind a value that was taken, one less is still to come. -/
theorem pending_taken (hp : s.pending st = .ok p) (hn : p.next? = some (w, q)) :
    ∃ r, s.pending { st with rest := q, taken := st.taken + 1 } = .ok r ∧ r.count + 1 = p.count := by
  have hcount := Pending.count_of_next? hn
  have hdrop : ∀ {vs : List Value}, (Pending.values (vs.drop st.taken)).next? = some (w, q) →
      (vs.drop (st.taken + 1)).length + 1 = (vs.drop st.taken).length := by
    intro vs hvs
    have htaken := Pending.count_of_next? hvs
    simp only [Pending.count, List.length_drop] at htaken ⊢
    omega
  have hchanged : ∀ {thing : Text} {before : Nat} {vs : List Value},
      Pending.changed thing before st.taken vs = .ok p →
      ∃ r, Pending.changed thing before (st.taken + 1) vs = .ok r ∧ r.count + 1 = p.count := by
    intro thing before vs hvs
    unfold Pending.changed at hvs ⊢
    split at hvs
    case isTrue hsame =>
      cases hvs
      exact ⟨.values (vs.drop (st.taken + 1)), by rw [if_pos hsame], hdrop hn⟩
    case isFalse => cases hvs
  obtain ⟨rest, taken, source, frame⟩ := st
  unfold pending at hp ⊢
  dsimp only at hp hdrop hchanged ⊢
  generalize (source.bind fun v => v.identity?.bind fun who => s.changed.lookup who) = held at hp ⊢
  split at hp
  · cases hp
    exact ⟨_, rfl, hdrop hn⟩
  · exact hchanged hp
  · exact hchanged hp
  · exact hchanged hp
  · cases hp
    exact ⟨q, rfl, hcount.symm⟩

/-- Of what is gone through as it is now, as much is to come at first as a value that is up to date has parts. -/
theorem pending_opened (h : Value.Current s.changes w) (hw : Value.length? w = some n) (hst : st.source = some w)
    (htaken : st.taken = 0) (hrest : st.rest.count = n) : ∃ p, s.pending st = .ok p ∧ p.count = n := by
  obtain ⟨rest, taken, source, frame⟩ := st
  obtain rfl : source = some w := hst
  obtain rfl : taken = 0 := htaken
  unfold pending
  unfold Value.Current at h
  dsimp only [Option.bind_some] at hrest ⊢
  have hchanges : (w.identity?.bind fun who => s.changed.lookup who) = w.identity?.bind s.changes := rfl
  rw [hchanges]
  generalize w.identity?.bind s.changes = held at h ⊢
  have hsame : ∀ {thing : Text} {before : Nat} {vs : List Value}, vs.length = before → before = n →
      ∃ p, Pending.changed thing before 0 vs = .ok p ∧ p.count = n := by
    intro thing before vs hvs hn
    exact ⟨.values (vs.drop 0), if_pos hvs, by simp [Pending.count, hvs, hn]⟩
  split
  case h_1 old _ new _ hw' =>
    cases hw'
    exact ⟨_, rfl, by simp_all [Pending.count, Value.length?]⟩
  case h_2 hw' =>
    cases hw'
    exact hsame (by simpa using h) (Option.some.inj hw)
  case h_3 hw' =>
    cases hw'
    exact hsame (by simpa using h) (Option.some.inj hw)
  case h_4 hw' =>
    cases hw'
    exact hsame h (Option.some.inj hw)
  case h_5 => exact ⟨_, rfl, hrest⟩

end State

namespace Run

variable {s t u base : State} {i f : Nat} {w : Value}

/-! ## What a step leaves of open loops -/

/-- The loops that are open are still open, perhaps below others; nothing of them is different, and as much is to come
of what they go through.  What has changed is still known under its own identity. -/
structure Undisturbed (s t : State) : Prop where
  loops : s.pass.loops <:+ t.pass.loops
  frames : ∀ f ∈ s.pass.loops, t.frames[f]? = s.frames[f]?
  streams : ∀ (i f : Nat) (st : Stream), f ∈ s.pass.loops → s.streams[i]? = some st → st.frame = some f →
    ∃ st', t.streams[i]? = some st' ∧ st'.frame = some f ∧
      (t.pending st').map Pending.count = (s.pending st).map Pending.count
  filed : Value.Filed s.changes → Value.Filed t.changes

/-- The same loops are open, and nothing of them is different. -/
structure Spares (s t : State) : Prop extends Undisturbed s t where
  same : t.pass.loops = s.pass.loops

instance : IsPreorder State Undisturbed where
  refl _ := ⟨List.suffix_rfl, fun _ _ => rfl, fun _ _ st _ hst hf => ⟨st, hst, hf, rfl⟩, fun h => h⟩
  trans s t u h h' := by
    have hmem : ∀ f ∈ s.pass.loops, f ∈ t.pass.loops := fun f hf => h.loops.subset hf
    refine ⟨h.loops.trans h'.loops, fun f hf => (h'.frames f (hmem f hf)).trans (h.frames f hf), ?_, h'.filed ∘ h.filed⟩
    intro i f st hf hst hframe
    obtain ⟨st₁, hst₁, hframe₁, hcount₁⟩ := h.streams i f st hf hst hframe
    obtain ⟨st₂, hst₂, hframe₂, hcount₂⟩ := h'.streams i f st₁ (hmem f hf) hst₁ hframe₁
    exact ⟨st₂, hst₂, hframe₂, hcount₂.trans hcount₁⟩

instance : IsPreorder State Spares where
  refl s := ⟨refl s, rfl⟩
  trans _ _ _ h h' := ⟨IsTrans.trans _ _ _ h.toUndisturbed h'.toUndisturbed, h'.same.trans h.same⟩

/-- A step that looks at neither loops nor what they go through spares the loops. -/
theorem spares_of_same (hloops : t.pass.loops = s.pass.loops) (hframes : t.frames = s.frames)
    (hstreams : t.streams = s.streams) (hchanged : t.changed = s.changed) : Spares s t where
  loops := hloops ▸ List.suffix_rfl
  frames _ _ := by rw [hframes]
  streams i f st _ hst hf := ⟨st, hstreams ▸ hst, hf, by rw [State.pending_congr hchanged]⟩
  filed h := by
    have hchanges : t.changes = s.changes := by
      unfold State.changes
      rw [hchanged]
    exact hchanges ▸ h
  same := hloops

/-! ## A loop that is open -/

/-- A turn of a loop: how many there are, and which one it is, counted from one; zero is before the first. -/
structure Turn where
  count : Nat
  number : Nat
  deriving DecidableEq, Repr

/-- The frame of a loop in a turn, given the loops around it. -/
def Turn.frame (turn : Turn) (around : List Nat) : Frame where
  count := turn.count
  depth := around.length + 1
  iteration := turn.number
  parent := around.head?

/-- A loop that was opened in the state `base` is in a turn: its frame says so, and as many values of its stream as the
frame says are still to come. -/
structure Looping (base : State) (i f : Nat) (turn : Turn) (s : State) : Prop where
  behind : Undisturbed base s
  loops : s.pass.loops = f :: base.pass.loops
  frame : s.frames[f]? = some (turn.frame base.pass.loops)
  above : ∀ g ∈ base.pass.loops, g < f
  stream : ∃ st p, s.streams[i]? = some st ∧ st.frame = some f ∧ s.pending st = .ok p ∧
    p.count + turn.number = turn.count

namespace Looping

variable {turn : Turn}

/-- A step that spares the loops leaves a loop in its turn. -/
theorem spares (h : Looping base i f turn s) (hst : Spares s t) : Looping base i f turn t := by
  have hmem : f ∈ s.pass.loops := by simp [h.loops]
  obtain ⟨st, p, hstream, hframe, hpending, hcount⟩ := h.stream
  obtain ⟨st', hstream', hframe', hcount'⟩ := hst.streams i f st hmem hstream hframe
  rw [hpending] at hcount'
  obtain ⟨p', hpending', hsame⟩ := map_eq_ok.mp hcount'
  exact ⟨IsTrans.trans _ _ _ h.behind hst.toUndisturbed, hst.same.trans h.loops, (hst.frames f hmem).trans h.frame,
    h.above, st', p', hstream', hframe', hpending', by omega⟩

/-- The loops around are left alone where the stream of a loop changes, and no frame but its own. -/
theorem undisturbed_of_own (h : Looping base i f turn s) (st' : Stream) {frames : Array Frame}
    (hframes : ∀ g, g ≠ f → frames[g]? = s.frames[g]?) :
    Undisturbed base { s with streams := s.streams.set! i st', frames } := by
  obtain ⟨st, p, hstream, hframe, -, -⟩ := h.stream
  refine ⟨h.behind.loops, fun g hg => ?_, fun j g st₀ hg hst₀ hg₀ => ?_, h.behind.filed⟩
  · exact (hframes g (Nat.ne_of_lt (h.above g hg))).trans (h.behind.frames g hg)
  · obtain ⟨st₁, hst₁, hframe₁, hcount₁⟩ := h.behind.streams j g st₀ hg hst₀ hg₀
    have hne : i ≠ j := by
      rintro rfl
      rw [hstream] at hst₁
      cases hst₁
      rw [hframe] at hframe₁
      exact Nat.ne_of_gt (h.above g hg) (Option.some.inj hframe₁)
    exact ⟨st₁, by simpa [hne] using hst₁, hframe₁, (congrArg _ (State.pending_congr rfl st₁)).trans hcount₁⟩

/-- The next value of a loop's stream begins its next turn; if there is none, the loop has had all of them. -/
theorem next (h : Looping base i f turn s) :
    (∃ w t, runFrom (next? i) s = (.ok (some w), t) ∧ Looping base i f { turn with number := turn.number + 1 } t) ∨
    ∃ t, runFrom (next? i) s = (.ok none, t) ∧ turn.number = turn.count ∧ Undisturbed base t ∧
      t.pass.loops = f :: base.pass.loops := by
  obtain ⟨st, p, hstream, hframe, hpending, hcount⟩ := h.stream
  have hin : i < s.streams.size := by
    rw [Array.getElem?_eq_some_iff] at hstream
    exact hstream.1
  cases hnext : p.next? with
  | none =>
    right
    have hzero := Pending.count_of_next?_eq_none hnext
    have hrun : runFrom (next? i) s =
        (.ok none, { s with streams := s.streams.set! i { st with rest := .values [], source := none } }) := by
      simp only [next?, runFrom_bind, runFrom_get, hstream, hpending, lift, runFrom_pure, hnext, runFrom_modify]
    exact ⟨_, hrun, by omega, h.undisturbed_of_own _ fun _ _ => rfl, h.loops⟩
  | some taken =>
    left
    obtain ⟨w, q⟩ := taken
    obtain ⟨r, hr, hone⟩ := State.pending_taken hpending hnext
    have hrun : ∃ w', runFrom (next? i) s = (.ok (some w'), { s with
        streams := s.streams.set! i { st with rest := q, taken := st.taken + 1 }
        frames := s.frames.modify f Frame.advance }) := by
      simp only [next?, runFrom_bind, runFrom_get, hstream, hpending, lift, runFrom_pure, hnext, runFrom_modify, hframe,
        now]
      exact ⟨_, rfl⟩
    obtain ⟨w', hrun⟩ := hrun
    refine ⟨w', _, hrun, h.undisturbed_of_own _ fun g hg => ?_, h.loops, ?_, h.above,
      { st with rest := q, taken := st.taken + 1 }, r, by simp [hin], hframe, (State.pending_congr rfl _).trans hr, ?_⟩
    · simp [Array.getElem?_modify, hg.symm]
    · simp [Array.getElem?_modify, h.frame, Turn.frame, Frame.advance, Frame.skip]
    · dsimp only
      omega

theorem number_le (h : Looping base i f turn s) : turn.number ≤ turn.count := by
  obtain ⟨st, p, -, -, -, hcount⟩ := h.stream
  omega

end Looping

/-- Closing a loop leaves the loops around it as they are. -/
theorem spares_closed (h : Undisturbed base s) :
    Spares base { s with pass := { s.pass with loops := base.pass.loops } } :=
  ⟨⟨List.suffix_rfl, h.frames, h.streams, h.filed⟩, rfl⟩

/-! ## Opening a loop -/

@[simp] theorem runFrom_now (w : Value) (s : State) : runFrom (now w) s = (.ok (s.now w), s) := rfl

/-- What a value with a length goes through is listed without any effect, and is as long. -/
theorem runFrom_pendingOf {n : Nat} (h : Value.Current s.changes w) (hw : Value.length? w = some n) :
    ∃ rest, runFrom (pendingOf w) s = (.ok rest, s) ∧ rest.count = n := by
  have hnow : Value.length? (s.now w) = some n := by
    rcases s.now_eq w with hsame | hsame
    · rw [hsame, hw]
    · rw [hsame, Value.length?_now h hw]
  obtain ⟨items, hitems, hlength⟩ := Value.items?_of_length? hnow
  have hvalues : runFrom (valuesOf w) s = (.ok items, s) := by
    rw [valuesOf, runFrom_bind_ok (runFrom_now w s)]
    cases hv : s.now w <;> rw [hv] at hnow hitems <;> first | cases hnow; done | skip
    all_goals simp only [hitems, runFrom_pure]
  unfold pendingOf
  split
  · exact ⟨_, rfl, Option.some.inj hw⟩
  · rw [runFrom_bind_ok hvalues]
    exact ⟨_, rfl, hlength⟩

/-- A state behind opening a loop. -/
def opened (u : State) (count : Nat) (rest : Pending) (source : Option Value) : State :=
  { u with
    frames := u.frames.push (Turn.frame ⟨count, 0⟩ u.pass.loops)
    pass := { u.pass with loops := u.frames.size :: u.pass.loops }
    streams := u.streams.push { rest, source, frame := some u.frames.size } }

/-- Opening a loop lists what is gone through and then fails, or puts a frame on top. -/
theorem runFrom_openLoop (v : Value) (s : State) :
    runFrom (openLoop v) s = match runFrom (pendingOf (s.now v)) s with
      | (.error e, u) => (.error e, u)
      | (.ok rest, u) =>
        match if (Value.length? (s.now v)).isSome then Value.length (s.now v) else .ok rest.count with
        | .error fault => (.error (.fault fault), u)
        | .ok count => (.ok (.stream u.streams.size "generator"),
            opened u count rest (if (Value.length? (s.now v)).isSome then some (s.now v) else none)) := by
  rw [openLoop, runFrom_bind_ok (runFrom_now v s), runFrom_bind]
  rcases runFrom (pendingOf (s.now v)) s with ⟨e | rest, u⟩
  · rfl
  · cases hsized : (Value.length? (s.now v)).isSome with
    | false => rfl
    | true =>
      simp only [if_true]
      cases Value.length (s.now v) <;> rfl

/-- A loop is opened before its first turn, over as many values as are listed of what it goes through. -/
theorem looping_opened {rest : Pending} {count : Nat} {source : Option Value} (hspares : Spares s u)
    (hvalid : ∀ g ∈ s.pass.loops, (s.frames[g]?).isSome)
    (hpending : ∃ p, u.pending { rest, source, frame := some u.frames.size } = .ok p ∧ p.count = count) :
    Looping s u.streams.size u.frames.size ⟨count, 0⟩ (opened u count rest source) := by
  have hbelow : ∀ g ∈ s.pass.loops, g < u.frames.size := by
    intro g hg
    have hsome := hvalid g hg
    rw [← hspares.frames g hg] at hsome
    simpa using hsome
  obtain ⟨p, hp, hlength⟩ := hpending
  refine ⟨⟨?_, fun g hg => ?_, fun j g st hg hst hframe => ?_, hspares.filed⟩, ?_, ?_, hbelow, ?_⟩
  · exact hspares.same ▸ List.suffix_cons _ _
  · rw [← hspares.frames g hg]
    simp [opened, Array.getElem?_push, Nat.ne_of_lt (hbelow g hg)]
  · obtain ⟨st', hst', hframe', hsame⟩ := hspares.streams j g st hg hst hframe
    have hlt : j < u.streams.size := (Array.getElem?_eq_some_iff.mp hst').1
    exact ⟨st', by simp [opened, Array.getElem?_push, Nat.ne_of_lt hlt, hst'], hframe',
      (congrArg _ (State.pending_congr rfl st')).trans hsame⟩
  · rw [← hspares.same]
    rfl
  · rw [← hspares.same]
    simp [opened]
  · exact ⟨_, p, by simp [opened], rfl, (State.pending_congr rfl _).trans hp, hlength⟩

/-- Opening a loop fails behind listing what it goes through, or begins a loop over as many values as were listed. -/
theorem openLoop_cases {v : Value} {r : Except Error Pending} (hrun : runFrom (pendingOf (s.now v)) s = (r, u))
    (hspares : Spares base u) (hfiled : Value.Filed s.changes)
    (hvalid : ∀ g ∈ base.pass.loops, (base.frames[g]?).isSome) :
    (∃ e, runFrom (openLoop v) s = (.error e, u)) ∨
      ∃ rest i f t, r = .ok rest ∧ runFrom (openLoop v) s = (.ok (.stream i "generator"), t) ∧
        Looping base i f ⟨rest.count, 0⟩ t := by
  rw [runFrom_openLoop, hrun]
  cases r with
  | error e => exact .inl ⟨e, rfl⟩
  | ok rest =>
    dsimp only
    cases hsized : Value.length? (s.now v) with
    | none =>
      exact .inr ⟨rest, _, _, _, rfl, rfl, looping_opened hspares hvalid ⟨rest, rfl, rfl⟩⟩
    | some n =>
      have hcurrent := State.current_now hfiled v
      obtain ⟨rest', hrest', rfl⟩ := runFrom_pendingOf hcurrent hsized
      rw [hrun] at hrest'
      cases hrest'
      have hlength : Value.length (s.now v) =
          if Value.isIndex rest.count then .ok rest.count
          else .error (.overflow "Python int too large to convert to C ssize_t") := by
        rw [Value.length, hsized]
      simp only [Option.isSome_some, if_true, hlength]
      by_cases hindex : Value.isIndex rest.count
      · right
        rw [if_pos hindex]
        exact ⟨rest, _, _, _, rfl, rfl,
          looping_opened hspares hvalid (State.pending_opened hcurrent hsized rfl rfl rfl)⟩
      · left
        rw [if_neg hindex]
        exact ⟨_, rfl⟩

/-! ## All loops that are open -/

/-- The frames of open loops, innermost first, are those of turns. -/
inductive Stack (s : State) : List Nat → List Turn → Prop
  | nil : Stack s [] []
  | cons {f : Nat} {ids : List Nat} {turn : Turn} {turns : List Turn}
    (hframe : s.frames[f]? = some (turn.frame ids)) (habove : ∀ g ∈ ids, g < f) (hone : 1 ≤ turn.number)
    (hcount : turn.number ≤ turn.count) (h : Stack s ids turns) : Stack s (f :: ids) (turn :: turns)

namespace Stack

variable {ids : List Nat} {turns : List Turn} {turn : Turn} {j : Nat}

theorem congr (h : Stack s ids turns) (hframes : ∀ f ∈ ids, t.frames[f]? = s.frames[f]?) : Stack t ids turns := by
  induction h with
  | nil => exact .nil
  | cons hframe habove hone hcount _ ih =>
    exact .cons ((hframes _ List.mem_cons_self).trans hframe) habove hone hcount
      (ih fun g hg => hframes g (List.mem_cons_of_mem _ hg))

theorem isSome (h : Stack s ids turns) : ∀ g ∈ ids, (s.frames[g]?).isSome := by
  induction h with
  | nil => exact fun g hg => absurd hg List.not_mem_nil
  | cons hframe _ _ _ _ ih => exact List.forall_mem_cons.mpr ⟨by simp [hframe], ih⟩

theorem length_eq (h : Stack s ids turns) : ids.length = turns.length := by
  induction h with
  | nil => rfl
  | cons _ _ _ _ _ ih => rw [List.length_cons, ih, List.length_cons]

theorem spares (h : Stack s s.pass.loops turns) (hst : Spares s t) : Stack t t.pass.loops turns := by
  rw [hst.same]
  exact h.congr hst.frames

/-- A loop in a turn is on top of the loops around it. -/
theorem looping {i f : Nat} {turn : Turn} (h : Stack s s.pass.loops turns) (hloop : Looping s i f turn t)
    (hone : 1 ≤ turn.number) : Stack t t.pass.loops (turn :: turns) := by
  rw [hloop.loops]
  exact .cons hloop.frame hloop.above hone hloop.number_le (h.congr hloop.behind.frames)

theorem frame (h : Stack s ids turns) (hturn : turns[j]? = some turn) :
    ∃ f, ids[j]? = some f ∧ s.frames[f]? = some (turn.frame (ids.drop (j + 1))) ∧ 1 ≤ turn.number ∧
      turn.number ≤ turn.count := by
  induction h generalizing j with
  | nil => cases hturn
  | cons hframe _ hone hcount _ ih =>
    cases j with
    | zero =>
      cases hturn
      exact ⟨_, rfl, hframe, hone, hcount⟩
    | succ j => exact ih hturn

end Stack

end Run
end Stencil
