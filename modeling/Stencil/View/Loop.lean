import Stencil.View.State

/-!
# Loops of a page

A loop over values has a frame as long as it is open.  Its values come from a stream that advances the frame with each
value taken.  What a stream takes its values from may change meanwhile: a list is gone through as it is then, while
mappings and sets may not get larger or smaller.
-/

namespace Stencil

/-- What is still to come when something has changed whose parts are gone through: it had `before` parts, and has `vs`
now. -/
def Pending.changed (thing : Text) (before taken : Nat) (vs : List Value) : Except Fault Pending :=
  if vs.length = before then .ok (.values (vs.drop taken))
  else .error (.raised "RuntimeError" (thing ++ " changed size during iteration"))

/-- What is still to come of a stream. -/
def State.pending (s : State) (st : Stream) : Except Fault Pending :=
  match st.source, st.source.bind fun v => v.identity?.bind fun who => s.changed.lookup who with
  | some (.list ..), some (.list items _) => .ok (.values (items.drop st.taken))
  | some (.dict old _), some (.dict new _) =>
    Pending.changed "dictionary" old.length st.taken (new.map Prod.fst)
  | some (.listing kind old _), some (.dict new _) =>
    Pending.changed "dictionary" old.length st.taken (Value.listed kind new)
  | some (.set old _), some (.set new _) => Pending.changed "Set" old.length st.taken new
  | _, _ => .ok st.rest

namespace Run

/-- Takes the next value of a stream. -/
def next? (id : Nat) : Run (Option Value) := do
  match (← get).streams[id]? with
  | none => return none
  | some st =>
    match (← lift ((← get).pending st)).next? with
    | none =>
      modify fun s => { s with streams := s.streams.set! id { st with rest := .values [], source := none } }
      return none
    | some (v, rest) =>
      modify fun s => { s with streams := s.streams.set! id { st with rest, taken := st.taken + 1 } }
      match st.frame with
      | some n => modify fun s => { s with frames := s.frames.modify n Frame.advance }
      | none => pure ()
      return some (← now v)

/-- Takes up to `count` values of a stream. -/
def drain (id : Nat) : Nat → Run (List Value)
  | 0 => return []
  | count + 1 => do
    match ← next? id with
    | none => return []
    | some v => return v :: (← drain id count)

/-- The number of values that a stream still has. -/
def left (id : Nat) : Run Nat := do
  let s ← get
  match s.streams[id]? with
  | none => return 0
  | some st => return ((s.pending st).toOption.map Pending.count).getD 0

/-- All values that a value goes through; a stream is empty afterwards. -/
def valuesOf (v : Value) : Run (List Value) := do
  match ← now v with
  | .stream id _ => drain id ((← left id) + 1)
  | v =>
    match Value.items? v with
    | some items => return items
    | none => raise (Value.notIterable v)

/-- What a value goes through, as it is still to come; numbers in a row are not listed. -/
def pendingOf (v : Value) : Run Pending := do
  match v with
  | .range start stop step => return .numbers start step (Value.rangeLength start stop step)
  | v => return .values (← valuesOf v)

/-- The stream of the values that a value goes through; a stream is one already. -/
def streamOf (v : Value) : Run Nat := do
  match ← now v with
  | .stream id _ => return id
  | v => addStream { rest := ← pendingOf v, source := some v }

/-- A stream of given values. -/
def streamed (name : Text) (vs : List Value) : Run Value := return .stream (← addStream { rest := .values vs }) name

/-- Opens a loop over a value's values: its frame goes on top, and the values come as a stream. -/
def openLoop (v : Value) : Run Value := do
  let v ← now v
  let sized := (Value.length? v).isSome
  let rest ← pendingOf v
  let count ← if sized then lift (Value.length v) else pure rest.count
  let loops := (← pass).loops
  let frame ← addFrame { count, depth := loops.length + 1, parent := loops.head? }
  modifyPass fun p => { p with loops := frame :: p.loops }
  let source := if sized then some v else none
  return .stream (← addStream { rest, source, frame := some frame }) "generator"

/-- Closes the innermost loop. -/
def closeLoop : Run Unit := modifyPass fun p => { p with loops := p.loops.tail }

/-- The frame of the innermost loop, or nothing. -/
def lastLoop : Run Value := return ((← pass).loops.head?.map Value.frame).getD .null

/-! ## Mappings -/

/-- Entries with those that a value gives: a mapping's own, or pairs that it goes through.  What comes before a flaw is
taken all the same. -/
def entriesInto (entries : List (Value × Value)) (v : Value) : Run (List (Value × Value) × Option Fault) := do
  match ← now v with
  | .dict more _ =>
    return (if entries.isEmpty then more else more.foldl (fun d (k, w) => Value.bind k w d) entries, none)
  | v => return Value.takePairs 0 (← valuesOf v) entries

/-- The entries of a mapping that is made from a value. -/
def entriesFrom (v : Value) : Run (List (Value × Value)) := do
  match ← entriesInto [] v with
  | (entries, none) => return entries
  | (_, some f) => raise f

/-- The entries of a mapping that is made from a value, of which nothing and what is empty make an empty one. -/
def entriesOrNone (v : Value) : Run (List (Value × Value)) := do
  let v ← now v
  if v.truthy then entriesFrom v else return []

end Run
end Stencil
