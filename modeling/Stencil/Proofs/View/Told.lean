import Stencil.Proofs.View.Turns

/-!
# What a body is told of its loops

A body reaches the frame of its loop by the name `loop`, and those of the loops around it as the parents of the frame.

* `Told`, `Tells` — what a body is told of one loop, and of all loops that are open.
* `loops_told` — wherever a turn begins, the body is told of all open loops; behind a loop they are as before.
* `areInert`, `sparing_of_inert` — programs that only print texts and go through them do nothing that is not harmless.
-/

namespace Stencil

open Run

/-! ## What a body is told -/

/-- The frame of a loop so many levels up, as a body writes it. -/
def Script.Expr.around : Nat → Script.Expr
  | 0 => .name "loop"
  | j + 1 => .attribute (around j) "parent"

/-- An expression is evaluated to a value without any effect. -/
def Engine.Gives (e : Engine) (a : Scope) (s : State) (x : Script.Expr) (w : Value) : Prop :=
  evalFrom (e.eval x) a s = (.ok (w, a), s)

/-- A body is told of a loop which turn it is in, and how many loops are open down to it. -/
structure Told (e : Engine) (a : Scope) (s : State) (loop : Script.Expr) (turn : Turn) (depth : Nat) : Prop where
  within : 1 ≤ turn.number ∧ turn.number ≤ turn.count
  count : e.Gives a s (.attribute loop "count") (.int turn.count)
  iteration : e.Gives a s (.attribute loop "iteration") (.int turn.number)
  index : e.Gives a s (.attribute loop "index") (.int (turn.number - 1))
  remaining : e.Gives a s (.attribute loop "remaining") (.int (turn.count - turn.number))
  first : e.Gives a s (.attribute loop "first") (.bool (turn.number = 1))
  last : e.Gives a s (.attribute loop "last") (.bool (turn.number = turn.count))
  depth : e.Gives a s (.attribute loop "depth") (.int depth)

/-- A body is told of the loops that are open, each by its own turn; the outermost one has no loop around it. -/
structure Tells (e : Engine) (a : Scope) (s : State) (turns : List Turn) : Prop where
  opened : s.pass.loops.length = turns.length
  loops : ∀ j turn, turns[j]? = some turn → Told e a s (.around j) turn (turns.length - j)
  outermost : e.Gives a s (.around turns.length) .null

section Told

variable {e : Engine} {a : Scope} {s : State} {ids : List Nat} {turns : List Turn} {turn : Turn} {j : Nat}

theorem State.now_frame (s : State) (f : Nat) : s.now (.frame f) = .frame f := by
  unfold State.now
  split <;> rfl

/-- An attribute of a frame. -/
theorem gives_attribute {x : Script.Expr} {f : Nat} {frame : Frame} {name : Text} {w : Value}
    (hx : e.Gives a s x (.frame f)) (hframe : s.frames[f]? = some frame) (hname : frameAttribute? frame name = some w) :
    e.Gives a s (.attribute x name) w := by
  have hfound : runFrom (e.attributeOf (.frame f) name) s = (.ok w, s) := by
    rw [Engine.attributeOf, runFrom_bind_ok (runFrom_get s), State.frame, hframe, Option.getD_some, hname]
    rfl
  rw [Engine.Gives, Engine.eval, evalFrom_bind_ok hx, evalFrom_bind_ok (evalFrom_now _ a s), State.now_frame,
    evalFrom_run_ok hfound]

/-- Going up from the innermost loop, a body gets to the loops around it, and then to nothing. -/
theorem gives_around (h : Stack s s.pass.loops turns) (hloop : a.bound.get? "loop" = some s.lastLoop)
    (hj : j ≤ turns.length) :
    e.Gives a s (.around j) ((s.pass.loops[j]?.map Value.frame).getD .null) := by
  induction j with
  | zero =>
    rw [Engine.Gives, Script.Expr.around, Engine.eval, evalFrom_valueOf hloop, State.lastLoop, List.head?_eq_getElem?]
  | succ j ih =>
    obtain ⟨f, hf, hframe, -⟩ := h.frame (List.getElem?_eq_getElem hj)
    have hinner := ih (Nat.le_of_lt hj)
    rw [hf] at hinner
    refine gives_attribute hinner hframe ?_
    rw [← List.head?_drop]
    rfl

theorem told_of_stack (h : Stack s s.pass.loops turns) (hloop : a.bound.get? "loop" = some s.lastLoop)
    (hturn : turns[j]? = some turn) : Told e a s (.around j) turn (turns.length - j) := by
  obtain ⟨f, hf, hframe, hone, hcount⟩ := h.frame hturn
  have hj : j < turns.length := (List.getElem?_eq_some_iff.mp hturn).1
  have haround := gives_around (e := e) h hloop (Nat.le_of_lt hj)
  rw [hf] at haround
  have hdepth : (s.pass.loops.drop (j + 1)).length + 1 = turns.length - j := by
    rw [List.length_drop, h.length_eq]
    omega
  have hfield : ∀ {name : Text} {w : Value}, frameAttribute? (turn.frame (s.pass.loops.drop (j + 1))) name = some w →
      e.Gives a s (.attribute (.around j) name) w := gives_attribute haround hframe
  have hindex : ((turn.number - 1 : Nat) : Int) = turn.number - 1 := Int.ofNat_sub hone
  have hlast : (turn.number != 0 && turn.number == turn.count) = decide (turn.number = turn.count) := by
    rw [bne_iff_ne.mpr (Nat.ne_of_gt hone), Bool.true_and]
    rfl
  refine ⟨⟨hone, hcount⟩, hfield rfl, hfield rfl, ?_, hfield rfl, hfield rfl, ?_, ?_⟩
  · rw [← hindex]
    exact hfield rfl
  · rw [← hlast]
    exact hfield rfl
  · rw [← hdepth]
    exact hfield rfl

theorem tells_of_stack (h : Stack s s.pass.loops turns) (hloop : a.bound.get? "loop" = some s.lastLoop) :
    Tells e a s turns where
  opened := h.length_eq
  loops _ _ hturn := told_of_stack h hloop hturn
  outermost := by
    have haround := gives_around (e := e) h hloop (Nat.le_refl _)
    rwa [List.getElem?_eq_none (Nat.le_of_eq h.length_eq)] at haround

end Told

/-- The frame that has just been read has its name. -/
theorem get?_putLoop (a : Scope) (w : Value) : (a.put "loop" w).bound.get? "loop" = some w :=
  (Table.get?_put _ _ _ _).trans (if_pos rfl)

section Reached

variable {v : View} {p q : Point} {turn : Turn}

/-- Where a turn of a loop begins, the body is told of all turns. -/
theorem tells_turn (hsparing : Sparing v p) (hsound : p.Sound) (h : Leads v p q) (hturn : q.turns = turn :: p.turns) :
    Tells (v.engine q.levels) q.scope q.state q.turns := by
  have hstack := (sound_leads hsparing hsound h).stack
  cases h with
  | behind | branch => exact absurd hturn.symm (List.cons_ne_self _ _)
  | part _ hstart =>
    cases hstart
    exact absurd hturn.symm (List.cons_ne_self _ _)
  | turn hbegins htarget hread =>
    obtain ⟨-, -, hb⟩ := looping_begins hsparing hsound hbegins
    have hnamed := ((hsparing.here hsound).2.2 _ _ _ _ hbegins hb).named _ _ _ htarget
    rw [evalFrom_readLoop hnamed] at hread
    cases hread
    exact tells_of_stack hstack (get?_putLoop _ _)

/-- The program of a template starts in one place. -/
theorem Starts.unique {levels : Nat} {name : Text} {entries : List (Value × Value)} {s : State} {turns : List Turn}
    (hp : Starts v levels name entries s turns p) (hq : Starts v levels name entries s turns q) : p = q := by
  cases hp with
  | loaded _ hload =>
    cases hq with
    | loaded _ hload' =>
      rw [hload] at hload'
      cases hload'
      rfl

end Reached

/-- **What loops tell their bodies.**  If all that the programs of a template do beside going through loops is harmless,
then wherever a turn of a loop begins, in the template or in others that it includes, the body is told of that loop and of
those around it, each by its own turn.  When a loop ends well, the loops around it are open as before, and the statements
behind it are told of them; if it fails, they are undisturbed.  However including a template ends, or evaluating the
template itself, the loops that are open are the same as before, with the same frames. -/
theorem loops_told (v : View) (levels : Nat) (name : Text) (entries : List (Value × Value)) (s : State) (p₀ p : Point)
    (hnone : s.pass.loops = []) (hfiled : Value.Filed s.changes) (hstart : Starts v levels name entries s [] p₀)
    (hsparing : Sparing v p₀) (hreached : Relation.ReflTransGen (Leads v) p₀ p) :
    (∀ q turn, Leads v p q → q.turns = turn :: p.turns → Tells (v.engine q.levels) q.scope q.state q.turns) ∧
    (∀ line first last behind target source body cs, p.clauses = .loop line first last behind target source body :: cs →
      match evalFrom ((v.engine p.levels).execAll (Clause.statements (.loop line first last behind target source body)))
        p.scope p.state with
      | (.ok (control, b), t) =>
        control = .next ∧ Spares p.state t ∧ Tells (v.engine p.levels) b t p.turns
      | (.error _, t) => Undisturbed p.state t) ∧
    (∀ line part data cs, p.clauses = .part line part data :: cs →
      Spares p.state (evalFrom ((v.engine p.levels).exec (.include part data.expr)) p.scope p.state).2) ∧
    Spares s (runFrom ((innerAt v (levels + 1)).evaluate name entries) s).2 := by
  have hopen : Stack s s.pass.loops [] := by
    rw [hnone]
    exact .nil
  have hsound₀ : p₀.Sound := sound_starts hfiled hopen hstart
  obtain ⟨hsparing', hsound⟩ := sound_reached hsparing hsound₀ hreached
  refine ⟨fun q turn hpq hturn => tells_turn hsparing' hsound hpq hturn, ?_, ?_, ?_⟩
  · intro line first last behind target source body cs hclauses
    obtain ⟨levels, clauses, a, s, turns⟩ := p
    obtain rfl : clauses = _ := hclauses
    rcases evalFrom_loop hsparing' hsound (fun _ _ _ => safe v _) with ⟨x, t, hrun, ht⟩ | ⟨b, t, hrun, ht, -⟩
    · rw [hrun]
      exact ht
    · rw [hrun]
      exact ⟨rfl, ht, tells_of_stack (hsound.stack.spares ht) (get?_putLoop _ _)⟩
  · intro line part data cs hclauses
    obtain ⟨levels, clauses, a, s, turns⟩ := p
    obtain rfl : clauses = _ := hclauses
    exact (harmless_part hsparing' hsound fun q _ => safe v q).spares
  · refine spares_evaluateWith fun q (hq : Starts v _ _ _ _ [] q) => ?_
    obtain rfl := hstart.unique hq
    exact safe v p₀ hsparing hsound₀

/-! ## Programs that only print -/

namespace Script

/-- A name that is not one of the view's. -/
def Expr.isTarget : Expr → Bool
  | .name target => target ≠ "_view".toList ∧ target ≠ "_echo".toList
  | _ => false

/-- The name of a value. -/
def Expr.isName : Expr → Bool
  | .name _ => true
  | _ => false

/-- A constant text. -/
def Expr.isText : Expr → Bool
  | .const (.str _) => true
  | _ => false

/-- A statement that prints a constant text, or only tells how control goes on. -/
def Statement.isInert : Statement → Bool
  | .pass | .breakLoop | .continueLoop => true
  | .eval (.call (.name echo) [text] []) => echo = "_echo".toList ∧ text.isText
  | _ => false

end Script

mutual

/-- Nothing but constant texts is printed, and gone through. -/
def Clause.isInert : Clause → Bool
  | .plain _ st => st.isInert
  | .branch _ test body orelse => test.isName && areInert body && areInert orelse
  | .loop _ _ _ _ target source body => target.isTarget && source.expr.isText && areInert body
  | .part .. => false

/-- All pieces are inert. -/
def areInert : List Clause → Bool
  | [] => true
  | c :: cs => c.isInert && areInert cs

end

namespace Script.Expr

variable {x : Expr}

theorem eq_text (h : x.isText) : ∃ text, x = .const (.str text) := by
  unfold isText at h
  split at h
  · exact ⟨_, rfl⟩
  · cases h

theorem eq_name (h : x.isName) : ∃ name, x = .name name := by
  unfold isName at h
  split at h
  · exact ⟨_, rfl⟩
  · cases h

theorem eq_target (h : x.isTarget) : ∃ name, x = .name name ∧ name ≠ "_view".toList ∧ name ≠ "_echo".toList := by
  unfold isTarget at h
  split at h
  · exact ⟨_, rfl, of_decide_eq_true h⟩
  · cases h

end Script.Expr

section Inert

variable {α : Type} {v : View} {e : Engine} {p q : Point} {a b : Scope} {s t : State}

theorem harmless_now (ha : a.Named) (w : Value) : Harmless (Engine.now w) a s :=
  harmless_run ha (refl s)

theorem harmless_name (ha : a.Named) (name : Text) : Harmless (e.eval (.name name)) a s := by
  have hknown : Keeps Spares (Engine.knownValue a.known name) := by
    unfold Engine.knownValue
    split
    · split
      · exact Keeps.pure _
      · exact Keeps.throw _
    · refine (spares_now _).bind fun names => Keeps.get.bind fun s => ?_
      split
      · exact Keeps.pure _
      · exact Keeps.throw _
      · exact Keeps.throw _
  rw [Engine.eval]
  cases hbound : a.bound.get? name with
  | some w => exact harmless_of_ok (evalFrom_valueOf hbound) (refl s) ha
  | none => exact (harmless_run ha (hknown s)).congr (congrArg (runFrom · s) (run_valueOf_of_free hbound))

theorem harmless_const (ha : a.Named) (w : Value) : Harmless (e.eval (.const w)) a s := by
  rw [Engine.eval]
  exact harmless_pure ha w

/-- Printing a constant text is harmless. -/
theorem harmless_print (ha : a.Named) (text : Text) :
    Harmless (e.exec (.eval (.call (.name "_echo") [.const (.str text)] []))) a s := by
  have hconst : Engine.eval e (.const (.str text)) = pure (.str text) := by rw [Engine.eval]
  refine Harmless.congr ?_ (evalFrom_echo ha rfl)
  rw [hconst, pure_bind]
  refine (harmless_now ha _).bind fun w b t hnow hb => ?_
  rw [evalFrom_now, State.now_str] at hnow
  cases hnow
  have hecho := spares_echo e.inner (w := .str text) (fun _ _ h => nomatch h) s
  exact (harmless_run hb hecho).bind fun _ c u _ hc => harmless_pure hc _

theorem harmless_exec (ha : a.Named) {st : Script.Statement} (h : st.isInert) : Harmless (e.exec st) a s := by
  unfold Script.Statement.isInert at h
  split at h
  · rw [Engine.exec]
    exact harmless_pure ha _
  · rw [Engine.exec]
    exact harmless_pure ha _
  · rw [Engine.exec]
    exact harmless_pure ha _
  case h_4 echo text =>
    obtain ⟨rfl, htext⟩ := of_decide_eq_true h
    obtain ⟨text, rfl⟩ := Script.Expr.eq_text htext
    exact harmless_print ha text
  · cases h

theorem runFrom_pendingOf_text (text : Text) (s : State) :
    runFrom (pendingOf (.str text)) s = (.ok (.values (text.map fun c => .str [c])), s) := by
  unfold pendingOf valuesOf
  dsimp only
  rw [bind_assoc, runFrom_bind_ok (runFrom_now _ s), State.now_str]
  rfl

/-- What a constant text gives to go through are its characters. -/
theorem evalFrom_listing_text (text : Text) :
    evalFrom (e.listing (.const (.str text))) a s = (.ok (.values (text.map fun c => .str [c]), a), s) := by
  rw [Engine.listing, Engine.eval, pure_bind, evalFrom_bind_ok (evalFrom_now _ a s), State.now_str,
    evalFrom_bind_ok (evalFrom_now _ a s), State.now_str, evalFrom_run_ok (runFrom_pendingOf_text text s)]

theorem evalFrom_assign_name (name : Text) (w : Value) :
    evalFrom (e.assign (.name name) w) a s = (.ok ((), a.put name w), s) := by
  unfold Engine.assign Engine.placeOf
  rfl

theorem Scope.Named.put (h : a.Named) {name : Text} (hview : name ≠ "_view".toList) (hecho : name ≠ "_echo".toList)
    (w : Value) : (a.put name w).Named where
  view := (Table.get?_put _ _ _ _).trans ((if_neg hview).trans h.view)
  echo := (Table.get?_put _ _ _ _).trans ((if_neg hecho).trans h.echo)

/-- In inert pieces nothing but harmless steps are done. -/
theorem spared_of_inert (h : areInert p.clauses) (hp : p.Sound) : Spared v p := by
  obtain ⟨n, clauses, a, s, turns⟩ := p
  have ha : a.Named := hp.named
  match clauses, h with
  | [], _ => trivial
  | .plain _ st :: cs, h =>
    rw [areInert, Clause.isInert, Bool.and_eq_true] at h
    exact harmless_exec ha h.1
  | .branch _ test body orelse :: cs, h =>
    simp only [areInert, Clause.isInert, Bool.and_eq_true] at h
    obtain ⟨name, rfl⟩ := Script.Expr.eq_name h.1.1.1
    exact (harmless_name ha name).bind fun w b t _ hb => (harmless_now hb w).bind fun w' c u _ hc => harmless_pure hc _
  | .loop _ first _ _ target source body :: cs, h =>
    simp only [areInert, Clause.isInert, Bool.and_eq_true] at h
    obtain ⟨text, htext⟩ := Script.Expr.eq_text h.1.1.2
    obtain ⟨name, rfl, hview, hecho⟩ := Script.Expr.eq_target h.1.1.1
    refine ⟨htext ▸ harmless_const ha _, ?_, fun turn value b t _ hb => ?_⟩
    · rw [htext]
      exact harmless_of_ok (evalFrom_listing_text text) (refl s) ha
    · exact harmless_of_ok (evalFrom_assign_name name value) (refl t) (hb.put hview hecho value)
  | .part .. :: cs, h => cases h

/-- From inert pieces rendering gets to inert pieces only. -/
theorem inert_leads (h : areInert p.clauses) (hpq : Leads v p q) : areInert q.clauses := by
  cases hpq with
  | behind => exact (Bool.and_eq_true_iff.mp h).2
  | @branch _ _ _ _ _ _ _ _ _ _ _ holds =>
    simp only [areInert, Clause.isInert, Bool.and_eq_true] at h
    cases holds with
    | true => exact h.1.1.2
    | false => exact h.1.2
  | turn =>
    simp only [areInert, Clause.isInert, Bool.and_eq_true] at h
    exact h.1.2
  | part => cases h

/-- All that is done from inert pieces on is harmless. -/
theorem sparing_of_inert (h : areInert p.clauses) : Sparing v p := by
  have hreached : ∀ q, Relation.ReflTransGen (Leads v) p q → areInert q.clauses := by
    intro q hpq
    induction hpq with
    | refl => exact h
    | tail _ hstep ih => exact inert_leads ih hstep
  exact fun q hpq hq => spared_of_inert (hreached q hpq) hq

theorem runFrom_openLoop_sized {v : Value} {rest : Pending} {n : Nat}
    (hrun : runFrom (pendingOf (s.now v)) s = (.ok rest, t)) (hsized : (Value.length? (s.now v)).isSome) (hlength : Value.length (s.now v) = .ok n) :
    runFrom (openLoop v) s = (.ok (.stream t.streams.size "generator"), opened t n rest (some (s.now v))) := by
  rw [runFrom_openLoop, hrun]
  dsimp only
  rw [if_pos hsized, if_pos hsized, hlength]

/-- The target, the text and the body of a loop over a constant text. -/
def Clause.overText? : Clause → Option (Text × Text × List Clause)
  | .loop _ _ _ _ (.name name) ⟨.const (.str text), _⟩ body => some (name, text, body)
  | _ => none

/-- A loop over a constant text begins its first turn. -/
theorem leads_overText {c : Clause} {cs body : List Clause} {name text : Text} (hsound : p.Sound)
    (hp : p.clauses = c :: cs) (hinert : c.isInert) (hc : c.overText? = some (name, text, body))
    (hindex : Value.isIndex text.length) (hne : text ≠ []) :
    ∃ q, Leads v p q ∧ q.levels = p.levels ∧ q.clauses = body ∧ q.turns = ⟨text.length, 1⟩ :: p.turns := by
  obtain ⟨n, clauses, a, s, turns⟩ := p
  obtain rfl : clauses = c :: cs := hp
  unfold Clause.overText? at hc
  split at hc
  case h_2 => cases hc
  case h_1 line first last behind _ _ hsingle _ =>
    cases hc
    simp only [Clause.isInert, Bool.and_eq_true] at hinert
    obtain ⟨_, hx, hview, hecho⟩ := Script.Expr.eq_target hinert.1.1
    cases hx
    have ha : a.Named := hsound.named
    have hlisted := evalFrom_listing_text (e := v.engine n) (a := a) (s := s) text
    have hopen : runFrom (openLoop (.str text)) s = (.ok (.stream s.streams.size "generator"),
        opened s text.length (.values (text.map fun c => .str [c])) (some (.str text))) := by
      have hsized := @runFrom_openLoop_sized s s (.str text) (.values (text.map fun c => .str [c])) text.length
      rw [State.now_str] at hsized
      have hlength : Value.length (.str text) = .ok text.length := by
        rw [Value.length, Value.length?]
        dsimp only
        rw [if_pos hindex]
      exact hsized (runFrom_pendingOf_text text s) rfl hlength
    have hstream := evalFrom_addLoop (e := v.engine n) (s := s) ha hsingle
    rw [Engine.eval, pure_bind, evalFrom_bind_ok (evalFrom_now _ a s), State.now_str, evalFrom_run_ok hopen] at hstream
    let source : Operand := ⟨.const (.str text), hsingle⟩
    have hsource : Harmless ((v.engine n).eval source.expr) a s := harmless_const ha _
    have hlisting : Harmless ((v.engine n).listing source.expr) a s := harmless_of_ok hlisted (refl s) ha
    rcases opens hsource hlisting hsound with
      ⟨x, u, hfails, -⟩ | ⟨rest, i, f, b, t, hopened, hloop, hb⟩
    · rw [hstream] at hfails
      cases hfails
    · obtain ⟨b', u, hrest⟩ := hopened.listed
      rw [hlisted] at hrest
      cases hrest
      rcases hloop.next with ⟨w, t', hnext, -⟩ | ⟨t', -, hzero, -⟩
      · have hcount : (Pending.values (text.map fun c => .str [c])).count = text.length := List.length_map _
        have hc := hb.put hview hecho w
        exact ⟨_, .turn (.next hopened .start hnext) (evalFrom_assign_name name w) (evalFrom_readLoop hc), rfl, rfl,
          by rw [hcount]⟩
      · have hempty : 0 = (text.map fun c => Value.str [c]).length := hzero
        rw [List.length_map] at hempty
        exact absurd (List.length_eq_zero_iff.mp hempty.symm) hne

end Inert

/-- The template of a page that goes through two texts, one inside the other. -/
def nestedTemplate : Text := "@foreach(x in 'ab')@foreach(y in 'cd')-@if(y)@break@endif@endforeach@endforeach"

/-- What the template is compiled to. -/
def nestedProgram : Text := Text.join "\n" [
  "for x in _view.add_loop('ab'):", "    loop = _view.last_loop", "    for y in _view.add_loop('cd'):",
  "        loop = _view.last_loop", "        _echo('-')", "        if y:", "            break", "    _view.pop_loop()",
  "    loop = _view.last_loop", "_view.pop_loop()", "loop = _view.last_loop", ""]

example : ((Markup.read .standard "page" nestedTemplate).nodes.toOption.bind fun nodes =>
    (Program.generate (some "page") nodes).toOption.map Program.Builder.source) = some nestedProgram := by cbv

/-- The page, with the result of compiling its template remembered. -/
def nestedPage : State where
  disk := { files := { entries := [(["app"], .directory), (["app", "page.html"], .file nestedTemplate 0)] } }
  memory := { results := [(nestedTemplate ++ "page", ⟨nestedProgram, []⟩)] }

/-- The texts of a loop and of the loop that its body begins with. -/
def nestedTexts (cs : List Clause) : Option (Text × Text) := do
  let (_, text, body) ← (← cs.head?).overText?
  let (_, inner, _) ← (← body.head?).overText?
  return (text, inner)

theorem nestedTexts_eq_some {cs : List Clause} {text inner : Text} (h : nestedTexts cs = some (text, inner)) :
    ∃ c cs' name d ds name' body, cs = c :: cs' ∧ c.overText? = some (name, text, d :: ds) ∧
      d.overText? = some (name', inner, body) := by
  simp only [nestedTexts, Option.bind_eq_bind, Option.bind_eq_some_iff, Option.pure_def, Option.some.injEq,
    Prod.mk.injEq, Prod.exists, List.head?_eq_some_iff] at h
  obtain ⟨c, ⟨cs', rfl⟩, name, _, body, hc, d, ⟨ds, rfl⟩, name', _, body', hd, rfl, rfl⟩ := h
  exact ⟨c, cs', name, d, ds, name', body', rfl, hc, hd⟩

/-- The template goes through texts as it says, and beside that it only prints. -/
theorem loaded_nestedPage : (runFrom (load plainView "page") nestedPage).1.toOption.map
    (fun loaded => (areInert (clausesOf loaded.program), nestedTexts (clausesOf loaded.program))) =
    some (true, some ("ab".toList, "cd".toList)) := by decide +kernel

/-- In the first turn of the inner loop the body is told of both loops. -/
theorem loops_told_nestedPage : ∃ p₀ q, Starts plainView 1 "page" [] nestedPage [] p₀ ∧
    Relation.ReflTransGen (Leads plainView) p₀ q ∧ q.turns = [⟨2, 1⟩, ⟨2, 1⟩] ∧
    Tells (plainView.engine q.levels) q.scope q.state q.turns := by
  have hshape := loaded_nestedPage
  rcases hload : runFrom (load plainView "page") nestedPage with ⟨x | loaded, t⟩
  · rw [hload] at hshape
    cases hshape
  · rw [hload] at hshape
    have hshape := Prod.mk.inj (Option.some.inj hshape)
    have hstart : Starts plainView 1 "page" [] nestedPage [] _ := .loaded (by decide) hload
    have hsparing : Sparing plainView ⟨1, clausesOf loaded.program, scopeOf [], t.begun "page", []⟩ :=
      sparing_of_inert hshape.1
    have hfiled : Value.Filed nestedPage.changes := fun _ _ h => nomatch h
    obtain ⟨c, cs, name, d, ds, name', body, hp, hc, hd⟩ := nestedTexts_eq_some hshape.2
    have hsound : Point.Sound ⟨1, clausesOf loaded.program, scopeOf [], t.begun "page", []⟩ :=
      sound_starts hfiled .nil hstart
    have hinert := hshape.1
    rw [hp, areInert, Bool.and_eq_true] at hinert
    obtain ⟨q₁, hlead₁, -, hclauses₁, hturns₁⟩ := leads_overText hsound hp hinert.1 hc (by decide) (by decide)
    have hinert₁ := inert_leads hshape.1 hlead₁
    rw [hclauses₁, areInert, Bool.and_eq_true] at hinert₁
    obtain ⟨q₂, hlead₂, -, -, hturns₂⟩ :=
      leads_overText (sound_leads hsparing hsound hlead₁) hclauses₁ hinert₁.1 hd (by decide) (by decide)
    have hreached₁ := Relation.ReflTransGen.single hlead₁
    refine ⟨_, q₂, hstart, hreached₁.tail hlead₂, by rw [hturns₂, hturns₁]; rfl, ?_⟩
    have htold := loops_told plainView 1 "page" [] nestedPage _ q₁ rfl hfiled hstart hsparing hreached₁
    exact htold.1 q₂ ⟨2, 1⟩ hlead₂ hturns₂

end Stencil
