import Stencil.Compiler
import Stencil.Component.Registry
import Stencil.Config
import Stencil.Context
import Stencil.Loop
import Stencil.Store.Basic
import Stencil.Value.Builtin
import Stencil.Value.Identity

/-!
# Views

A view renders templates.  Everything a page prints goes to the innermost *capture*: a template's own output, or a
section, a push, a component's body or a slot inside it.

* `View` — what stays the same: settings, where templates are found and stored, what the application adds.
* `Pass` — what one rendering collects: open captures and loops, the layout asked for, sections and pushes.
* `State` — everything that changes: the disk, the compiler's memory, the pass, what lives on while a page is rendered
  (loop frames, components, streams), named by number, and what has changed of the values that a page reaches.
* `Run` — a step of rendering; what it changed stays changed if it fails.
-/

namespace Stencil

/-- What a capture collects. -/
inductive CaptureKind where
  | template
  | sectionBody
  | push
  | component
  | slot
  deriving DecidableEq, Repr

/-- The name of a kind of capture. -/
def CaptureKind.name : CaptureKind → Text
  | template => "template"
  | sectionBody => "section"
  | push => "push"
  | component => "component"
  | slot => "slot"

/-- Output that is being collected; a component's body and a slot know their component. -/
structure Capture where
  kind : CaptureKind
  name : Value
  component : Option Nat := none
  text : Text := []
  deriving Repr

/-- What one rendering collects; captures and loops are listed innermost first. -/
structure Pass where
  captures : List Capture := []
  loops : List Nat := []
  /-- The layout asked for; nothing if there is none. -/
  layout : Value := .null
  sections : List (Value × Text) := []
  pushes : List (Value × List Text) := []
  /-- The number of templates being evaluated. -/
  nesting : Int := 0
  deriving Repr

/-- Values still to come: listed, or counted from a number on in steps. -/
inductive Pending where
  | values (vs : List Value)
  | numbers (next step : Int) (count : Nat)
  deriving Repr

namespace Pending

/-- How many values are still to come. -/
def count : Pending → Nat
  | values vs => vs.length
  | numbers _ _ n => n

/-- The next value, and what comes behind it. -/
def next? : Pending → Option (Value × Pending)
  | values [] | numbers _ _ 0 => none
  | values (v :: vs) => some (v, values vs)
  | numbers n step (count + 1) => some (.int n, numbers (n + step) step count)

end Pending

/-- Values that are taken one after the other: those still to come, how many have been taken, what they are taken from if
that can change, and the frame that advances with each. -/
structure Stream where
  rest : Pending
  taken : Nat := 0
  source : Option Value := none
  frame : Option Nat := none
  deriving Repr

/-- Everything that changes. -/
structure State where
  disk : Disk
  memory : Compiler.Memory := {}
  pass : Pass := {}
  frames : Array Frame := #[]
  components : Array Component := #[]
  streams : Array Stream := #[]
  /-- The number of the next birth of values that can change. -/
  births : Nat := 0
  /-- What such values hold now if it is something else than at their birth. -/
  changed : List (Identity × Value) := []

/-- Nothing has been rendered yet. -/
def State.ofFiles (files : Files) : State := { disk := { files } }

/-- Nothing is remembered: neither programs nor results of compiling nor a pass. -/
def State.renewed (s : State) : State := { s with memory := {}, pass := {}, disk := { s.disk with programs := [] } }

/-- Without the reports so far. -/
def State.quiet (s : State) : State := { s with disk := { s.disk with log := [] } }

/-- The most rounds of a loop, and of a page unless its view says otherwise. -/
def Run.roundLimit : Nat := Nat.pow 2 20

/-- A renderer of templates. -/
structure View where
  config : Config
  finder : Finder
  registry : Registry
  components : ComponentRegistry
  context : Context
  /-- The most templates that a page may go through, one being the layout of the other. -/
  rounds : Nat := Run.roundLimit

/-- A step of rendering. -/
abbrev Run := ExceptT Error (StateM State)

namespace State

/-- A value as it is now. -/
def now (s : State) (v : Value) : Value :=
  if s.changed.isEmpty then v else v.now (fun who => s.changed.lookup who) s.changed.length

/-- A component, with its data as they are now. -/
def component (s : State) (id : Nat) : Component :=
  let c := (s.components[id]?).getD default
  match c.who.bind fun who => s.changed.lookup who with
  | some (.dict data _) => { c with data }
  | _ => c

end State

namespace Run

/-- Does some work on the disk. -/
def work {α : Type} (act : Work α) : Run α := ExceptT.mk fun s =>
  let (r, disk) := act.run s.disk
  (r, { s with disk })

/-- Does a step of compiling; its reports go to the log of the disk. -/
def compiling {α : Type} (act : Compiler.Compile α) : Run α := ExceptT.mk fun s =>
  let (r, memory) := act.run { s.memory with log := [] }
  (r, { s with memory, disk := { s.disk with log := s.disk.log ++ memory.log } })

/-- Reports something. -/
def report (level : Level) (message : Text) (traced : Bool) : Run Unit :=
  modify fun s => { s with disk := { s.disk with log := s.disk.log ++ [⟨level, message, traced⟩] } }

/-- Warns of something. -/
def warn (message : Text) : Run Unit := report .warning message false

/-- Fails with a fault. -/
def raise {α : Type} (f : Fault) : Run α := throw (.fault f)

/-- The result of a step that may fail with a fault. -/
def lift {α : Type} : Except Fault α → Run α
  | .ok a => return a
  | .error f => raise f

/-- Looks at the pass. -/
def pass : Run Pass := return (← get).pass

/-- Changes the pass. -/
def modifyPass (f : Pass → Pass) : Run Unit := modify fun s => { s with pass := f s.pass }

/-! ## What lives on while a page is rendered -/

/-- Adds a frame. -/
def addFrame (f : Frame) : Run Nat := do
  let n := (← get).frames.size
  modify fun s => { s with frames := s.frames.push f }
  return n

/-- Adds a component. -/
def addComponent (c : Component) : Run Nat := do
  let n := (← get).components.size
  modify fun s => { s with components := s.components.push c }
  return n

/-- Adds a stream. -/
def addStream (st : Stream) : Run Nat := do
  let n := (← get).streams.size
  modify fun s => { s with streams := s.streams.push st }
  return n

/-- A component. -/
def component (id : Nat) : Run Component := return (← get).component id

/-- Changes a component. -/
def modifyComponent (id : Nat) (f : Component → Component) : Run Unit :=
  modify fun s => { s with components := s.components.modify id f }

/-- Something that can change holds something else from now on. -/
def changeTo (who : Identity) (v : Value) : Run Unit :=
  modify fun s => { s with changed := (who, v) :: s.changed.filter fun entry => entry.1 != who }

/-- Changes what a component holds. -/
def setBag (id : Nat) (bag : Bag) : Run Unit := do
  modifyComponent id fun c => { c with toBag := bag }
  match bag.who with
  | some who => changeTo who (.dict bag.data who)
  | none => return

/-- Changes what a component holds, or fails with a fault. -/
def modifyBag (id : Nat) (f : Bag → Except Fault Bag) : Run Unit := do setBag id (← lift (f (← component id).toBag))

/-! ### Values that can change -/

/-- Gives a value and its parts identities, unless they have them. -/
def settle (v : Value) : Run Value := do
  if v.isSettled then return v
  modifyGet fun s => (v.settleAt s.births [], { s with births := s.births + 1 })

/-- A value as it is now. -/
def now (v : Value) : Run Value := return (← get).now v

end Run

/-- A loop frame. -/
def State.frame (s : State) (id : Nat) : Frame := (s.frames[id]?).getD default

/-- The text of a frame, with its enclosing frames as far as `levels` allows. -/
def State.frameText (s : State) : Nat → Nat → Text
  | 0, _ => "..."
  | levels + 1, id =>
    let f := s.frame id
    let field (name : Text) (v : Text) : Text := name ++ "=" ++ v
    let truth (b : Bool) : Text := if b then "True" else "False"
    let parent : Text := match f.parent with
      | none => "None"
      | some p => s.frameText levels p
    "LoopFrame(" ++ Text.join ", " [
      field "count" (Text.ofNat f.count), field "depth" (Text.ofNat f.depth),
      field "iteration" (Text.ofNat f.iteration), field "index" (Text.ofNat f.index),
      field "remaining" (Text.ofInt f.remaining), field "first" (truth f.first), field "last" (truth f.last),
      field "parent" parent] ++ ")"

/-- A frame as a record of what it says, with its enclosing frames as far as `levels` allows. -/
def State.frameRecord (s : State) : Nat → Nat → Value
  | 0, id => .frame id
  | levels + 1, id =>
    let f := s.frame id
    .record [("count", .int f.count), ("depth", .int f.depth), ("iteration", .int f.iteration),
      ("parent", (f.parent.map (s.frameRecord levels)).getD .null)] none

mutual

/-- A value with its loop frames as records, by which they compare. -/
def State.unfold (s : State) : Value → Value
  | .frame id => s.frameRecord (s.frames.size + 1) id
  | .list items who => .list (s.unfoldAll items) who
  | .tuple items => .tuple (s.unfoldAll items)
  | .dict entries who => .dict (s.unfoldEntries entries) who
  | v => v

/-- Several values with their loop frames as records. -/
def State.unfoldAll (s : State) : List Value → List Value
  | [] => []
  | v :: vs => s.unfold v :: s.unfoldAll vs

/-- The entries of a mapping with their loop frames as records. -/
def State.unfoldEntries (s : State) : List (Value × Value) → List (Value × Value)
  | [] => []
  | (k, v) :: es => (k, s.unfold v) :: s.unfoldEntries es

end

/-- The text of a value that lives in the state. -/
def State.shown (s : State) : Value → Text
  | .frame id => s.frameText (s.frames.size + 1) id
  | .builtin name => Builtin.shown name
  | v => "<" ++ v.kind ++ " object>"

end Stencil
