import Stencil.View.State

/-!
# Output, sections, pushes and slots

What a page prints goes to the innermost capture.  Sections are defined once: the first definition stays, and where it
holds a mark for its parent the next definition goes.  Pushes collect all their bodies.  A closer without its opener is
reported and does nothing else.
-/

namespace Stencil

/-- The mark where a section's parent goes. -/
def parentMark : Text := "##parent-placeholder-d8fd39d0bbdd2dcf322d8b11390a4c5825b11495##"

namespace Pass

/-- Text goes to the innermost capture; there is none if `none`. -/
def print? (s : Text) (p : Pass) : Option Pass :=
  match p.captures with
  | [] => none
  | c :: rest => some { p with captures := { c with text := c.text ++ s } :: rest }

/-- Opens a capture. -/
def openCapture (c : Capture) (p : Pass) : Pass := { p with captures := c :: p.captures }

/-- The outermost section that is open. -/
def openSection? (p : Pass) : Option Capture := p.captures.reverse.find? (·.kind = .sectionBody)

/-- The innermost capture, if it is of a kind, and what is left without it. -/
def close? (kind : CaptureKind) (p : Pass) : Option (Capture × Pass) :=
  match p.captures with
  | c :: rest => if c.kind = kind then some (c, { p with captures := rest }) else none
  | [] => none

/-- Defines a section: the first definition stays, and is filled where it has a mark for its parent. -/
def define (name : Value) (content : Text) (p : Pass) : Pass :=
  match Value.lookup name p.sections with
  | none => { p with sections := Value.bind name content p.sections }
  | some old =>
    if Text.contains parentMark old then
      { p with sections := Value.bind name (Text.replace parentMark content old) p.sections }
    else p

/-- Adds a body to a push. -/
def addPush (name : Value) (body : Text) (p : Pass) : Pass :=
  { p with pushes := Value.bind name ((Value.lookup name p.pushes).getD [] ++ [body]) p.pushes }

/-- The bodies of a push, one behind the other. -/
def pushed (name : Value) (p : Pass) : Text := ((Value.lookup name p.pushes).getD []).flatten

end Pass

namespace Run

/-- Prints text. -/
def print (s : Text) : Run Unit := do
  match (← pass).print? s with
  | some p => modifyPass fun _ => p
  | none => raise (.indexRange "list")

/-- Opens a capture. -/
def openCapture (kind : CaptureKind) (name : Value) (component : Option Nat) : Run Unit :=
  modifyPass (·.openCapture { kind, name, component })

/-- Closes the innermost capture if it is of a kind, and reports a stray closer if it is not. -/
def closeCapture (kind : CaptureKind) (directive : Text) : Run (Option Capture) := do
  match (← pass).close? kind with
  | some (c, p) =>
    modifyPass fun _ => p
    return some c
  | none =>
    warn ("@" ++ directive ++ " without a matching opening directive ignored")
    return none

/-- Defines a section. -/
def define (name : Value) (content : Text) : Run Unit := do
  lift (Value.checkKey name)
  modifyPass (·.define name content)

/-- The text of a section's name inside an error. -/
def nameText (name : Value) : Run Text := return Value.text (← get).shown name

/-- Opens a section; no section may be open. -/
def openSection (name : Value) : Run Unit := do
  match (← pass).openSection? with
  | some outer => throw (.ofCause (.nestedSection (← nameText outer.name) (← nameText name)))
  | none => openCapture .sectionBody name none

/-- Closes a section and defines it. -/
def closeSection : Run Unit := do
  match ← closeCapture .sectionBody "endsection" with
  | some c => define c.name c.text
  | none => return

/-- The content of a section, if it is defined. -/
def sectionText? (name : Value) : Run (Option Text) := do
  lift (Value.checkKey name)
  return Value.lookup name (← pass).sections

/-- Closes a push and keeps its body. -/
def closePush : Run Unit := do
  match ← closeCapture .push "endpush" with
  | some c =>
    lift (Value.checkKey c.name)
    modifyPass (·.addPush c.name c.text)
  | none => return

/-- The bodies of a push. -/
def pushText (name : Value) : Run Text := do
  lift (Value.checkKey name)
  return (← pass).pushed name

/-- Opens a slot of the innermost component that is open. -/
def openSlot (name : Value) : Run Unit := do
  let component := ((← pass).captures.find? (·.kind = .component)).bind Capture.component
  if component.isNone then
    warn ("@slot('" ++ (← nameText name) ++ "') outside of a component; content discarded")
  openCapture .slot name component

/-- Closes a slot and fills it. -/
def closeSlot : Run Unit := do
  match ← closeCapture .slot "endslot" with
  | some ⟨_, name, some id, text⟩ => modifyBag id fun b => b.setSlot name (.markup text)
  | _ => return

end Run
end Stencil
