import Stencil.Json.Reader
import Stencil.Value.Lenient
import Stencil.Value.Serial

/-!
# The manifest

The manifest tells for every stored template what it depends on and when it was compiled.  It is a JSON object with one
member for each template; reading it is lenient about how numbers are written and about what is left out.
-/

namespace Stencil.Store

/-- What is known about one stored template. -/
structure Known where
  dependencies : List Text
  compiledAt : Int
  deriving DecidableEq, Repr

/-- What is known about the stored templates. -/
abbrev Manifest := Table Known

/-- What keeps a text from being a manifest; a number with too many digits is a fault of its own. -/
inductive Corruption where
  | overlong (digits : Nat)
  | notJson (detail : Text)
  | noObject
  | entry (detail : Text)
  deriving DecidableEq, Repr

/-- The wording of a corruption. -/
def Corruption.message : Corruption → Text
  | notJson detail | entry detail => detail
  | noObject => "expected a JSON object"
  | overlong digits => (Fault.overlong (some digits)).message

/-- A list of names. -/
def namesSetting : Value → Except Misfit (List Text)
  | .list items _ => items.mapM Value.textSetting
  | _ => .error .noList

/-- An optional field of an entry. -/
def fieldOr {α : Type} (name : Text) (entries : List (Value × Value)) (default : α) (read : Value → Except Misfit α) :
    Except Misfit α :=
  match Value.lookup (.str name) entries with
  | none => .ok default
  | some v => read v

/-- The entry that a value writes; without a time it counts as compiled now. -/
def Known.read (now : Int) : Value → Except Misfit Known
  | .dict entries _ => do
    let dependencies ← fieldOr "dependencies" entries [] namesSetting
    let compiledAt ← fieldOr "compiled_at" entries now Value.wholeSetting
    return ⟨dependencies, compiledAt⟩
  | _ => .error .noEntry

/-- The value that writes an entry. -/
def Known.json (k : Known) : Json :=
  .obj [("dependencies", .arr (k.dependencies.map .str)), ("compiled_at", .int k.compiledAt)]

namespace Manifest

/-- One member of a manifest. -/
def readMember (now : Int) (member : Text × Json) : Except Misfit (Text × Known) :=
  (Known.read now (Value.ofJson member.2)).map fun k => (member.1, k)

/-- The manifest that a text writes. -/
def read (now : Int) (s : Text) : Except Corruption Manifest :=
  match Json.read s with
  | .error ⟨.overlong digits, _⟩ => .error (.overlong digits)
  | .error d => .error (.notJson (d.message s))
  | .ok (.obj members) => (members.mapM (readMember now)).mapError fun m => .entry m.code
  | .ok _ => .error .noObject

/-- How a manifest is laid out. -/
def layout : Json.Layout := { ascii := true, step := some "  " }

/-- The text of a manifest: names in ascending order, two blanks for each level, a newline at the end. -/
def text (m : Manifest) : Text := Json.print layout (.obj (m.sorted.map fun (name, k) => (name, k.json))) ++ "\n"

/-- A time in the manifest has more digits than are written. -/
def hasOverlong (m : Manifest) : Bool := m.any fun (_, k) => Number.isOverlong k.compiledAt

/-- The manifest after changes: a name is bound to something, or forgotten. -/
def update (m : Manifest) (changes : Table (Option Known)) : Manifest :=
  changes.foldl (fun m (name, change) =>
    match change with
    | none => m.erase name
    | some k => m.put name k) m

end Manifest
end Stencil.Store
