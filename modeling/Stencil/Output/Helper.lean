import Stencil.Output.Amount
import Stencil.Output.Embedded
import Stencil.Output.Plain
import Stencil.Value.Call

/-!
# The helpers of a program

A program that a template was compiled to reaches the output functions by name, with positional and named arguments.
-/

namespace Stencil.Output

/-- A function of the helpers. -/
inductive Helper where
  | plain
  | orDefault
  | escaped
  | escapeText
  | markup
  | json
  | date
  | amount
  | broken
  | query
  | checked
  | selected
  | disabled
  deriving DecidableEq, Repr

namespace Helper

/-- The helpers by the names that programs call them by. -/
def table : Table Helper := [
  ("to_str", plain), ("or_default", orDefault), ("e", escaped), ("escape", escapeText), ("Markup", markup),
  ("to_json", json), ("format_date", date), ("number_format", amount), ("nl2br", broken), ("urlencode", query),
  ("checked", checked), ("selected", selected), ("disabled", disabled)]

/-- The helper with a name. -/
def named? (name : Text) : Option Helper := table.get? name

/-- A parameter with a default. -/
def optional (name : Text) (v : Value) : Parameter := { name, default := some v }

/-- The parameters of a helper. -/
def parameters : Helper → List Parameter
  | orDefault => [{ name := "value" }, optional "fallback" (.str [])]
  | json => [{ name := "value" }, optional "indent" .null]
  | date => [{ name := "value" }, optional "fmt" (.str dateFormat)]
  | amount =>
    [{ name := "value" }, optional "decimals" (.int 2), optional "decimal_point" (.str ","),
      optional "thousands" (.str " ")]
  | escapeText => [{ name := "s" }]
  | markup => [optional "object" (.str [])]
  | checked | selected | disabled => [{ name := "condition" }]
  | _ => [{ name := "value" }]

/-- The signature of the helper with a name. -/
def signature (name : Text) (h : Helper) : Signature := { name, parameters := h.parameters }

/-- The helper shows its first argument as text, so that whatever renders itself is rendered for it. -/
def shows : Helper → Bool
  | plain | escaped | escapeText | markup | date | broken | query => true
  | _ => false

/-- A value that must be text. -/
def needText (v : Value) : Except Fault Text :=
  match v.text? with
  | some s => .ok s
  | none => .error (.wrongType ("replace() argument 2 must be str, not " ++
      match v with
      | .null => ("None" : Text)
      | v => v.kind))

/-- The text of an amount whose parts are values. -/
def amountOf (b : Bound) : Except Fault Text := do
  let value := b.get "value"
  let x ← toFloat (if value.truthy then value else .int 0)
  let places ← toPlaces (← toWhole (b.get "decimals"))
  let point ← needText (b.get "decimal_point")
  let group ← needText (b.get "thousands")
  return Output.amount { places, point, group } x

/-- What a helper gives for bound arguments. -/
def apply (shown : Value → Text) (h : Helper) (b : Bound) : Except Fault Value :=
  let value := b.get "value"
  let flagged (word : Text) : Except Fault Value := .ok (.str (flag word (b.get "condition")))
  match h with
  | plain => .ok (match value with
    | .null => .str []
    | v => .str (Value.text shown v))
  | orDefault => .ok (Output.orDefault value (b.get "fallback"))
  | escaped => .ok (.markup (Output.escaped shown value))
  | escapeText => .ok (match b.get "s" with
    | .markup s => .markup s
    | v => .markup (Text.html (Value.text shown v)))
  | markup => .ok (.markup (Value.text shown (b.get "object")))
  | json => (Output.json value (b.get "indent")).map .markup
  | date => (Output.date shown value (b.get "fmt")).map .str
  | amount => (amountOf b).map .str
  | broken => .ok (.markup (Output.broken shown value))
  | query => .ok (.str (Output.query shown value))
  | checked => flagged "checked"
  | selected => flagged "selected"
  | disabled => flagged "disabled"

/-- The helper writes its argument, in which no number may be too long. -/
def writes : Helper → Bool
  | plain | escaped | escapeText | markup | broken | query => true
  | _ => false

/-- Calls the helper with a name. -/
def call (shown : Value → Text) (name : Text) (h : Helper) (args : List Value) (named : Table Value) :
    Except Fault Value := do
  let b ← (h.signature name).bind args named
  if h.writes && b.values.any fun (_, v) => v.hasOverlong then throw (.overlong none)
  h.apply shown b

end Helper
end Stencil.Output
