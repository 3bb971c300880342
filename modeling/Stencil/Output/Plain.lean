import Stencil.Number.Reading
import Stencil.Text.Html
import Stencil.Time.Format
import Stencil.Time.Iso
import Stencil.Time.Stamp
import Stencil.Value.Compare
import Stencil.Value.Show

/-!
# Printing values

The text that a page shows for a value, and the escaped, percent encoded and line breaking forms of it.  Nothing prints
as nothing.  Markup is text that is safe already: it is never escaped again.

A date may be given as a day, a moment, a count of seconds since the beginning of 1970, or as text: a count of seconds
or a date in the international format.
-/

namespace Stencil.Output

/-- The text that a page shows for a value. -/
def plain (shown : Value → Text) : Value → Text
  | .null => []
  | v => Value.text shown v

/-- The value, or a fallback if the value is nothing or empty. -/
def orDefault (value fallback : Value) : Value :=
  if [.null, .str [], .list [] none, .dict [] none].any (Value.equal value) then fallback else value

/-- The markup that shows a value. -/
def escaped (shown : Value → Text) : Value → Text
  | .markup s => s
  | v => Text.html (plain shown v)

/-- The markup that shows a value, with a break element before every line break. -/
def broken (shown : Value → Text) (v : Value) : Text :=
  Text.replace "\n" "<br>\n" (Text.replace "\r\n" "\n" (escaped shown v))

/-- The text of a value as part of a query. -/
def query (shown : Value → Text) (v : Value) : Text := Text.query (plain shown v)

/-- A word that stands only if a condition holds. -/
def flag (word : Text) (condition : Value) : Text := if condition.truthy then word else []

/-! ## Dates and times -/

/-- The moment that text names: a count of seconds first, then a date. -/
def momentOfText (s : Text) : Except Fault Stencil.Moment :=
  match Number.readFloat? s with
  | none => Time.read s
  | some x =>
    match Time.ofFloat x with
    | .error f => if f.kind = "ValueError" then Time.read s else .error f
    | r => r

/-- The moment that a value names. -/
def momentOf (shown : Value → Text) : Value → Except Fault Stencil.Moment
  | .day d => .ok { day := d }
  | .moment m => .ok m
  | .bool b => Time.ofSeconds (if b then 1 else 0) 0
  | .int n => Time.ofSeconds n 0
  | .float x => Time.ofFloat x
  | v => do momentOfText (Text.strip (← Value.write shown v))

/-- The date format where none is given. -/
def dateFormat : Text := "%Y-%m-%d"

/-- The text of a date in a format, which ends at its first zero character; nothing for nothing and for empty text. -/
def date (shown : Value → Text) (value format : Value) : Except Fault Text :=
  if Value.equal value .null || Value.equal value (.str []) then .ok []
  else do
    let m ← momentOf shown value
    match format with
    | .str f | .markup f => return Time.write (f.takeWhile (· != '\x00')) m
    | f => .error (.wrongType ("strftime() argument 1 must be str, not " ++
        match f with
        | .null => ("None" : Text)
        | f => f.kind))

end Stencil.Output
