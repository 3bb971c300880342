import Stencil.Number.Binary
import Stencil.Number.Reading
import Stencil.Text.Case
import Stencil.Time.Stamp
import Stencil.Value.Basic

/-!
# Lenient readings of values

Settings that come from outside are read leniently: a whole number may be written as a text or as a number without a
fraction, a truth value by one of the usual words.
-/

namespace Stencil.Value

/-- The text from its first part on that is no leading zero; a zero stays where nothing but zeros stands before the end
or before a point.  `last` is the character before the text. -/
def withoutZeros? (last : Char) : Text → Option Text
  | [] => some [last]
  | c :: s =>
    if c = '0' ∨ c = '_' then withoutZeros? c s
    else if c = '-' ∨ ('1' ≤ c ∧ c ≤ '9') then some (c :: s)
    else if c = '.' then some (last :: c :: s)
    else none

/-- A number without its leading zeros; it begins with a digit or a minus sign. -/
def significant? : Text → Option Text
  | [] => none
  | c :: s =>
    if c = '0' then withoutZeros? c s
    else if c = '-' ∨ ('1' ≤ c ∧ c ≤ '9') then some (c :: s)
    else none

/-- A number without its point, behind which only zeros may stand. -/
def beforePoint? (s : Text) : Option Text :=
  match Text.cut? ['.'] s with
  | some (before, after) => if !after.isEmpty && after.all (· == '0') then some before else none
  | none => some s

/-- A number without the single underscores inside it. -/
def ungrouped (s : Text) : Text :=
  if s.head? = some '_' ∨ s.getLast? = some '_' ∨ Text.contains "__" s then s else s.filter (· != '_')

/-- Digits without a superfluous zero in front, behind an optional minus sign. -/
def plainWhole? (s : Text) : Except Misfit Int :=
  let (negative, digits) : Bool × Text := match s with
    | '-' :: r => (true, r)
    | r => (false, r)
  let malformed := digits.isEmpty || digits.any (fun c => (Text.digit? c).isNone) || (digits.head? == some '0' && digits != ['0'])
  if malformed then .error .noWholeText
  else if digits.length > Number.digitLimit then .error .hugeWhole
  else
    let n : Int := Text.ofDigits 10 (digits.filterMap Text.digit?)
    .ok (if negative then -n else n)

/-- A number without a plus sign in front of it. -/
def unsigned? : Text → Option Text
  | '+' :: '-' :: _ => none
  | '+' :: s => some s
  | s => some s

/-- The whole number that a text writes: with a sign, leading zeros, underscores, and a point before zeros. -/
def wholeOfText (s : Text) : Except Misfit Int :=
  match unsigned? (Text.trim Text.isWhite s) |>.bind significant? |>.bind beforePoint? with
  | some s => plainWhole? (ungrouped s)
  | none => .error .noWholeText

/-- The whole number that a floating point number is. -/
def wholeOfFloat (x : Float) : Except Misfit Int :=
  match Number.parts x with
  | .nan | .infinite _ => .error .infinite
  | .finite .. =>
    let n := Time.truncate x
    if !(Float.ofInt n == x) then .error .fraction
    else if n.natAbs < Nat.pow 2 63 then .ok n
    else .error .hugeWhole

/-- A whole number. -/
def wholeSetting : Value → Except Misfit Int
  | .bool b => .ok (if b then 1 else 0)
  | .int n => .ok n
  | .float x => wholeOfFloat x
  | .str s | .markup s => wholeOfText s
  | _ => .error .noWhole

/-- The words for true and for false. -/
def truthWords : List Text × List Text :=
  (["1", "on", "t", "true", "y", "yes"], ["0", "off", "f", "false", "n", "no"])

/-- The truth value of a number. -/
def truthOfWhole (n : Int) : Except Misfit Bool :=
  if n = 1 then .ok true else if n = 0 then .ok false else .error .noTruthText

/-- A truth value. -/
def truthSetting : Value → Except Misfit Bool
  | .bool b => .ok b
  | .int n => if n.natAbs < Nat.pow 2 63 then truthOfWhole n else .error .noTruth
  | .float x =>
    match wholeOfFloat x with
    | .ok n => truthOfWhole n
    | .error _ => .error .noTruth
  | .str s | .markup s =>
    let s := Text.lower s
    if s ∈ truthWords.1 then .ok true else if s ∈ truthWords.2 then .ok false else .error .noTruthText
  | _ => .error .noTruth

/-- A text. -/
def textSetting : Value → Except Misfit Text
  | .str s | .markup s => .ok s
  | _ => .error .noText

/-- The text of a path. -/
def pathSetting : Value → Except Misfit Text
  | .str s | .markup s => .ok s
  | _ => .error .noPath

end Stencil.Value
