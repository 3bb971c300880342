import Stencil.Text.Case
import Stencil.Text.Html
import Stencil.Value.Access
import Stencil.Value.Call

/-!
# Methods of texts and mappings

What a program may call on a text or a mapping.  A method of markup gives markup, and escapes the texts that it is given
unless they are markup themselves.
-/

namespace Stencil.Value

/-- A method of a text. -/
inductive TextMethod where
  | upper
  | lower
  | title
  | strip
  | stripLeft
  | stripRight
  | join
  | replace
  | startsWith
  | endsWith
  | split
  deriving DecidableEq, Repr

/-- A method of a mapping. -/
inductive DictMethod where
  | get
  | items
  | keys
  | values
  deriving DecidableEq, Repr

/-- The methods of texts by name. -/
def textMethods : Table TextMethod := [
  ("upper", .upper), ("lower", .lower), ("title", .title), ("strip", .strip), ("lstrip", .stripLeft),
  ("rstrip", .stripRight), ("join", .join), ("replace", .replace), ("startswith", .startsWith),
  ("endswith", .endsWith), ("split", .split)]

/-- The methods of mappings by name. -/
def dictMethods : Table DictMethod := [
  ("get", .get), ("items", .items), ("keys", .keys), ("values", .values)]

/-- A method that got the wrong number of arguments: none are expected. -/
def takesNone (name : Text) (count : Nat) : Fault :=
  .wrongType (name ++ "() takes no arguments (" ++ Text.ofNat count ++ " given)")

/-- A method that got too few or too many arguments. -/
def expected (name : Text) (least most count : Nat) : Fault :=
  let noun (n : Nat) : Text := if n = 1 then " argument" else " arguments"
  let bound (word : Text) (n : Nat) : Text := word ++ " " ++ Text.ofNat n ++ noun n
  .wrongType (name ++ " expected " ++ (if count < least then bound "at least" least else bound "at most" most) ++
    ", got " ++ Text.ofNat count)

/-- The texts of values that are texts, from a number on. -/
def textsFrom (n : Nat) : List Value → Except Fault (List Text)
  | [] => .ok []
  | v :: vs =>
    match v.text? with
    | some s => do return s :: (← textsFrom (n + 1) vs)
    | none =>
      .error (.wrongType ("sequence item " ++ Text.ofNat n ++ ": expected str instance, " ++ v.kind ++ " found"))

/-- The markup of a value inside markup: escaped unless it is markup itself. -/
def markupOf (shown : Value → Text) (v : Value) : Except Fault Text :=
  match v with
  | .markup s => .ok s
  | v => (write shown v).map Text.html

/-- The text with the first `count` occurrences of a non-empty text replaced, or all of them. -/
def replaceSome (count : Nat) (old new : Text) : Nat → Text → Text
  | 0, s => s
  | fuel + 1, s =>
    if count = 0 then s
    else match Text.cut? old s with
      | none => s
      | some (before, after) => before ++ new ++ replaceSome (count - 1) old new fuel after

/-- A value as a whole number. -/
def wholeArgument (v : Value) : Except Fault Int :=
  match position? v with
  | some n => .ok n
  | none => .error (.wrongType (Text.quoted v.kind ++ " object cannot be interpreted as an integer"))

/-- The parts between occurrences of a separator. -/
def partsBetween (separator : Text) : Nat → Text → List Text
  | 0, s => [s]
  | fuel + 1, s =>
    match Text.cut? separator s with
    | none => [s]
    | some (before, after) => before :: partsBetween separator fuel after

/-- The characters that a strip removes. -/
def stripped (args : List Value) : Except Fault (Char → Bool) :=
  match args with
  | [] | [.null] => .ok Text.isBlank
  | [.str cs] | [.markup cs] => .ok fun c => c ∈ cs
  | _ => .error (.wrongType "strip arg must be None or str")

/-- A text has one of the given heads, or ends. -/
def fits (name : Text) (test : Text → Bool) (args : List Value) : Except Fault Value :=
  match args with
  | [.str t] | [.markup t] => .ok (.bool (test t))
  | [.tuple ts] => .ok (.bool ((ts.filterMap text?).any test))
  | [v] =>
    .error (.wrongType (name ++ " first arg must be str or a tuple of str, not " ++ v.kind))
  | _ => .error (expected name 1 3 args.length)

/-- An argument that must be a text to replace or be replaced. -/
def replaceable (n : Nat) (v : Value) : Except Fault Text :=
  match v.text? with
  | some t => .ok t
  | none =>
    .error (.wrongType ("replace() argument " ++ Text.ofNat n ++ " must be str, not " ++
      (match v with
        | .null => "None"
        | v => v.kind : Text)))

/-- The text with the first occurrences of `old` replaced, all of them for a negative count. -/
def replaceCounted (old new : Text) (count : Int) (s : Text) : Text :=
  if count < 0 then Text.replace old new s
  else if old.isEmpty then
    let (front, rest) := s.splitAt (count.toNat - 1)
    if count = 0 then s
    else front.flatMap (fun c => new ++ [c]) ++ new ++ rest
  else replaceSome count.toNat old new s.length s

/-- The parts of a text between blanks, or between occurrences of a separator. -/
def split (separator : Value) (s : Text) : Except Fault (List Text) :=
  match separator with
  | .null => .ok (Text.words s)
  | .str [] | .markup [] => .error (.wrongValue "empty separator")
  | .str t | .markup t => .ok (partsBetween t s.length s)
  | v => .error (.wrongType ("must be str or None, not " ++ v.kind))

/-- Calls a method of a text. -/
def callText (m : TextMethod) (s : Text) (args : List Value) : Except Fault Value :=
  let plain (name : Text) (result : Text) : Except Fault Value :=
    if args.isEmpty then .ok (.str result) else .error (takesNone name args.length)
  match m with
  | .upper => plain "str.upper" (Text.upper s)
  | .lower => plain "str.lower" (Text.lower s)
  | .title => plain "str.title" (Text.title s)
  | .strip => do return .str (Text.trim (← stripped args) s)
  | .stripLeft => do return .str (s.dropWhile (← stripped args))
  | .stripRight => do return .str (s.reverse.dropWhile (← stripped args)).reverse
  | .join =>
    match args with
    | [v] =>
      match items? v with
      | some vs => do return .str (Text.join s (← textsFrom 0 vs))
      | none => .error (.wrongType "can only join an iterable")
    | args => .error (.wrongType ("str.join() takes exactly one argument (" ++ Text.ofNat args.length ++ " given)"))
  | .replace =>
    match args with
    | [old, new] => do return .str (Text.replace (← replaceable 1 old) (← replaceable 2 new) s)
    | [old, new, count] => do
      let old ← replaceable 1 old
      let new ← replaceable 2 new
      return .str (replaceCounted old new (← wholeArgument count) s)
    | args => .error (expected "replace" 2 3 args.length)
  | .startsWith => fits "startswith" (fun t => t.isPrefixOf s) args
  | .endsWith => fits "endswith" (fun t => t.isSuffixOf s) args
  | .split =>
    match args with
    | [] => .ok (.list ((Text.words s).map .str) none)
    | [v] => do return .list ((← split v s).map .str) none
    | _ => .error .unsupported

/-- The parameters of a method of markup, beside the markup itself. -/
def markupParameters : TextMethod → List Parameter
  | .strip | .stripLeft | .stripRight => [{ name := "chars", default := some .null }]
  | .join => [{ name := "iterable" }]
  | .replace => [{ name := "old" }, { name := "new" }, { name := "count", default := some (.int (-1)) }]
  | .split => [{ name := "sep", default := some .null }, { name := "maxsplit", default := some (.int (-1)) }]
  | _ => []

/-- Calls a method of markup. -/
def callMarkup (shown : Value → Text) (m : TextMethod) (name s : Text) (args : List Value) (named : Table Value) :
    Except Fault Value := do
  match m with
  | .startsWith | .endsWith => callText m s args
  | m =>
    let signature : Signature := { name := "Markup." ++ name, parameters := markupParameters m, receiver := true }
    let b ← signature.bind args named
    let trimming := [b.get "chars"]
    match m with
    | .upper => return .markup (Text.upper s)
    | .lower => return .markup (Text.lower s)
    | .title => return .markup (Text.title s)
    | .strip => return .markup (Text.trim (← stripped trimming) s)
    | .stripLeft => return .markup (s.dropWhile (← stripped trimming))
    | .stripRight => return .markup (s.reverse.dropWhile (← stripped trimming)).reverse
    | .join =>
      match items? (b.get "iterable") with
      | some vs => return .markup (Text.join s (← vs.mapM (markupOf shown)))
      | none => throw (notIterable (b.get "iterable"))
    | .replace =>
      let new ← markupOf shown (b.get "new")
      let old ← replaceable 1 (b.get "old")
      return .markup (replaceCounted old new (← wholeArgument (b.get "count")) s)
    | .split =>
      if !alike (b.get "maxsplit") (.int (-1)) then throw .unsupported
      return .list ((← split (b.get "sep") s).map .markup) none
    | m => callText m s args

/-- Calls a method of a mapping. -/
def callDict (m : DictMethod) (entries : List (Value × Value)) (who : Option Identity) (args : List Value) :
    Except Fault Value :=
  let listed (name : Text) (kind : Listing) : Except Fault Value :=
    if args.isEmpty then .ok (.listing kind entries who) else .error (takesNone name args.length)
  match m with
  | .get =>
    match args with
    | [key] => do
      checkKey key
      return (lookup key entries).getD .null
    | [key, default] => do
      checkKey key
      return (lookup key entries).getD default
    | args => .error (expected "get" 1 2 args.length)
  | .items => listed "dict.items" .items
  | .keys => listed "dict.keys" .keys
  | .values => listed "dict.values" .values

end Stencil.Value
