import Stencil.Argument.Split
import Stencil.Registry

/-!
# Filter pipelines

`value | first | second(args)` wraps the value's expression in the filters from left to right.  A segment is a name,
alone or followed by one group in parentheses.

Before an interpolation is cut at its filters, every literal in it is replaced by a token and remembered.  Each part
gets its literals back afterwards.  A literal runs from a quote to the next one of its kind that no backslash escapes;
when the only ones left are escaped, the last of them closes it after all.  A quote with none after it is plain text.
-/

namespace Stencil.Filter

/-! ## Protected literals -/

/-- The token that stands for the `n`-th literal. -/
def token (n : Nat) : Text := "__vellum_lit_" ++ Text.ofNat n ++ "__"

/-- Behind an opening quote: the rest of the literal with its closing quote, and the text after it. -/
def literalEnd? (quote : Char) : Text → Option (Text × Text)
  | [] => none
  | '\\' :: d :: s =>
    if quote ∈ s then (literalEnd? quote s).map fun (body, rest) => ('\\' :: d :: body, rest)
    else if d = quote then some (['\\', d], s)
    else none
  | c :: s =>
    if c = quote then some ([c], s) else (literalEnd? quote s).map fun (body, rest) => (c :: body, rest)

/-- Protects a text, with `skip` characters left of the literal replaced last and `n` the number of the next one. -/
def protectFrom (n : Nat) : Nat → Text → Text × List (Text × Text)
  | _, [] => ([], [])
  | skip + 1, _ :: s => protectFrom n skip s
  | 0, c :: s =>
    match if Argument.isQuote c then literalEnd? c s else none with
    | some (body, _) =>
      let (text, literals) := protectFrom (n + 1) body.length s
      (token n ++ text, (token n, c :: body) :: literals)
    | none =>
      let (text, literals) := protectFrom n 0 s
      (c :: text, literals)

/-- The text with its literals replaced by tokens, and the literal that each token stands for. -/
def protectLiterals (s : Text) : Text × List (Text × Text) := protectFrom 0 0 s

/-- Puts literals back, one token after the other. -/
def restore (literals : List (Text × Text)) (s : Text) : Text :=
  literals.foldl (fun s (token, literal) => Text.replace token literal s) s

/-- The value and the filter segments of an interpolation, stripped, with their literals. -/
def segments (s : Text) : List Text :=
  let (text, literals) := protectLiterals s
  (Argument.split '|' text).map fun part => Text.strip (restore literals part)

/-! ## Segments -/

/-- The name and the argument text of a filter segment. -/
def segment? (s : Text) : Option (Text × Option Text) :=
  match s with
  | [] => none
  | c :: rest =>
    if Text.isNameStart c then
      let name := c :: rest.takeWhile Text.isWord
      match (rest.dropWhile Text.isWord).dropWhile Text.isBlank with
      | [] => some (name, none)
      | '(' :: group => if group.getLast? = some ')' then some (name, some group.dropLast) else none
      | _ => none
    else none

/-- Argument text without surrounding blanks; blank text is none. -/
def argument? (args : Option Text) : Option Text :=
  match args.map Text.strip with
  | none | some [] => none
  | some s => some s

/-- Applies one segment of an interpolation to an expression. -/
def apply (registry : Registry) (whole value segment : Text) : Except Raised (Text × Bool) :=
  match segment? segment with
  | none => .error (.compile { cause := .malformedFilter segment, excerpt := some whole })
  | some (name, args) =>
    match registry.filters.get? name with
    | none => .error (.compile { cause := .unknownFilter name, excerpt := some whole })
    | some filter => (filter.handler value (argument? args)).map (·, filter.safe)

/-- Applies segments from left to right; the last one decides whether the result is safe. -/
def applyAll (registry : Registry) (whole : Text) : Text × Bool → List Text → Except Raised (Text × Bool)
  | result, [] => .ok result
  | (value, _), segment :: more => do applyAll registry whole (← apply registry whole value segment) more

/-- The expression of an interpolation and whether its result is safe. -/
def pipeline (registry : Registry) (s : Text) : Except Raised (Text × Bool) :=
  match segments s with
  | [] | [] :: _ => .error (.compile { cause := .emptyEcho, excerpt := some s })
  | value :: filters => applyAll registry s (value, false) filters

end Stencil.Filter
