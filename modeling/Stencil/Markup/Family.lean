import Stencil.Markup.Directive
import Stencil.Text.Blank

/-!
# The families of directives

What each directive becomes.  Program text reaches the view as `_view`, the component being rendered as `component`, and
the serialiser as `_rt.to_json`.

The header of a loop is `target in items`: the shortest target and the shortest items such that blanks stand around the
word `in` and only blanks follow.  Leading blanks belong to the header's margin as long as a target is left without them.
-/

namespace Stencil.Markup

/-! ## Loop headers -/

/-- The items behind the word `in`: at least one character, without trailing blanks as far as something is left.
At least one blank must stand before them. -/
def itemsOf? (s : Text) : Option Text :=
  match s.span Text.isBlank with
  | ([], _) => none
  | (_, c :: rest) => some (Text.stripRight (c :: rest))
  | ([_], []) => none
  | (blanks, []) => (blanks.getLast?).map ([·])

/-- What follows blanks, the word `in` and blanks at the head of a text: the items. -/
def behindIn? (s : Text) : Option Text :=
  match s.span Text.isBlank with
  | ([], _) => none
  | (_, 'i' :: 'n' :: rest) => itemsOf? rest
  | _ => none

/-- The shortest target of at least one character before the word `in`, and the items. -/
def targetFrom? : Text → Option (Text × Text)
  | [] => none
  | c :: s =>
    match behindIn? s with
    | some items => some ([c], items)
    | none => (targetFrom? s).map fun (target, items) => (c :: target, items)

/-- The target and the items of a header from which up to `n` leading blanks are dropped, as many as possible. -/
def headerFrom? : Nat → Text → Option (Text × Text)
  | 0, s => targetFrom? s
  | n + 1, s =>
    match targetFrom? (s.drop (n + 1)) with
    | some found => some found
    | none => headerFrom? n s

/-- The target and the items of a loop header. -/
def loopHeader? (s : Text) : Option (Text × Text) := headerFrom? (s.takeWhile Text.isBlank).length s

/-! ## Ways of building directives -/

/-- Kinds of block that `@elseif` and `@else` go on with. -/
def conditionKinds : List Text := ["if", "unless", "auth", "guest", "can", "cannot", "hasComponentSlot"]

/-- A directive that closes a block of a kind. -/
def closer (name kind : Text) : Directive := ⟨name, .bare fun line => [.closeBlock line kind name []]⟩

/-- A directive that opens a block of its own name with a header around its arguments. -/
def opener (name before after : Text) : Directive :=
  ⟨name, .required fun line args => .ok [.openBlock line name (before ++ args ++ after) name []]⟩

/-- A directive that opens a block of its own name with a fixed header. -/
def bareOpener (name header : Text) : Directive := ⟨name, .bare fun line => [.openBlock line name header name []]⟩

/-- A directive that prints a fixed expression as it is. -/
def printer (name expr : Text) : Directive := ⟨name, .bare fun line => [.echo line expr false]⟩

/-- A directive that prints a call with its arguments. -/
def callPrinter (name function : Text) : Directive :=
  ⟨name, .required fun line args => .ok [.echo line (function ++ "(" ++ args ++ ")") false]⟩

/-- A directive that is a call with its arguments. -/
def caller (name function : Text) : Directive :=
  ⟨name, .required fun line args => .ok [.statement line (function ++ "(" ++ args ++ ")")]⟩

/-- A directive that is a fixed statement. -/
def bareStatement (name code : Text) : Directive := ⟨name, .bare fun line => [.statement line code]⟩

/-- Program text that a handler returned, as nodes; blank text adds none. -/
def handledNodes (line : Int) : Option Text → List Node
  | none => []
  | some code => if Text.blank code then [] else [.statement line code]

/-- The failure of a handler: faults of the template pass, all others are failures to expand the directive. -/
def handledFailure (name : Text) : Raised → Raised
  | .compile e => .compile e
  | .scan detail => .ofCause (.expansion name ("ScanError: " ++ detail))
  | .fault f => .ofCause (.expansion name (f.kind ++ ": " ++ f.message))

/-- The directives of a registry. -/
def custom (registry : Registry) : List Directive :=
  registry.directives.map fun (name, handler) =>
    ⟨name, .optional fun line args => ((handler args).mapError (handledFailure name)).map (handledNodes line)⟩

/-- The hidden field against forged requests. -/
def csrf : List Directive := [printer "csrf" "_view.csrf_field()"]

/-- Values as JSON; of the arguments the first two count. -/
def json : List Directive :=
  [⟨"json", .required fun line args =>
    .ok [.echo line ("_rt.to_json(" ++ Text.join ", " ((Argument.arguments (some args)).take 2) ++ ")") false]⟩]

/-- A loop over items, with or without loop data. -/
def loop (name before : Text) (after : Text) (prologue : List Text) : Directive :=
  ⟨name, .required fun line args =>
    match loopHeader? args with
    | none => expansion name "expected 'item in items'"
    | some (target, items) =>
      .ok [.openBlock line name ("for " ++ target ++ " in " ++ before ++ items ++ after) name prologue]⟩

/-- A jump inside a loop, on a condition if one is given. -/
def jump (name : Text) : Directive :=
  ⟨name, .optional fun line args =>
    match args.map Text.strip with
    | none | some [] => .ok [.statement line name]
    | some condition => .ok [.statement line ("if " ++ condition ++ ":\n    " ++ name)]⟩

/-- Conditions and loops. -/
def control : List Directive := [
  opener "if" "if " ":",
  ⟨"elseif", .required fun line args => .ok [.middle line conditionKinds ("elif " ++ args ++ ":") "elseif"]⟩,
  ⟨"else", .bare fun line => [.middle line conditionKinds "else:" "else"]⟩,
  closer "endif" "if",
  opener "unless" "if not (" "):",
  closer "endunless" "unless",
  loop "foreach" "_view.add_loop(" "):" ["loop = _view.last_loop"],
  ⟨"endforeach", .bare fun line =>
    [.closeBlock line "foreach" "endforeach" ["_view.pop_loop()", "loop = _view.last_loop"]]⟩,
  loop "for" [] ":" [],
  closer "endfor" "for",
  opener "while" "while " ":",
  closer "endwhile" "while",
  jump "break",
  jump "continue"]

/-- Blocks for visitors who are or are not logged in. -/
def auth : List Directive := [
  bareOpener "auth" "if _view.check_auth():",
  closer "endauth" "auth",
  bareOpener "guest" "if not _view.check_auth():",
  closer "endguest" "guest"]

/-- The place of a layout's own version of a section. -/
def parent : List Directive := [printer "parent" "_view.parent_section()"]

/-- Blocks for what a visitor may and may not do. -/
def permission : List Directive := [
  opener "can" "if _view.allows(" "):",
  closer "endcan" "can",
  opener "cannot" "if _view.denies(" "):",
  closer "endcannot" "cannot"]

/-- Components and their slots, where they are used. -/
def component : List Directive := [
  caller "component" "_view.start_component",
  printer "endcomponent" "_view.render_component()",
  caller "slot" "_view.slot",
  bareStatement "endslot" "_view.end_slot()"]

/-- Slots inside a component's template. -/
def componentSlot : List Directive := [
  callPrinter "componentSlot" "component.get_slot",
  opener "hasComponentSlot" "if component.has_slot(" "):",
  closer "endHasComponentSlot" "hasComponentSlot"]

/-- Text collected for another place of the page. -/
def push : List Directive := [
  caller "push" "_view.start_push",
  bareStatement "endpush" "_view.end_push()",
  callPrinter "stack" "_view.yield_push"]

end Stencil.Markup
