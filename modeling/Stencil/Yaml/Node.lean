import Stencil.Table
import Stencil.Yaml.Tag
import Stencil.Yaml.Token.Next

/-!
# Nodes of YAML documents

A document is a scalar, a sequence or a mapping of nodes, each with its tag and the place where it begins.  A name that
is given to a node by an anchor stands for the node wherever an alias names it.
-/

namespace Stencil.Yaml

/-- A part of a document. -/
inductive Node where
  | scalar (tag s : Text) (place : Mark)
  | sequence (tag : Text) (items : List Node) (place : Mark)
  | mapping (tag : Text) (entries : List (Node × Node)) (place : Mark)
  /-- An alias inside the sequence or mapping that it names. -/
  | inside (isMapping : Bool) (place : Mark)
  deriving Inhabited

namespace Node

/-- Where a node begins. -/
def place : Node → Mark
  | scalar _ _ m | sequence _ _ m | mapping _ _ m | inside _ m => m

/-- What kind of node it is. -/
def kind : Node → Text
  | scalar .. => "scalar"
  | sequence .. | inside false _ => "sequence"
  | mapping .. | inside true _ => "mapping"

/-- The tag of a node. -/
def tag : Node → Text
  | scalar t .. | sequence t .. | mapping t .. => t
  | inside isMapping _ => coreTag (if isMapping then "map" else "seq")

end Node

/-- What is known while the nodes of a document are read: what handles of tags stand for, and the nodes with a name. -/
structure Names where
  handles : Table Text := []
  anchors : Table Node := []

/-- A step of reading nodes. -/
abbrev Compose := StateT Names Scan

namespace Compose

/-- A step of scanning. -/
def scan {α : Type} (act : Scan α) : Compose α := StateT.lift act

/-- Takes the next token. -/
def take : Compose Token := scan Scan.takeToken

/-- The next token. -/
def next : Compose Token := scan Scan.peekToken

/-- Fails while something is read that began at a place. -/
def fail {α : Type} (what : Text) (start : Mark) (problem : Text) (place : Mark) : Compose α :=
  scan (throw (.marked .parsing (some (what, some start)) problem place))

/-- Fails at a place. -/
def failAt {α : Type} (stage : Stage) (problem : Text) (place : Mark) : Compose α :=
  scan (throw (.marked stage none problem place))

/-- Fails because of the next token. -/
def unexpected {α : Type} (what : Text) (start : Mark) (wanted verb : Text) : Compose α := do
  let t ← next
  fail what start ("expected " ++ wanted ++ ", but " ++ verb ++ " " ++ Text.quoted t.lexeme.name) t.start

/-- A scalar that is left out. -/
def missing (place : Mark) : Node := .scalar (coreTag "null") [] place

/-! ## Properties -/

/-- The properties of a node: its anchor, its tag, and where they begin and end. -/
structure Properties where
  anchor : Option Text := none
  tag : Option Text := none
  place : Option Mark := none

/-- What a tag is if its handle is written out. -/
def fullTag (handle : Option Text) (suffix : Text) (start place : Mark) : Compose Text := do
  match handle with
  | none => return suffix
  | some h =>
    match (← get).handles.get? h with
    | some head => return head ++ suffix
    | none => fail "while parsing a node" start ("found undefined tag handle " ++ Text.quoted h) place

/-- The properties in front of a node: an anchor, a tag or both, in either order. -/
def properties : Compose Properties := do
  let t ← next
  match t.lexeme with
  | .anchor name =>
    let _ ← take
    let u ← next
    match u.lexeme with
    | .tag handle suffix =>
      let _ ← take
      return { anchor := some name, tag := some (← fullTag handle suffix t.start u.start), place := some t.start }
    | _ => return { anchor := some name, place := some t.start }
  | .tag handle suffix =>
    let _ ← take
    let u ← next
    match u.lexeme with
    | .anchor name =>
      let _ ← take
      return { anchor := some name, tag := some (← fullTag handle suffix t.start t.start), place := some t.start }
    | _ => return { tag := some (← fullTag handle suffix t.start t.start), place := some t.start }
  | _ => return {}

/-- The tag of a node that has none of its own, or a bare exclamation mark. -/
def tagOr (default : Text) (p : Properties) : Text := (p.tag.filter (· != ['!'])).getD default

/-- Gives a node its name; a name may be given once. -/
def name (p : Properties) (n : Node) : Compose Unit := do
  match p.anchor with
  | none => return
  | some a =>
    match (← get).anchors.get? a with
    | some first =>
      scan (throw (.marked .composing
        (some ("found duplicate anchor " ++ Text.quoted a ++ "; first occurrence", some first.place))
        "second occurrence" n.place))
    | none => modify fun s => { s with anchors := s.anchors.put a n }

/-- A node with a name is complete. -/
def complete (p : Properties) (n : Node) : Compose Node := do
  match p.anchor with
  | none => return n
  | some a =>
    modify fun s => { s with anchors := s.anchors.put a n }
    return n

/-- The tag of a scalar. -/
def scalarTag (p : Properties) (style : Style) (s : Text) : Text :=
  match p.tag with
  | some ['!'] => tagOf s
  | some t => t
  | none => if style == .plain then tagOf s else coreTag "str"

/-! ## Nodes -/

mutual

/-- A node; `blocks` may begin here, or items at the indentation of the mapping around (`loose`). -/
def node (blocks loose : Bool) : Nat → Compose Node
  | 0 => return default
  | rounds + 1 => do
    let t ← next
    if let .alias a := t.lexeme then
      let _ ← take
      match (← get).anchors.get? a with
      | some n => return n
      | none => failAt .composing ("found undefined alias " ++ Text.quoted a) t.start
    let p ← properties
    let t ← next
    let start := p.place.getD t.start
    let sequenceOf (items : Compose (List Node)) : Compose Node := do
      name p (.inside false start)
      complete p (.sequence (tagOr (coreTag "seq") p) (← items) start)
    let mappingOf (entries : Compose (List (Node × Node))) : Compose Node := do
      name p (.inside true start)
      complete p (.mapping (tagOr (coreTag "map") p) (← entries) start)
    match t.lexeme with
    | .scalar style s =>
      let _ ← take
      let n := Node.scalar (scalarTag p style s) s start
      name p n
      return n
    | .flowSequence => sequenceOf do
      let _ ← take
      flowItems t.start true rounds
    | .flowMapping => mappingOf do
      let _ ← take
      flowEntries t.start true rounds
    | .blockEntry =>
      if loose then sequenceOf (looseItems rounds) else other p blocks start t
    | .blockSequence =>
      if !blocks then other p blocks start t
      else sequenceOf do
        let _ ← take
        items t.start rounds
    | .blockMapping =>
      if !blocks then other p blocks start t
      else mappingOf do
        let _ ← take
        entries t.start rounds
    | _ => other p blocks start t

/-- A node without content: it must have properties. -/
def other (p : Properties) (blocks : Bool) (start : Mark) (t : Token) : Compose Node := do
  if p.place.isNone then
    fail ("while parsing a " ++ (if blocks then "block" else "flow" : Text) ++ " node") start
      ("expected the node content, but found " ++ Text.quoted t.lexeme.name) t.start
  let n := Node.scalar (match p.tag with
    | none | some ['!'] => coreTag "null"
    | some tag => tag) [] start
  name p n
  return n

/-- The items of a block. -/
def items (start : Mark) : Nat → Compose (List Node)
  | 0 => return []
  | rounds + 1 => do
    match (← next).lexeme with
    | .blockEntry =>
      let t ← take
      let n ← match (← next).lexeme with
        | .blockEntry | .blockEnd => pure (missing t.stop)
        | _ => node true false rounds
      return n :: (← items start rounds)
    | .blockEnd =>
      let _ ← take
      return []
    | _ => unexpected "while parsing a block collection" start "<block end>" "found"

/-- Items at the indentation of the mapping around them. -/
def looseItems : Nat → Compose (List Node)
  | 0 => return []
  | rounds + 1 => do
    match (← next).lexeme with
    | .blockEntry =>
      let t ← take
      let n ← match (← next).lexeme with
        | .blockEntry | .key | .value | .blockEnd => pure (missing t.stop)
        | _ => node true false rounds
      return n :: (← looseItems rounds)
    | _ => return []

/-- The entries of a block. -/
def entries (start : Mark) : Nat → Compose (List (Node × Node))
  | 0 => return []
  | rounds + 1 => do
    match (← next).lexeme with
    | .key =>
      let t ← take
      let k ← match (← next).lexeme with
        | .key | .value | .blockEnd => pure (missing t.stop)
        | _ => node true true rounds
      let v ← entryValue rounds
      return (k, v) :: (← entries start rounds)
    | .blockEnd =>
      let _ ← take
      return []
    | _ => unexpected "while parsing a block mapping" start "<block end>" "found"

/-- The value of an entry of a block. -/
def entryValue : Nat → Compose Node
  | 0 => return default
  | rounds + 1 => do
    match (← next).lexeme with
    | .value =>
      let t ← take
      match (← next).lexeme with
      | .key | .value | .blockEnd => return missing t.stop
      | _ => node true true rounds
    | _ => return missing (← next).start

/-- The items between brackets. -/
def flowItems (start : Mark) (first : Bool) : Nat → Compose (List Node)
  | 0 => return []
  | rounds + 1 => do
    if (← next).lexeme != .flowSequenceEnd then
      if !first then
        if (← next).lexeme == .flowEntry then let _ ← take
        else unexpected "while parsing a flow sequence" start "',' or ']'" "got"
      match (← next).lexeme with
      | .key =>
        let t ← take
        let k ← match (← next).lexeme with
          | .value | .flowEntry | .flowSequenceEnd => pure (missing t.stop)
          | _ => node false false rounds
        let v ← flowValue (· == .flowSequenceEnd) rounds
        return .mapping (coreTag "map") [(k, v)] t.start :: (← flowItems start false rounds)
      | .flowSequenceEnd =>
        let _ ← take
        return []
      | _ =>
        let n ← node false false rounds
        return n :: (← flowItems start false rounds)
    let _ ← take
    return []

/-- The value of an entry between brackets. -/
def flowValue (closes : Lexeme → Bool) : Nat → Compose Node
  | 0 => return default
  | rounds + 1 => do
    match (← next).lexeme with
    | .value =>
      let t ← take
      let l := (← next).lexeme
      if l == .flowEntry || closes l then return missing t.stop else node false false rounds
    | _ => return missing (← next).start

/-- The entries between braces. -/
def flowEntries (start : Mark) (first : Bool) : Nat → Compose (List (Node × Node))
  | 0 => return []
  | rounds + 1 => do
    if (← next).lexeme != .flowMappingEnd then
      if !first then
        if (← next).lexeme == .flowEntry then let _ ← take
        else unexpected "while parsing a flow mapping" start "',' or '\x7d'" "got"
      match (← next).lexeme with
      | .key =>
        let t ← take
        let k ← match (← next).lexeme with
          | .value | .flowEntry | .flowMappingEnd => pure (missing t.stop)
          | _ => node false false rounds
        let v ← flowValue (· == .flowMappingEnd) rounds
        return (k, v) :: (← flowEntries start false rounds)
      | .flowMappingEnd =>
        let _ ← take
        return []
      | _ =>
        let k ← node false false rounds
        let v := missing (← next).start
        return (k, v) :: (← flowEntries start false rounds)
    let _ ← take
    return []

end

/-! ## Documents -/

/-- What handles stand for unless a document says otherwise. -/
def standardHandles : Table Text := [("!", ['!']), ("!!", coreTag [])]

/-- Takes a directive into account; `versioned` says that there was a version before. -/
def direct (versioned : Bool) (t : Token) : Compose Bool := do
  match t.lexeme with
  | .version major =>
    if versioned then failAt .parsing "found duplicate YAML directive" t.start
    if major != 1 then failAt .parsing "found incompatible YAML document (version 1.* is required)" t.start
    return true
  | .handle h value =>
    if (← get).handles.has h then failAt .parsing ("duplicate tag handle " ++ Text.quoted h) t.start
    modify fun s => { s with handles := s.handles.put h value }
    return versioned
  | _ => return versioned

/-- Takes the directives in front of a document into account. -/
def directives (versioned : Bool) : Nat → Compose Unit
  | 0 => return
  | rounds + 1 => do
    if (← next).lexeme.isDirective then directives (← direct versioned (← take)) rounds

/-- The directives in front of a document and the mark with which it begins. -/
def header (rounds : Nat) : Compose Unit := do
  modify fun s => { s with handles := [] }
  directives false rounds
  modify fun s => { s with
    handles := s.handles ++ standardHandles.filter fun (h, _) => !s.handles.has h }
  let t ← next
  if t.lexeme != .documentStart then
    failAt .parsing ("expected '<document start>', but found " ++ Text.quoted t.lexeme.name) t.start
  let _ ← take

/-- Skips marks with which documents end. -/
def skipEnds : Nat → Compose Unit
  | 0 => return
  | rounds + 1 => do
    if (← next).lexeme == .documentEnd then
      let _ ← take
      skipEnds rounds

/-- What an explicit document holds, which may be nothing. -/
def content (rounds : Nat) : Compose Node := do
  let t ← next
  if t.lexeme.isDirective then return missing t.start
  match t.lexeme with
  | .documentStart | .documentEnd | .streamEnd => return missing t.start
  | _ => node true false rounds

/-- The node of the first document, if there is one. -/
def firstDocument (rounds : Nat) : Compose (Option Node) := do
  let t ← next
  if t.lexeme.isDirective || t.lexeme == .documentStart then
    header rounds
    return some (← content rounds)
  if t.lexeme == .streamEnd then return none
  modify fun s => { s with handles := standardHandles }
  return some (← node true false rounds)

/-- The node of a text that may hold one document. -/
def single (rounds : Nat) : Compose (Option Node) := do
  match ← firstDocument rounds with
  | none => return none
  | some n =>
    skipEnds rounds
    let t ← next
    if t.lexeme == .streamEnd then return some n
    header rounds
    scan (throw (.marked .composing (some ("expected a single document in the stream", some n.place))
      "but found another document" t.start))

end Compose

/-- The node of the only document of a text; nothing if there is none. -/
def Node.ofText? (s : Text) : Except Flaw (Option Node) := do
  let rounds := 4 * s.length + 8
  let ((n, _), _) ← ((Compose.single rounds).run {}).run { cursor := ⟨s, 0, ⟨0, 0⟩⟩ }
  return n

end Stencil.Yaml
