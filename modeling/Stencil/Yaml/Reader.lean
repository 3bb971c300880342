import Stencil.Value.Access
import Stencil.Yaml.Node
import Stencil.Yaml.Scalar

/-!
# Reading YAML documents

A text that holds one document writes a value, and an empty one nothing.  A mapping may take over the entries of others
by the key `<<`; its own entries win.
-/

namespace Stencil.Yaml

/-- A character may stand in a document. -/
def isAllowed (c : Char) : Bool :=
  c == '\t' || c == '\n' || c == '\r' || (' ' ≤ c && c ≤ '~') || c == '\x85' || ('\xa0' ≤ c && c ≤ '\ufffd') ||
    c.toNat ≥ 0x10000

/-- The first character that may not stand in a document. -/
def checkCharacters (s : Text) : Except Flaw Unit :=
  match s.zipIdx.find? fun (c, _) => !isAllowed c with
  | some (c, n) => .error (.forbidden c n)
  | none => .ok ()

namespace Node

/-- The node is not of the kind that it should be. -/
def refuse {α : Type} (what : Option (Text × Mark)) (wanted : Text) (n : Node) (place : Mark) : Except Flaw α :=
  .error (.marked .constructing (what.map fun (s, m) => (s, some m)) (wanted ++ ", but found " ++ n.kind) place)

/-- What is being made of a mapping. -/
def makingMapping (m : Mark) : Option (Text × Mark) := some ("while constructing a mapping", m)

mutual

/-- The entries that a value under the key `<<` gives, in a mapping at a place. -/
def mergedFrom (place : Mark) : Node → Except Flaw (List (Node × Node))
  | .mapping _ entries m => flatten m entries
  | .sequence _ items _ => mergedFromAll place items
  | n => refuse (makingMapping place) "expected a mapping or list of mappings for merging" n n.place

/-- The entries that several mappings give; those of the first one win. -/
def mergedFromAll (place : Mark) : List Node → Except Flaw (List (Node × Node))
  | [] => .ok []
  | .mapping _ entries m :: rest => do
    let first ← flatten m entries
    return (← mergedFromAll place rest) ++ first
  | n :: _ => refuse (makingMapping place) "expected a mapping for merging" n n.place

/-- The entries of a mapping behind those that it takes over. -/
def flatten (place : Mark) (entries : List (Node × Node)) : Except Flaw (List (Node × Node)) := do
  let (merged, own) ← split place entries
  return merged ++ own

/-- The entries that a mapping takes over, and its own ones. -/
def split (place : Mark) : List (Node × Node) → Except Flaw (List (Node × Node) × List (Node × Node))
  | [] => .ok ([], [])
  | (k, v) :: rest =>
    if k.tag = coreTag "merge" then do
      let more ← mergedFrom place v
      let (merged, own) ← split place rest
      return (more ++ merged, own)
    else do
      let (merged, own) ← split place rest
      return (merged, (k, v) :: own)

end

/-- A key is a text, even if it is a bare equals sign. -/
def asKey : Node → Node
  | .scalar t s m => .scalar (if t = coreTag "value" then coreTag "str" else t) s m
  | n => n

/-- The text of a scalar, or of what a mapping holds under a bare equals sign. -/
def text : Node → Except Flaw Text
  | .scalar _ s _ => .ok s
  | n@(.mapping _ entries m) =>
    match entries.find? fun (k, _) => k.tag = coreTag "value" with
    | some (_, .scalar _ s _) => .ok s
    | _ => refuse none "expected a scalar node" n m
  | n => refuse none "expected a scalar node" n n.place

/-- The only entry of a mapping inside an ordered one. -/
def onlyEntry (what : Option (Text × Mark)) : Node → Except Flaw (Node × Node)
  | .mapping _ [entry] _ => .ok entry
  | .mapping _ entries m =>
    .error (.marked .constructing (what.map fun (s, m) => (s, some m))
      ("expected a single mapping item, but found " ++ Text.ofNat entries.length ++ " items") m)
  | n => refuse what "expected a mapping of length 1" n n.place

/-- The value of a node. -/
def value : Nat → Node → Except Flaw Value
  | 0, _ => .ok .null
  | levels + 1, n =>
    let items : Except Flaw (List Value) :=
      match n with
      | .sequence _ items _ => items.mapM (value levels)
      | n => refuse none "expected a sequence node" n n.place
    let entries : Except Flaw (List (Value × Value)) :=
      match n with
      | .mapping _ entries m => do
        (← flatten m entries).foldlM (fun (bound : List (Value × Value)) (k, v) => do
          let key ← value levels (asKey k)
          if key.changeable?.isSome then
            throw (.marked .constructing (some ("while constructing a mapping", some m)) "found unhashable key" k.place)
          return Value.bind key (← value levels v) bound) []
      | n => refuse none "expected a mapping node" n n.place
    let pairs (what : Text) : Except Flaw (List Value) :=
      match n with
      | .sequence _ items m =>
        items.mapM fun item => do
          let (k, v) ← onlyEntry (some (what, m)) item
          return .tuple [← value levels k, ← value levels v]
      | n => refuse (some (what, n.place)) "expected a sequence" n n.place
    match n with
    | .inside isMapping _ => .ok (.within isMapping ⟨0, []⟩)
    | n =>
      let tag := n.tag
      if tag = coreTag "seq" then items.map (Value.list · none)
      else if tag = coreTag "map" then entries.map (Value.dict · none)
      else if tag = coreTag "set" then entries.map fun es => .set (es.map Prod.fst) none
      else if tag = coreTag "omap" then (pairs "while constructing an ordered map").map (Value.list · none)
      else if tag = coreTag "pairs" then (pairs "while constructing pairs").map (Value.list · none)
      else match scalar? tag [] with
        | some _ => do
          match scalar? tag (← n.text) with
          | some r => r.mapError .fault
          | none => .ok .null
        | none =>
          .error (.marked .constructing none
            ("could not determine a constructor for the tag " ++ Text.quoted tag) n.place)

end Node

/-- The value that a text of a file writes. -/
def read (file s : Text) : Except Fault Value :=
  let result : Except Flaw Value := do
    checkCharacters s
    match ← Node.ofText? s with
    | none => return .null
    | some n => n.value (4 * s.length + 9)
  result.mapError (Flaw.toFault file)

end Stencil.Yaml
