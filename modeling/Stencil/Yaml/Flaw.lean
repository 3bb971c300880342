import Stencil.Error

/-!
# Flaws of YAML documents

What keeps a document from being read, with its place.  Lines and columns are counted from zero, and shown from one.
-/

namespace Stencil.Yaml

/-- A place in a document. -/
structure Mark where
  line : Nat
  column : Nat
  deriving DecidableEq, Repr, Inhabited

/-- The stage of reading at which a flaw is found. -/
inductive Stage where
  | scanning
  | parsing
  | composing
  | constructing
  deriving DecidableEq, Repr

/-- The name of the kind of error that a stage ends with. -/
def Stage.errorName : Stage → Text
  | scanning => "ScannerError"
  | parsing => "ParserError"
  | composing => "ComposerError"
  | constructing => "ConstructorError"

/-- What keeps a text from being read. -/
inductive Flaw where
  /-- A problem at a place, perhaps while something is read that began at another place. -/
  | marked (stage : Stage) (context : Option (Text × Option Mark)) (problem : Text) (place : Mark)
  /-- A character that no document may hold, and its position. -/
  | forbidden (c : Char) (position : Nat)
  | fault (f : Fault)
  deriving DecidableEq, Repr

namespace Flaw

/-- A place as a line of a message, in a file of a given name. -/
def placeLine (file : Text) (m : Mark) : Text :=
  "  in \"" ++ file ++ "\", line " ++ Text.ofNat (m.line + 1) ++ ", column " ++ Text.ofNat (m.column + 1)

/-- The wording of a flaw of a file; a place is not told twice. -/
def message (file : Text) : Flaw → Text
  | .marked _ context problem place =>
    let around : List Text := match context with
      | none => []
      | some (what, none) => [what]
      | some (what, some m) => what :: (if m = place then [] else [placeLine file m])
    Text.join "\n" (around ++ [problem, placeLine file place])
  | .forbidden c position =>
    "unacceptable character #x" ++ Text.hex 4 c.toNat ++ ": special characters are not allowed\n  in \"" ++ file ++
      "\", position " ++ Text.ofNat position
  | .fault f => f.message

/-- The fault that a flaw of a file is. -/
def toFault (file : Text) (f : Flaw) : Fault :=
  match f with
  | .marked stage .. => .raised stage.errorName (f.message file)
  | .forbidden .. => .raised "ReaderError" (f.message file)
  | .fault f => f

end Flaw
end Stencil.Yaml
