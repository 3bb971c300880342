import Stencil.Table

/-!
# JSON

A JSON document keeps whole numbers and fractions apart, and the members of an object in the order in which their keys
first occur.
-/

namespace Stencil

/-- A JSON document. -/
inductive Json where
  | null
  | bool (b : Bool)
  | int (n : Int)
  | float (x : Float)
  | str (s : Text)
  | arr (items : List Json)
  | obj (members : List (Text × Json))
  deriving Repr, Inhabited

namespace Json

/-- The member of an object under a name. -/
def get? (name : Text) : Json → Option Json
  | obj members => Table.get? name members
  | _ => none

/-- The items of a list; nothing else has items. -/
def items : Json → List Json
  | arr items => items
  | _ => []

/-- The members of an object; nothing else has members. -/
def members : Json → List (Text × Json)
  | obj members => members
  | _ => []

/-- A text. -/
def text? : Json → Option Text
  | str s => some s
  | _ => none

/-- A whole number; truth values count as one and zero. -/
def whole? : Json → Option Int
  | int n => some n
  | bool b => some (if b then 1 else 0)
  | _ => none

/-- A truth value. -/
def truth? : Json → Option Bool
  | bool b => some b
  | _ => none

mutual

/-- A document with every text in it changed; names stay as they are. -/
def mapTexts (f : Text → Text) : Json → Json
  | str s => str (f s)
  | arr items => arr (mapTextsIn f items)
  | obj members => obj (mapMemberTexts f members)
  | j => j

/-- Several documents with every text in them changed. -/
def mapTextsIn (f : Text → Text) : List Json → List Json
  | [] => []
  | j :: js => mapTexts f j :: mapTextsIn f js

/-- The members of an object with every text in them changed. -/
def mapMemberTexts (f : Text → Text) : List (Text × Json) → List (Text × Json)
  | [] => []
  | (k, j) :: ms => (k, mapTexts f j) :: mapMemberTexts f ms

end

end Json
end Stencil
