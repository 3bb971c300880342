/-!
# Texts

A text is a list of characters, so that reading it is recursion on data and positions are suffixes.  A string literal
stands for its characters wherever a text is expected.  This module holds the operations every other one needs:
counting line breaks, finding and replacing an inner text, joining, padding.

A class of characters is given by the ascending list of code points at which membership changes, beginning outside the
class.  A code point belongs to it when an odd number of changes lie at or below it.
-/

namespace Stencil

/-- A text: its characters in order. -/
abbrev Text := List Char

instance : Coe String Text := ⟨String.toList⟩

instance : LawfulBEq Text := inferInstance

namespace Text

/-- The number of line breaks in a text. -/
def newlines (s : Text) : Nat := s.count '\n'

/-- What follows a given beginning. -/
def after? : Text → Text → Option Text
  | [], s => some s
  | _ :: _, [] => none
  | p :: ps, c :: s => if p = c then after? ps s else none

/-- What stands before and after the first occurrence of an inner text. -/
def cut? (inner : Text) : Text → Option (Text × Text)
  | [] => (after? inner []).map ([], ·)
  | c :: s =>
    match after? inner (c :: s) with
    | some rest => some ([], rest)
    | none => (cut? inner s).map fun (before, rest) => (c :: before, rest)

/-- An inner text occurs. -/
def contains (inner s : Text) : Bool := (cut? inner s).isSome

/-- Replaces every occurrence of `old`, from the left, without overlap; `skip` characters still belong to the last. -/
def replaceFrom (old new : Text) : Nat → Text → Text
  | _, [] => []
  | skip + 1, _ :: s => replaceFrom old new skip s
  | 0, c :: s =>
    if old.isPrefixOf (c :: s) then new ++ replaceFrom old new (old.length - 1) s
    else c :: replaceFrom old new 0 s

/-- Every occurrence of `old` replaced by `new`; an empty `old` stands before every character and at the end. -/
def replace (old new s : Text) : Text :=
  if old.isEmpty then s.flatMap (fun c => new ++ [c]) ++ new else replaceFrom old new 0 s

/-- The texts with a separator between each two. -/
def join (separator : Text) (parts : List Text) : Text := (parts.intersperse separator).flatten

/-- The parts between single characters. -/
def splitOn (separator : Char) : Text → List Text
  | [] => [[]]
  | c :: s =>
    match splitOn separator s with
    | [] => [[c]]
    | part :: parts => if c = separator then [] :: part :: parts else (c :: part) :: parts

/-- The text padded on the left to a width. -/
def padLeft (width : Nat) (fill : Char) (s : Text) : Text := List.replicate (width - s.length) fill ++ s

/-- The text padded on the right to a width. -/
def padRight (width : Nat) (fill : Char) (s : Text) : Text := s ++ List.replicate (width - s.length) fill

/-- The decimal text of a natural number. -/
def ofNat (n : Nat) : Text := Nat.toDigits 10 n

/-- The decimal text of an integer. -/
def ofInt : Int → Text
  | .ofNat n => ofNat n
  | .negSucc n => '-' :: ofNat (n + 1)

/-- The value of an ASCII digit. -/
def digit? (c : Char) : Option Nat := if '0' ≤ c ∧ c ≤ '9' then some (c.toNat - '0'.toNat) else none

/-- The value of a hexadecimal digit in either case. -/
def hexDigit? (c : Char) : Option Nat :=
  if '0' ≤ c ∧ c ≤ '9' then some (c.toNat - '0'.toNat)
  else if 'a' ≤ c ∧ c ≤ 'f' then some (c.toNat - 'a'.toNat + 10)
  else if 'A' ≤ c ∧ c ≤ 'F' then some (c.toNat - 'A'.toNat + 10)
  else none

/-- The number that digits of a base write, most significant first. -/
def ofDigits (base : Nat) (digits : List Nat) : Nat := digits.foldl (fun n d => n * base + d) 0

/-- The order of texts by code point. -/
def le (s t : Text) : Bool := !decide (t < s)

/-! ## Character tables -/

/-- Membership of a code point in the class that a list of changes describes. -/
def inFlips : List Nat → Nat → Bool
  | [], _ => false
  | [first], n => first ≤ n
  | first :: next :: flips, n => if n < first then false else if n < next then true else inFlips flips n

end Text
end Stencil
