import Stencil.Text.Basic
import Stencil.Text.Normal.Compatible
import Stencil.Text.Normal.Composed

/-!
# Normal forms of names

Names that look alike are the same name: characters are replaced by the ones that they stand for, marks are put in their
order, and letters are joined with their marks (Unicode's normal form KC).
-/

namespace Stencil.Text

namespace Normal

/-- The number that hexadecimal digits write. -/
def ofHex (s : Text) : Nat := Text.ofDigits 16 (s.filterMap Text.hexDigit?)

/-- The entries of rows, each in its parts. -/
def entries (rows : List String) : List (List Text) :=
  rows.flatMap fun row => (row.splitOn ";").map fun entry => splitOn ' ' entry.toList

/-- First and last code points of characters, and what the first one stands for. -/
def replacements : List (Nat × Nat × List Nat) :=
  (entries compatible).filterMap fun
    | head :: codes =>
      let (first, more) := head.span (· != '+')
      some (ofHex first, ofHex first + ofHex more, codes.map ofHex)
    | [] => none

/-- Characters that a letter and a mark make. -/
def pairs : List (Nat × Nat × Nat) :=
  (entries composed).filterMap fun
    | [c, letter, mark] => some (ofHex c, ofHex letter, ofHex mark)
    | _ => none

/-- First and last code points of marks, and their class. -/
def classes : List (Nat × Nat × Nat) :=
  (entries marks).filterMap fun
    | [first, last, n] => some (ofHex first, ofHex last, Text.ofDigits 10 (n.filterMap Text.digit?))
    | _ => none

/-- The code points that a character stands for. -/
def replacement (c : Nat) : List Nat :=
  match replacements.find? fun (first, last, _) => first ≤ c && c ≤ last with
  | some (first, _, [code]) => [code + (c - first)]
  | some (_, _, codes) => codes
  | none => [c]

/-! ## Korean syllables -/

/-- The first syllable, and the numbers of sounds in the middle and at the end. -/
def firstSyllable : Nat := 0xAC00

/-- The number of sounds in the middle of a syllable. -/
def medialCount : Nat := 21

/-- The number of sounds at the end of a syllable, none among them. -/
def finalCount : Nat := 28

/-- The sounds of a syllable. -/
def sounds? (c : Nat) : Option (List Nat) :=
  if firstSyllable ≤ c && c < firstSyllable + 19 * medialCount * finalCount then
    let n := c - firstSyllable
    let last := n % finalCount
    some ([0x1100 + n / finalCount / medialCount, 0x1161 + n / finalCount % medialCount] ++
      if last = 0 then [] else [0x11A7 + last])
  else none

/-- The syllable that two sounds, or a syllable and a sound, make. -/
def syllable? (a b : Nat) : Option Nat :=
  if 0x1100 ≤ a && a < 0x1113 && 0x1161 ≤ b && b < 0x1161 + medialCount then
    some (firstSyllable + ((a - 0x1100) * medialCount + (b - 0x1161)) * finalCount)
  else if firstSyllable ≤ a && a < firstSyllable + 19 * medialCount * finalCount &&
      (a - firstSyllable) % finalCount == 0 && 0x11A7 < b && b < 0x11A7 + finalCount then
    some (a + (b - 0x11A7))
  else none

/-! ## The normal form -/

/-- A character taken apart into letter and marks, which may have to be done several times. -/
def apart : Nat → Nat → List Nat
  | 0, c => [c]
  | rounds + 1, c =>
    match sounds? c with
    | some codes => codes
    | none =>
      match pairs.find? fun (made, _, _) => made == c with
      | some (_, letter, mark) => apart rounds letter ++ [mark]
      | none => [c]

/-- The class of a mark; zero for any other character. -/
def markClass (c : Nat) : Nat :=
  ((classes.find? fun (first, last, _) => first ≤ c && c ≤ last).map fun (_, _, n) => n).getD 0

/-- Puts a character before the marks of a higher class at the head of a list. -/
def insertMark (c : Nat × Nat) : List (Nat × Nat) → List (Nat × Nat)
  | [] => [c]
  | d :: ds => if c.2 ≠ 0 ∧ d.2 ≠ 0 ∧ d.2 < c.2 then d :: insertMark c ds else c :: d :: ds

/-- Marks in their order. -/
def inOrder (cs : List (Nat × Nat)) : List (Nat × Nat) := cs.foldr insertMark []

/-- The character that two make. -/
def join? (a b : Nat) : Option Nat :=
  syllable? a b <|> (pairs.find? fun (_, letter, mark) => letter == a && mark == b).map Prod.fst

/-- Joins characters to the last letter; `between` are the ones behind it that have not been joined, last first. -/
def joinFrom (letter : Nat) (between : List (Nat × Nat)) : List (Nat × Nat) → List Nat
  | [] => letter :: (between.reverse.map Prod.fst)
  | c :: cs =>
    let blocked := match between with
      | [] => false
      | d :: _ => d.2 == 0 || d.2 ≥ c.2
    match if blocked then none else join? letter c.1 with
    | some made => joinFrom made between cs
    | none =>
      if c.2 = 0 then letter :: (between.reverse.map Prod.fst) ++ joinFrom c.1 [] cs
      else joinFrom letter (c :: between) cs

/-- Letters joined with their marks. -/
def joined : List (Nat × Nat) → List Nat
  | [] => []
  | c :: cs => if c.2 = 0 then joinFrom c.1 [] cs else c.1 :: joined cs

end Normal

/-- The normal form of a name. -/
def normalName (s : Text) : Text :=
  if s.all fun c => c.toNat < 128 then s
  else
    let codes := (s.flatMap fun c => Normal.replacement c.toNat).flatMap (Normal.apart 4)
    (Normal.joined (Normal.inOrder (codes.map fun c => (c, Normal.markClass c)))).map Char.ofNat

end Stencil.Text
