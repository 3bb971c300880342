import Stencil.Text.Basic
import Stencil.Text.CharacterName.Alphabets
import Stencil.Text.CharacterName.Ancient
import Stencil.Text.CharacterName.EastAsian
import Stencil.Text.CharacterName.Hieroglyphs
import Stencil.Text.CharacterName.Other
import Stencil.Text.CharacterName.Pictures
import Stencil.Text.CharacterName.Syllables
import Stencil.Text.CharacterName.Symbols

/-!
# Character names

The names of Unicode (version 14).  Most are listed; the names of the ideographs are made of their code points, and those
of the Korean syllables of their sounds.  Case does not matter in names that are listed.
-/

namespace Stencil.Text.CharacterName

/-! ## Listed names -/

/-- The value of a digit, of which the letters from `a` on stand for ten and more. -/
def digitOf (c : Char) : Nat := if c ≤ '9' then c.toNat - '0'.toNat else c.toNat - 'a'.toNat + 10

/-- The number that hexadecimal digits write. -/
def ofHex (s : Text) : Nat := Text.ofDigits 16 (s.filterMap Text.hexDigit?)

/-- A code point in at least four hexadecimal digits. -/
def codeText (n : Nat) : Text := padLeft 4 '0' ((Nat.toDigits 16 n).map Char.toUpper)

/-- How far a list of names has been read: the words of the last name, and the next code point. -/
structure Reader where
  words : List String := []
  code : Nat := 0

/-- The first of several code points at the end of a name that begins as given. -/
def endsInCode? (stem name : Text) (code : Nat) : Nat → Option Nat
  | 0 => none
  | count + 1 => if stem ++ codeText code = name then some code else endsInCode? stem name (code + 1) count

/-- Reads an entry; the code point of a name, given as words, if it is found there. -/
def readEntry (name : List String) (r : Reader) (entry : String) : Option Nat × Reader :=
  match entry.toList with
  | '@' :: code => (none, { r with code := ofHex code })
  | '=' :: count =>
    let count := Text.ofDigits 10 (count.map digitOf)
    let last := (r.words.getLast?.getD "").toList
    let stem := last.take (last.length - (codeText (r.code - 1)).length)
    let found := if r.words.dropLast = name.dropLast then
      endsInCode? stem (name.getLast?.getD "").toList r.code count else none
    let word := String.ofList (stem ++ codeText (r.code + count - 1))
    (found, ⟨r.words.dropLast ++ [word], r.code + count⟩)
  | shared :: rest =>
    let words := r.words.take (digitOf shared) ++ (String.ofList rest).splitOn " "
    (if words = name then some r.code else none, ⟨words, r.code + 1⟩)
  | [] => (none, r)

/-- The code point of a name, given as words, among entries. -/
def findEntry? (name : List String) : Reader → List String → Option Nat
  | _, [] => none
  | r, entry :: entries =>
    match readEntry name r entry with
    | (some code, _) => some code
    | (none, r) => findEntry? name r entries

/-- All lists of names. -/
def listed : List (List String) := [alphabets, syllables, symbols, eastAsian, ancient, hieroglyphs, pictures]

/-- The code point of a listed name. -/
def listed? (name : String) : Option Nat :=
  listed.findSome? fun rows => findEntry? (name.splitOn " ") {} (rows.flatMap (·.splitOn ";"))

/-- The code point of a character under another name. -/
def other? (name : Text) : Option Nat :=
  (otherNames.flatMap (·.splitOn ";")).findSome? fun entry =>
    let (code, names) := entry.toList.span (· != ' ')
    if name ∈ splitOn ',' (names.drop 1) then some (ofHex code) else none

/-! ## Ideographs -/

/-- The first and the last code point of each block of ideographs. -/
def ideographs : List (Nat × Nat) := [
  (0x3400, 0x4DBF), (0x4E00, 0x9FFF), (0x20000, 0x2A6DF), (0x2A700, 0x2B738), (0x2B740, 0x2B81D), (0x2B820, 0x2CEA1),
  (0x2CEB0, 0x2EBE0), (0x30000, 0x3134A)]

/-- The ideograph whose code point is written in four or five digits. -/
def ideograph? (digits : Text) : Option Nat :=
  let n := ofHex digits
  let wellFormed := (digits.length == 4 || digits.length == 5) &&
    digits.all fun c => (Text.hexDigit? c).isSome && !('a' ≤ c && c ≤ 'f')
  if wellFormed && ideographs.any (fun (first, last) => first ≤ n && n ≤ last) then some n else none

/-! ## Korean syllables -/

/-- The sounds that begin a syllable. -/
def initials : List Text := [
  "G", "GG", "N", "D", "DD", "R", "M", "B", "BB", "S", "SS", [], "J", "JJ", "C", "K", "T", "P", "H"]

/-- The sounds in the middle of a syllable. -/
def medials : List Text := [
  "A", "AE", "YA", "YAE", "EO", "E", "YEO", "YE", "O", "WA", "WAE", "OE", "YO", "U", "WEO", "WE", "WI", "YU", "EU", "YI",
  "I"]

/-- The sounds that end a syllable. -/
def finals : List Text := [
  [], "G", "GG", "GS", "N", "NJ", "NH", "D", "L", "LG", "LM", "LB", "LS", "LT", "LP", "LH", "M", "B", "BS", "S", "SS",
  "NG", "J", "C", "K", "T", "P", "H"]

/-- The number of the longest sound at the head of a text, and the rest. -/
def soundOf? (sounds : List Text) (s : Text) : Option (Nat × Text) :=
  sounds.zipIdx.foldl (fun best (sound, n) =>
    match after? sound s, best with
    | some rest, none => some (n, rest)
    | some rest, some (_, left) => if rest.length < left.length then some (n, rest) else best
    | none, best => best) none

/-- The syllable that sounds write. -/
def syllable? (s : Text) : Option Nat := do
  let (first, s) ← soundOf? initials s
  let (middle, s) ← soundOf? medials s
  let (last, s) ← soundOf? finals s
  if s.isEmpty then some (0xAC00 + (first * medials.length + middle) * finals.length + last) else none

end CharacterName

/-- The character with a name. -/
def characterNamed? (name : Text) : Option Char :=
  let capital := name.map Char.toUpper
  let code : Option Nat :=
    match after? "HANGUL SYLLABLE " name, after? "CJK UNIFIED IDEOGRAPH-" name with
    | some sounds, _ => CharacterName.syllable? sounds
    | _, some digits => CharacterName.ideograph? digits
    | none, none => CharacterName.listed? (String.ofList capital) <|> CharacterName.other? capital
  code.map Char.ofNat

end Stencil.Text
