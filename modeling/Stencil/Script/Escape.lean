import Stencil.Text.CharacterName

/-!
# Escapes in literals

The text that the inside of a literal stands for.  A backslash begins an escape: a line break is skipped, a letter or an
octal, hexadecimal or named escape stands for one character, and before any other character the backslash stands for
itself.  In raw literals nothing is an escape.
-/

namespace Stencil.Script

/-- Characters that a backslash and one letter stand for. -/
def letterEscape? : Char → Option Char
  | '\\' => some '\\'
  | '\'' => some '\''
  | '"' => some '"'
  | 'a' => some '\x07'
  | 'b' => some '\x08'
  | 'f' => some '\x0c'
  | 'n' => some '\n'
  | 'r' => some '\r'
  | 't' => some '\t'
  | 'v' => some '\x0b'
  | _ => none

/-- The number of hexadecimal digits behind an escape letter. -/
def hexWidth? : Char → Option Nat
  | 'x' => some 2
  | 'u' => some 4
  | 'U' => some 8
  | _ => none

/-- An octal digit. -/
def isOctal (c : Char) : Bool := '0' ≤ c && c ≤ '7'

/-- The character with a code point, if there is one. -/
def charOf? (n : Nat) : Option Char := if n < 0x110000 ∧ ¬ (0xD800 ≤ n ∧ n < 0xE000) then some (Char.ofNat n) else none

/-- What an escape behind a backslash stands for, and how many characters it takes; `none` if it is malformed. -/
def escape? (c : Char) (s : Text) : Option (Text × Nat) :=
  if c = '\n' then some ([], 1)
  else match letterEscape? c with
    | some d => some ([d], 1)
    | none =>
      if isOctal c then
        let digits := ((c :: s).take 3).takeWhile isOctal
        (charOf? (Text.ofDigits 8 (digits.filterMap Text.digit?))).map fun d => ([d], digits.length)
      else match hexWidth? c with
        | some width =>
          let digits := (s.take width).filterMap Text.hexDigit?
          if digits.length = width then (charOf? (Text.ofDigits 16 digits)).map fun d => ([d], width + 1) else none
        | none =>
          if c = 'N' then
            match s with
            | '{' :: rest =>
              let name := rest.takeWhile (· ≠ '}')
              if name.length < rest.length then (Text.characterNamed? name).map fun d => ([d], name.length + 3)
              else none
            | _ => none
          else some (['\\', c], 1)

/-- The text that the inside of a literal stands for, `skip` characters still belonging to the last escape. -/
def decodeFrom : Nat → Text → Option Text
  | _, [] => some []
  | skip + 1, _ :: s => decodeFrom skip s
  | 0, c :: s =>
    if c = '\\' then
      match s with
      | [] => some ['\\']
      | d :: rest =>
        match escape? d rest with
        | none => none
        | some (text, taken) => (decodeFrom taken (d :: rest)).map (text ++ ·)
    else (decodeFrom 0 s).map (c :: ·)

/-- The text that the inside of a literal stands for; `none` if an escape is malformed. -/
def decode (s : Text) : Option Text := decodeFrom 0 s

end Stencil.Script
