import Stencil.Text.Html

/-!
# Digests

The SHA-256 digest of a text's UTF-8 bytes, written in hexadecimal.  It names files whose names must not depend on what
characters a template's name has.

The bytes are padded to blocks of sixteen words.  Each block is stretched to a schedule of sixty-four words, which are
mixed one after the other into a state of eight words.
-/

namespace Stencil.Digest

/-- A word of thirty-two bits. -/
abbrev Word := UInt32

/-- The word that each round adds: the first fractional bits of the cube roots of the first sixty-four primes. -/
def roundWords : List Word := [
  0x428a2f98, 0x71374491, 0xb5c0fbcf, 0xe9b5dba5, 0x3956c25b, 0x59f111f1, 0x923f82a4, 0xab1c5ed5,
  0xd807aa98, 0x12835b01, 0x243185be, 0x550c7dc3, 0x72be5d74, 0x80deb1fe, 0x9bdc06a7, 0xc19bf174,
  0xe49b69c1, 0xefbe4786, 0x0fc19dc6, 0x240ca1cc, 0x2de92c6f, 0x4a7484aa, 0x5cb0a9dc, 0x76f988da,
  0x983e5152, 0xa831c66d, 0xb00327c8, 0xbf597fc7, 0xc6e00bf3, 0xd5a79147, 0x06ca6351, 0x14292967,
  0x27b70a85, 0x2e1b2138, 0x4d2c6dfc, 0x53380d13, 0x650a7354, 0x766a0abb, 0x81c2c92e, 0x92722c85,
  0xa2bfe8a1, 0xa81a664b, 0xc24b8b70, 0xc76c51a3, 0xd192e819, 0xd6990624, 0xf40e3585, 0x106aa070,
  0x19a4c116, 0x1e376c08, 0x2748774c, 0x34b0bcb5, 0x391c0cb3, 0x4ed8aa4a, 0x5b9cca4f, 0x682e6ff3,
  0x748f82ee, 0x78a5636f, 0x84c87814, 0x8cc70208, 0x90befffa, 0xa4506ceb, 0xbef9a3f7, 0xc67178f2]

/-- The state of eight words. -/
structure State where
  a : Word
  b : Word
  c : Word
  d : Word
  e : Word
  f : Word
  g : Word
  h : Word
  deriving DecidableEq, Repr

/-- The state before the first block: the first fractional bits of the square roots of the first eight primes. -/
def State.start : State :=
  ⟨0x6a09e667, 0xbb67ae85, 0x3c6ef372, 0xa54ff53a,
    0x510e527f, 0x9b05688c, 0x1f83d9ab, 0x5be0cd19⟩

/-- The words of a state. -/
def State.words (s : State) : List Word := [s.a, s.b, s.c, s.d, s.e, s.f, s.g, s.h]

/-- A word turned to the right. -/
def turn (n : Word) (x : Word) : Word := (x >>> n) ||| (x <<< (32 - n))

/-- One round: a word of the schedule and the round's own word are mixed into the state. -/
def State.mix (s : State) (w k : Word) : State :=
  let choice := (s.e &&& s.f) ^^^ (~~~s.e &&& s.g)
  let majority := (s.a &&& s.b) ^^^ (s.a &&& s.c) ^^^ (s.b &&& s.c)
  let t₁ := s.h + (turn 6 s.e ^^^ turn 11 s.e ^^^ turn 25 s.e) + choice + k + w
  let t₂ := (turn 2 s.a ^^^ turn 13 s.a ^^^ turn 22 s.a) + majority
  ⟨t₁ + t₂, s.a, s.b, s.c, s.d + t₁, s.e, s.f, s.g⟩

/-- The sum of two states, word by word. -/
def State.add (s t : State) : State :=
  ⟨s.a + t.a, s.b + t.b, s.c + t.c, s.d + t.d, s.e + t.e, s.f + t.f, s.g + t.g, s.h + t.h⟩

/-- The word that follows a schedule, which is given latest word first. -/
def nextWord (latest : List Word) : Word :=
  let at_ (n : Nat) : Word := (latest[n - 1]?).getD 0
  let low := turn 7 (at_ 15) ^^^ turn 18 (at_ 15) ^^^ (at_ 15 >>> 3)
  let high := turn 17 (at_ 2) ^^^ turn 19 (at_ 2) ^^^ (at_ 2 >>> 10)
  at_ 16 + low + at_ 7 + high

/-- A schedule, latest word first, made longer by some words. -/
def stretch : Nat → List Word → List Word
  | 0, latest => latest
  | n + 1, latest => stretch n (nextWord latest :: latest)

/-- The schedule of a block. -/
def schedule (block : List Word) : List Word := (stretch 48 block.reverse).reverse

/-- Takes a block into the state. -/
def State.take (s : State) (block : List Word) : State :=
  s.add (((schedule block).zip roundWords).foldl (fun s (w, k) => s.mix w k) s)

/-- A number in `count` bytes, most significant first. -/
def bytesOf (count n : Nat) : List Nat := (List.range count).reverse.map fun i => n / Nat.pow 256 i % 256

/-- The bytes with a final bit, zeros up to a whole number of blocks and their length in bits. -/
def pad (bytes : List Nat) : List Nat :=
  let zeros := (119 - bytes.length % 64) % 64
  bytes ++ 0x80 :: List.replicate zeros 0 ++ bytesOf 8 (8 * bytes.length)

/-- The parts of a list of a given size. -/
def chunks {α : Type} (size : Nat) (xs : List α) : List (List α) :=
  (List.range (xs.length / size)).map fun i => (xs.drop (i * size)).take size

/-- The word that four bytes write, most significant first. -/
def wordOf (bytes : List Nat) : Word := UInt32.ofNat (Text.ofDigits 256 bytes)

/-- The digest of bytes. -/
def digest (bytes : List Nat) : State := (chunks 16 ((chunks 4 (pad bytes)).map wordOf)).foldl State.take State.start

/-- The digest of a text in hexadecimal. -/
def ofText (s : Text) : Text := (digest (s.flatMap Text.utf8)).words.flatMap fun w => Text.hex 8 w.toNat

end Stencil.Digest
