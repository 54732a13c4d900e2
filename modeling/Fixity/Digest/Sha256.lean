/-
This file defines the SHA-256 digest twice: of a whole message, by padding it and
taking its blocks in turn, and of a message that arrives in parts, by keeping the
chaining state and the bytes that do not fill a block yet.
-/

import Fixity.Text.Hex

namespace Fixity.Sha256

/-! ### Words -/

/-- Rotation to the right. -/
def rotate (w : UInt32) (n : UInt32) : UInt32 :=
  (w >>> n) ||| (w <<< (32 - n))

def bigSigma0 (w : UInt32) : UInt32 := rotate w 2 ^^^ rotate w 13 ^^^ rotate w 22
def bigSigma1 (w : UInt32) : UInt32 := rotate w 6 ^^^ rotate w 11 ^^^ rotate w 25
def smallSigma0 (w : UInt32) : UInt32 := rotate w 7 ^^^ rotate w 18 ^^^ (w >>> 3)
def smallSigma1 (w : UInt32) : UInt32 := rotate w 17 ^^^ rotate w 19 ^^^ (w >>> 10)

/-- The bits of the second word where the first is set, of the third elsewhere. -/
def choose (e f g : UInt32) : UInt32 := (e &&& f) ^^^ (~~~e &&& g)

/-- The bits that at least two of three words have. -/
def majority (a b c : UInt32) : UInt32 := (a &&& b) ^^^ (a &&& c) ^^^ (b &&& c)

/-- The fractional parts of the cube roots of the first sixty-four primes. -/
def roundConstants : List UInt32 :=
  [0x428a2f98, 0x71374491, 0xb5c0fbcf, 0xe9b5dba5, 0x3956c25b, 0x59f111f1, 0x923f82a4, 0xab1c5ed5,
   0xd807aa98, 0x12835b01, 0x243185be, 0x550c7dc3, 0x72be5d74, 0x80deb1fe, 0x9bdc06a7, 0xc19bf174,
   0xe49b69c1, 0xefbe4786, 0x0fc19dc6, 0x240ca1cc, 0x2de92c6f, 0x4a7484aa, 0x5cb0a9dc, 0x76f988da,
   0x983e5152, 0xa831c66d, 0xb00327c8, 0xbf597fc7, 0xc6e00bf3, 0xd5a79147, 0x06ca6351, 0x14292967,
   0x27b70a85, 0x2e1b2138, 0x4d2c6dfc, 0x53380d13, 0x650a7354, 0x766a0abb, 0x81c2c92e, 0x92722c85,
   0xa2bfe8a1, 0xa81a664b, 0xc24b8b70, 0xc76c51a3, 0xd192e819, 0xd6990624, 0xf40e3585, 0x106aa070,
   0x19a4c116, 0x1e376c08, 0x2748774c, 0x34b0bcb5, 0x391c0cb3, 0x4ed8aa4a, 0x5b9cca4f, 0x682e6ff3,
   0x748f82ee, 0x78a5636f, 0x84c87814, 0x8cc70208, 0x90befffa, 0xa4506ceb, 0xbef9a3f7, 0xc67178f2]

/-! ### The compression function -/

/-- The chaining state: eight words. -/
structure State where
  a : UInt32
  b : UInt32
  c : UInt32
  d : UInt32
  e : UInt32
  f : UInt32
  g : UInt32
  h : UInt32
deriving DecidableEq

/-- The fractional parts of the square roots of the first eight primes. -/
def State.initial : State :=
  ⟨0x6a09e667, 0xbb67ae85, 0x3c6ef372, 0xa54ff53a, 0x510e527f, 0x9b05688c, 0x1f83d9ab, 0x5be0cd19⟩

/-- One round with its constant and its word of the schedule. -/
def State.round (s : State) (constant word : UInt32) : State :=
  let t₁ := s.h + bigSigma1 s.e + choose s.e s.f s.g + constant + word
  let t₂ := bigSigma0 s.a + majority s.a s.b s.c
  ⟨t₁ + t₂, s.a, s.b, s.c, s.d + t₁, s.e, s.f, s.g⟩

/-- Word-wise sum of two states. -/
def State.add (s t : State) : State :=
  ⟨s.a + t.a, s.b + t.b, s.c + t.c, s.d + t.d, s.e + t.e, s.f + t.f, s.g + t.g, s.h + t.h⟩

/-- The words of a block, four bytes each, the highest first. -/
def wordsOf : List UInt8 → List UInt32
  | b₀ :: b₁ :: b₂ :: b₃ :: rest =>
    (b₀.toUInt32 <<< 24 ||| b₁.toUInt32 <<< 16 ||| b₂.toUInt32 <<< 8 ||| b₃.toUInt32) :: wordsOf rest
  | _ => []

/-- The next words of the schedule, from the sixteen before them. -/
def schedule : Nat → List UInt32 → List UInt32
  | n + 1, [w₀, w₁, w₂, w₃, w₄, w₅, w₆, w₇, w₈, w₉, w₁₀, w₁₁, w₁₂, w₁₃, w₁₄, w₁₅] =>
    w₀ :: schedule n
      [w₁, w₂, w₃, w₄, w₅, w₆, w₇, w₈, w₉, w₁₀, w₁₁, w₁₂, w₁₃, w₁₄, w₁₅,
        smallSigma1 w₁₄ + w₉ + smallSigma0 w₁ + w₀]
  | _, _ => []

/-- Absorbs one block of sixty-four bytes. -/
def compress (s : State) (block : List UInt8) : State :=
  let words := schedule 64 (wordsOf block)
  s.add ((roundConstants.zip words).foldl (fun t (constant, word) => t.round constant word) s)

/-! ### The digest of a whole message -/

/-- The bytes of a number of sixty-four bits, the highest first. -/
def lengthBytes (bits : Nat) : List UInt8 :=
  [56, 48, 40, 32, 24, 16, 8, 0].map fun shift => UInt8.ofNat (bits >>> shift)

/-- What follows a message of so many bytes: a set bit, zeros up to a full block, and the length
in bits. -/
def padding (length : Nat) : List UInt8 :=
  0x80 :: List.replicate ((119 - length % 64) % 64) 0 ++ lengthBytes (8 * length)

/-- Absorbs the full blocks of a byte string and gives back what is left of it. -/
def absorb (s : State) (bytes : List UInt8) : State × List UInt8 :=
  if (bytes.take 64).length = 64 then absorb (compress s (bytes.take 64)) (bytes.drop 64)
  else (s, bytes)
termination_by bytes.length
decreasing_by
  rename_i full
  simp only [List.length_take] at full
  simp only [List.length_drop]
  omega

/-- The bytes of a state, word by word. -/
def State.bytes (s : State) : List UInt8 :=
  [s.a, s.b, s.c, s.d, s.e, s.f, s.g, s.h].flatMap fun (w : UInt32) =>
    [(w >>> 24).toUInt8, (w >>> 16).toUInt8, (w >>> 8).toUInt8, w.toUInt8]

/-- The digest of a message, as sixty-four hexadecimal digits. -/
def digest (message : List UInt8) : String :=
  Text.Hex.lower (absorb .initial (message ++ padding message.length)).1.bytes

/-! ### The digest of a message in parts -/

/-- What is kept between the parts of a message: the state after the full blocks, the bytes after
them, and the length so far. -/
structure Progress where
  state : State := .initial
  pending : List UInt8 := []
  length : Nat := 0
deriving DecidableEq

namespace Progress

/-- Takes the next part. -/
def feed (p : Progress) (part : List UInt8) : Progress :=
  let (state, pending) := absorb p.state (p.pending ++ part)
  { state, pending, length := p.length + part.length }

/-- The digest of the parts taken so far. -/
def finish (p : Progress) : String :=
  Text.Hex.lower (absorb p.state (p.pending ++ padding p.length)).1.bytes

end Progress

end Fixity.Sha256
