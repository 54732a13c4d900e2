/-
This file writes bytes in sixty-four characters: three bytes as four of them, and
what is left over as two or three, filled up with equals signs.
-/

namespace Fixity.Text.Base64

/-- The character of a value below sixty-four. -/
def digit (value : Nat) : Char :=
  if value < 26 then Char.ofNat (0x41 + value)
  else if value < 52 then Char.ofNat (0x61 + (value - 26))
  else if value < 62 then Char.ofNat (0x30 + (value - 52))
  else if value = 62 then '+' else '/'

/-- The characters of a number of three bytes, of which the given count is kept. -/
def digits (count number : Nat) : List Char :=
  ([18, 12, 6, 0].take count).map fun shift => digit ((number >>> shift) % 64)

/-- Bytes in sixty-four characters. -/
def encode : List UInt8 → List Char
  | [] => []
  | [a] => digits 2 (a.toNat <<< 16) ++ ['=', '=']
  | [a, b] => digits 3 (a.toNat <<< 16 + b.toNat <<< 8) ++ ['=']
  | a :: b :: c :: rest => digits 4 (a.toNat <<< 16 + b.toNat <<< 8 + c.toNat) ++ encode rest

end Fixity.Text.Base64
