/-
This file writes bytes as hexadecimal digits, in either letter case, and reads
hexadecimal digits back.
-/

namespace Fixity.Text.Hex

/-! ### Writing -/

/-- The lower-case digit of a value below sixteen. -/
def lowerDigit (n : Nat) : Char :=
  if n < 10 then Char.ofNat (0x30 + n) else Char.ofNat (0x61 + (n - 10))

/-- The upper-case digit of a value below sixteen. -/
def upperDigit (n : Nat) : Char :=
  if n < 10 then Char.ofNat (0x30 + n) else Char.ofNat (0x41 + (n - 10))

/-- Two lower-case digits for one byte. -/
def lowerByte (b : UInt8) : List Char :=
  [lowerDigit (b.toNat / 16), lowerDigit (b.toNat % 16)]

/-- Two upper-case digits for one byte. -/
def upperByte (b : UInt8) : List Char :=
  [upperDigit (b.toNat / 16), upperDigit (b.toNat % 16)]

/-- A byte string in lower-case digits. -/
def lower (bytes : List UInt8) : String :=
  String.ofList (bytes.flatMap lowerByte)

/-- A number in lower-case digits without leading zeros. -/
def lowerNat (n : Nat) : List Char :=
  Nat.toDigits 16 n

/-! ### Reading -/

/-- The value of a hexadecimal digit in either letter case. -/
def digitValue (c : Char) : Option Nat :=
  let n := c.toNat
  if 0x30 ≤ n ∧ n ≤ 0x39 then some (n - 0x30)
  else if 0x61 ≤ n ∧ n ≤ 0x66 then some (n - 0x61 + 10)
  else if 0x41 ≤ n ∧ n ≤ 0x46 then some (n - 0x41 + 10)
  else none

/-- The bytes that pairs of digits denote, or nothing when a digit is missing or foreign. -/
def bytes? : List Char → Option (List UInt8)
  | [] => some []
  | [_] => none
  | high :: low :: rest => do
    let h ← digitValue high
    let l ← digitValue low
    let tail ← bytes? rest
    return UInt8.ofNat (16 * h + l) :: tail

end Fixity.Text.Hex
