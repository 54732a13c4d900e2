/-
This file reads and writes decimal integers within a range. Reading takes an
optional sign and digits and nothing else; a minus sign is a sign only where the
range has negative members. Digits are taken from the left, and the first fault
met decides the answer: a foreign character, or a prefix whose value has already
left the range.
-/

namespace Fixity.Text

/-! ### Ranges and faults -/

/-- A range of integers, both ends included. -/
structure IntegerRange where
  least : Int
  greatest : Int
deriving Repr, DecidableEq

namespace IntegerRange

/-- Sixty-four bits, signed. -/
def signed64 : IntegerRange := ⟨-0x8000000000000000, 0x7FFFFFFFFFFFFFFF⟩

/-- Sixty-four bits, unsigned. -/
def unsigned64 : IntegerRange := ⟨0, 0xFFFFFFFFFFFFFFFF⟩

/-- Thirty-two bits, unsigned. -/
def unsigned32 : IntegerRange := ⟨0, 0xFFFFFFFF⟩

/-- Sixteen bits, unsigned. -/
def unsigned16 : IntegerRange := ⟨0, 0xFFFF⟩

/-- Membership of a value. -/
def contains (range : IntegerRange) (value : Int) : Bool :=
  range.least ≤ value && value ≤ range.greatest

end IntegerRange

/-- Why a text is not an integer of the wanted range. -/
inductive IntegerFault where
  | empty
  | invalidDigit
  | tooLarge
  | tooSmall
deriving Repr, DecidableEq

namespace IntegerFault

/-- The wording of a fault. -/
def message : IntegerFault → String
  | empty => "cannot parse integer from empty string"
  | invalidDigit => "invalid digit found in string"
  | tooLarge => "number too large to fit in target type"
  | tooSmall => "number too small to fit in target type"

end IntegerFault

/-! ### Reading -/

/-- The value of a decimal digit. -/
def decimalDigit (c : Char) : Option Nat :=
  if 0x30 ≤ c.toNat ∧ c.toNat ≤ 0x39 then some (c.toNat - 0x30) else none

/-- Reads the remaining digits of a magnitude that must not exceed the bound. -/
def readMagnitude (bound : Nat) (excess : IntegerFault) (value : Nat) :
    List Char → Except IntegerFault Nat
  | [] => .ok value
  | c :: rest =>
    match decimalDigit c with
    | none => .error .invalidDigit
    | some digit =>
      if 10 * value + digit ≤ bound then readMagnitude bound excess (10 * value + digit) rest
      else .error excess

/-- Reads digits that carry no sign. -/
def readUnsigned (range : IntegerRange) (digits : List Char) : Except IntegerFault Int :=
  (readMagnitude range.greatest.toNat .tooLarge 0 digits).map Int.ofNat

/-- Reads an integer of the range from the whole text. -/
def readInteger (range : IntegerRange) : List Char → Except IntegerFault Int
  | [] => .error .empty
  | '+' :: digits =>
    if digits.isEmpty then .error .invalidDigit else readUnsigned range digits
  | '-' :: digits =>
    if digits.isEmpty ∨ 0 ≤ range.least then .error .invalidDigit
    else (readMagnitude range.least.natAbs .tooSmall 0 digits).map fun n => -Int.ofNat n
  | digits => readUnsigned range digits

/-- Reads a signed sixty-four bit integer. -/
def readInt64 (text : List Char) : Except IntegerFault Int64 :=
  (readInteger .signed64 text).map Int64.ofInt

/-! ### Writing -/

/-- The decimal digits of a natural number. -/
def writeNat (n : Nat) : List Char :=
  Nat.toDigits 10 n

/-- The decimal text of an integer, with a minus sign where it is negative. -/
def writeInt : Int → List Char
  | .ofNat n => writeNat n
  | .negSucc n => '-' :: writeNat (n + 1)

/-- The decimal text of a signed sixty-four bit integer. -/
def writeInt64 (n : Int64) : String :=
  String.ofList (writeInt n.toInt)

/-- Decimal digits, padded on the left with zeros to a width. -/
def writePadded (width n : Nat) : List Char :=
  let digits := writeNat n
  List.replicate (width - digits.length) '0' ++ digits

end Fixity.Text
