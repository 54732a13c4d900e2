/-
This file writes text with percent escapes and reads such text back. A byte that
is not kept is written as a percent sign and two upper-case hexadecimal digits;
reading turns every percent sign with two hexadecimal digits after it into that
byte and keeps all else.
-/

import Fixity.Text.Hex
import Fixity.Text.Utf8

namespace Fixity.Text.Percent

/-! ### Writing -/

/-- The escape of one byte. -/
def escapeByte (b : UInt8) : List Char :=
  '%' :: Hex.upperByte b

/-- A byte as it is written: itself where it is kept, its escape elsewhere. -/
def writeByte (keep : UInt8 → Bool) (b : UInt8) : List Char :=
  if keep b then [Char.ofNat b.toNat] else escapeByte b

/-- A text with an escape for every byte that is not kept. -/
def encode (keep : UInt8 → Bool) (text : List Char) : List Char :=
  (Utf8.encode text).flatMap (writeByte keep)

/-! ### Reading -/

/-- The bytes of a text with its escapes resolved. -/
def decodeBytes : List UInt8 → List UInt8
  | [] => []
  | 0x25 :: high :: low :: rest =>
    match Hex.digitValue (Char.ofNat high.toNat), Hex.digitValue (Char.ofNat low.toNat) with
    | some h, some l => UInt8.ofNat (16 * h + l) :: decodeBytes rest
    | _, _ => 0x25 :: decodeBytes (high :: low :: rest)
  | b :: rest => b :: decodeBytes rest

/-- The bytes that a text with escapes stands for. -/
def decode (text : List Char) : List UInt8 :=
  decodeBytes (Utf8.encode text)

end Fixity.Text.Percent
