/-
This file defines the header fields of messages. Names are kept in lower case and
in order, and may repeat; values are bytes, which are readable as text when all of
them are visible ASCII characters, spaces or tabs.
-/

import Fixity.Text.Ascii
import Fixity.Text.Utf8

namespace Fixity.Http

/-! ### Bytes -/

/-- A space or a tab. -/
def isPadding (b : UInt8) : Bool :=
  b == 0x20 || b == 0x09

/-- A byte that a value may hold: anything but the controls, of which it may hold the tab. -/
def isValueByte (b : UInt8) : Bool :=
  b == 0x09 || (0x20 ≤ b && b != 0x7F)

/-- A byte of a value that reads as text. -/
def isTextByte (b : UInt8) : Bool :=
  b == 0x09 || (0x20 ≤ b && b < 0x7F)

/-- A byte that a name may hold. -/
def isNameByte (b : UInt8) : Bool :=
  (0x30 ≤ b && b ≤ 0x39) || (0x41 ≤ b && b ≤ 0x5A) || (0x61 ≤ b && b ≤ 0x7A) ||
    "!#$%&'*+-.^_`|~".toList.contains (Char.ofNat b.toNat)

/-- Bytes without the padding at either end. -/
def trimPadding (bytes : List UInt8) : List UInt8 :=
  ((bytes.dropWhile isPadding).reverse.dropWhile isPadding).reverse

/-- Bytes of ASCII characters as text. -/
def asciiText (bytes : List UInt8) : List Char :=
  bytes.map fun b => Char.ofNat b.toNat

/-! ### Fields -/

/-- A header field: its name in lower case, and its value. -/
structure Field where
  name : String
  value : List UInt8
deriving Repr, DecidableEq

namespace Field

/-- A field from texts. -/
def ofText (name value : String) : Field :=
  ⟨Text.lowerAsciiString name, Text.Utf8.encode value.toList⟩

/-- The value may be sent. -/
def isSendable (field : Field) : Bool :=
  field.value.all isValueByte

/-- The value as text, if it is readable. -/
def text? (field : Field) : Option String :=
  if field.value.all isTextByte then some (String.ofList (asciiText field.value)) else none

end Field

/-- The header fields of a message, in order. -/
abbrev Fields := List Field

namespace Fields

/-- The fields with a name. -/
def named (fields : Fields) (name : String) : Fields :=
  fields.filter fun field => field.name == name

/-- The fields without those with some names. -/
def without (fields : Fields) (names : List String) : Fields :=
  fields.filter fun field => !names.contains field.name

/-- The value of the first field with a name, if that is readable. -/
def text? (fields : Fields) (name : String) : Option String :=
  (named fields name).head? >>= Field.text?

end Fields

end Fixity.Http
