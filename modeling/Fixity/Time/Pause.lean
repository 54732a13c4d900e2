/-
This file bounds pauses and writes their lengths. No pause lasts longer than thirty
years. The unit of a length is the second from one second on and the millisecond
below; trailing zeros of the fraction are dropped.
-/

import Fixity.Text.Integer

namespace Fixity.Time

/-! ### Bounds -/

/-- The longest pause, in milliseconds. -/
def longestPause : Nat := 30 * 365 * 86400 * 1000

/-- The milliseconds that a pause lasts when so many are asked for. -/
def pauseLength (milliseconds : Nat) : Nat :=
  min milliseconds longestPause

/-! ### Texts -/

/-- The digits of a thousandth part, without trailing zeros. -/
def writeThousandths (n : Nat) : List Char :=
  ((Text.writePadded 3 n).reverse.dropWhile (· == '0')).reverse

/-- The text of a pause of so many milliseconds. -/
def pauseText (milliseconds : Nat) : String :=
  String.ofList <|
    if milliseconds = 0 then "0ns".toList
    else if milliseconds < 1000 then Text.writeNat milliseconds ++ "ms".toList
    else if milliseconds % 1000 = 0 then Text.writeNat (milliseconds / 1000) ++ ['s']
    else Text.writeNat (milliseconds / 1000) ++ '.' :: writeThousandths (milliseconds % 1000) ++ ['s']

end Fixity.Time
