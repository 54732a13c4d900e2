/-
This file reads the names of hosts. A name is folded, composed and cut at its dots;
a label beyond ASCII is written in ASCII after a mark, and a label with that mark
must read back to one that could have been written. No label begins with a mark of
its letters, joiners stand only where they join, and where some label is written
from right to left, every label keeps to one direction.
-/

import Fixity.Http.Punycode
import Fixity.Text.Ascii
import Fixity.Text.Composed
import Fixity.Text.Letter.Direction
import Fixity.Text.Letter.Folding
import Fixity.Text.Letter.Joining
import Fixity.Text.Utf8

namespace Fixity.Http.Domain

/-! ### Characters -/

/-- A character that no host holds. -/
def isForbidden (c : Char) : Bool :=
  "\x00\t\n\r #/:<>?@[\\]^|".toList.contains c

/-- A character that no name of a host holds. -/
def isForbiddenInName (c : Char) : Bool :=
  isForbidden c || c.toNat < 0x20 || c == '%' || c == '\x7F'

/-- The character lies in ASCII. -/
def isAscii (c : Char) : Bool :=
  c.toNat < 0x80

/-! ### Labels -/

/-- A label as it is written in ASCII and as it is shown. -/
structure Label where
  written : List Char
  shown : List Char

/-- The mark of labels that are shown in another form than they are written. -/
def mark : List Char := "xn--".toList

/-- The longest label beyond ASCII. -/
def longestLabel : Nat := 1000

/-- The text is what folding and composing it gives, and a name may hold it. -/
def isSettled (text : List Char) : Bool :=
  text.all (fun c => Text.folded? c == some [c] && !isForbiddenInName c) &&
    Text.composed text == text

/-- A label from its text, which is folded and composed. -/
def Label.ofText? (text : List Char) : Option Label :=
  match Text.dropBeginning? mark text with
  | some code =>
    if code.isEmpty || code.getLast? == some '-' || !code.all isAscii then none
    else ((Punycode.decode? code).filter isSettled).map fun shown => { written := text, shown }
  | none =>
    if text.all isAscii then some { written := text, shown := text }
    else some { written := mark ++ Punycode.encode text, shown := text }

/-! ### Joiners -/

/-- A joiner, which shows letters in their joined forms or keeps them from it. -/
def isJoiner (c : Char) : Bool :=
  c == '\u200C' || c == '\u200D'

/-- The class of the signs that take the vowel from a letter. -/
def vowelTakerClass : Nat := 9

/-- A joiner stands after a sign that takes the vowel from a letter. One that keeps letters apart
may also stand between letters that would join. The text before is in reverse. -/
def joinerStands (c : Char) (before after : List Char) : Bool :=
  match before with
  | [] => false
  | last :: _ =>
    Text.combiningClass last == vowelTakerClass ||
      (c == '\u200C' &&
        (before.dropWhile Text.isTransparent).head?.any Text.joinsAfter &&
        (after.dropWhile Text.isTransparent).head?.any Text.joinsBefore)

/-- Every joiner of a text stands where it may, after the text before, which is in reverse. -/
def joinersStand (before : List Char) : List Char → Bool
  | [] => true
  | c :: after => (!isJoiner c || joinerStands c before after) && joinersStand (c :: before) after

/-- The label can be shown: it does not begin with a mark, joiners stand where they may, and a
label beyond ASCII is not too long. -/
def Label.isShowable (label : Label) : Bool :=
  !label.shown.head?.any Text.isMark && joinersStand [] label.shown &&
    (label.shown.all isAscii || label.shown.length ≤ longestLabel)

/-! ### Directions -/

/-- The directions among which a name with a label from right to left is no plain name. -/
def turns (direction : Text.Direction) : Bool :=
  direction == .leftward || direction == .arabicNumber

/-- The last direction that is not a mark's. -/
def lastDirection? (directions : List Text.Direction) : Option Text.Direction :=
  (directions.reverse.dropWhile (· == .mark)).head?

/-- A label from left to right. -/
def runsRightward (directions : List Text.Direction) : Bool :=
  directions.all [.rightward, .number, .neutral, .mark].contains &&
    (lastDirection? directions).any [.rightward, .number].contains

/-- A label from right to left, with numerals of one kind. -/
def runsLeftward (directions : List Text.Direction) : Bool :=
  directions.all [.leftward, .arabicNumber, .number, .neutral, .mark].contains &&
    (lastDirection? directions).any [.leftward, .number, .arabicNumber].contains &&
    !(directions.contains .number && directions.contains .arabicNumber)

/-- The label keeps to the direction of its first letter. -/
def Label.keepsDirection (label : Label) : Bool :=
  match label.shown.map Text.direction with
  | [] => true
  | .rightward :: rest => runsRightward (.rightward :: rest)
  | .leftward :: rest => runsLeftward (.leftward :: rest)
  | _ => false

/-- Some label of a name is written from right to left. -/
def hasTurn (labels : List Label) : Bool :=
  labels.any fun label => label.shown.any fun c => turns (Text.direction c)

/-! ### Names -/

/-- A name in ASCII. -/
def ofText? (text : List Char) : Option (List Char) := do
  let folded := Text.composed (← text.mapM Text.folded?).flatten
  if folded.any isForbiddenInName then none
  else
    let labels ← (Text.splitAll '.' folded).mapM Label.ofText?
    if labels.all Label.isShowable && (!hasTurn labels || labels.all Label.keepsDirection) then
      some (List.intercalate ['.'] (labels.map Label.written))
    else none

/-- A name in ASCII, from the bytes that spell it. -/
def ofBytes? (bytes : List UInt8) : Option (List Char) :=
  Text.Utf8.decode? bytes >>= ofText?

end Fixity.Http.Domain
