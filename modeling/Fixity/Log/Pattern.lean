/-
This file says which texts are patterns for the values of fields. Patterns are
regular expressions; no entry of the log is ever matched against one, so only their
form matters. Braces, commas and equals signs do not reach them, which leaves out
counted repetitions and all that is spelled in braces. A pattern has to lead to an
automaton over encoded text, which rules out word boundaries in the sense of the
whole character set, and bytes that encode no character.
-/

import Fixity.Text.Ascii
import Fixity.Text.Hex
import Fixity.Text.Letter.Alphanumeric

namespace Fixity.Log.Pattern

/-! ### Escapes -/

/-- What an escape or a plain character stands for: one code point, a set of them, or a place. -/
inductive Item where
  | point (code : Nat)
  | set
  | place

/-- A code point in so many hexadecimal digits, and what follows. -/
def hexPoint? (digits : Nat) (text : List Char) : Option (Nat × List Char) := do
  let spelled := text.take digits
  let code ← spelled.foldlM (fun value c => do return 16 * value + (← Text.Hex.digitValue c)) 0
  if spelled.length = digits && Nat.isValidChar code then return (code, text.drop digits) else none

/-- A letter that names a general category. -/
def isCategory (c : Char) : Bool :=
  "clmnpsz".toList.contains c.toLower

/-- A character that a backslash makes plain. -/
def isEscapable (c : Char) : Bool :=
  c.toNat < 0x80 && !c.isAlphanum && c != '<' && c != '>'

/-- The item after a backslash, and what follows. Outside of the whole character set there are no
properties, no sets of bytes beyond ASCII, and no bytes beyond ASCII; inside there are no word
boundaries. -/
def escape? (whole : Bool) : List Char → Option (Item × List Char)
  | [] => none
  | c :: rest =>
    if "dsw".toList.contains c then some (.set, rest)
    else if "DSW".toList.contains c then if whole then some (.set, rest) else none
    else if c = 'p' ∨ c = 'P' then
      match rest with
      | name :: rest => if whole && isCategory name then some (.set, rest) else none
      | [] => none
    else if "Az".toList.contains c then some (.place, rest)
    else if "bB<>".toList.contains c then if whole then none else some (.place, rest)
    else if c = 'x' ∨ c = 'u' ∨ c = 'U' then do
      let (code, rest) ← hexPoint? (if c = 'x' then 2 else if c = 'u' then 4 else 8) rest
      if whole || code < 0x80 then some (.point code, rest) else none
    else
      match [('a', 0x07), ('f', 0x0C), ('t', 0x09), ('n', 0x0A), ('r', 0x0D), ('v', 0x0B)].lookup c with
      | some code => some (.point code, rest)
      | none => if isEscapable c then some (.point c.toNat, rest) else none

/-! ### Classes -/

/-- The names of the classes that are spelled between colons. -/
def classNames : List String :=
  ["alnum", "alpha", "ascii", "blank", "cntrl", "digit", "graph", "lower", "print", "punct", "space",
   "upper", "word", "xdigit"]

/-- What follows a class that is spelled between colons, after its first bracket. -/
def afterNamedClass? : List Char → Option (List Char)
  | ':' :: text =>
    let spelled := if text.head? = some '^' then text.drop 1 else text
    let name := spelled.takeWhile (· != ':')
    match spelled.drop name.length with
    | ':' :: ']' :: rest => if classNames.contains (String.ofList name) then some rest else none
    | _ => none
  | _ => none

/-- What follows the opening of a class, after its bracket: a caret, hyphens, and a closing bracket
that stands first. -/
def afterOpening? (whole : Bool) (text : List Char) : Option (List Char) :=
  let negated := text.head? = some '^'
  let body := if negated then text.drop 1 else text
  let rest := body.dropWhile (· == '-')
  if negated && !whole then none
  else if rest.length = body.length && rest.head? = some ']' then some (rest.drop 1)
  else some rest

/-- A member of a class, and what follows. -/
def member? (whole : Bool) : List Char → Option (Item × List Char)
  | [] => none
  | '\\' :: rest => escape? whole rest
  | c :: rest => if whole || c.toNat < 0x80 then some (.point c.toNat, rest) else none

/-- What follows a member of a class or a range of them. A range has code points at its ends, which
ascend. -/
def afterRange? (whole : Bool) (text : List Char) : Option (List Char) := do
  let (first, rest) ← member? whole text
  match rest with
  | '-' :: after =>
    if after.head? = some ']' ∨ after.head? = some '-' then
      match first with
      | .place => none
      | _ => some rest
    else
      match first, ← member? whole after with
      | .point low, (.point high, rest) => if low ≤ high then some rest else none
      | _, _ => none
  | _ =>
    match first with
    | .place => none
    | _ => some rest

/-! ### Groups -/

/-- A character of the name of a group. -/
def isNameChar (c : Char) : Bool :=
  c == '_' || c == '.' || c == '[' || c == ']' || Text.isAlphanumeric c

/-- The name of a group up to its closing mark, and what follows. -/
def groupName? (text : List Char) : Option (List Char × List Char) :=
  let name := text.takeWhile (· != '>')
  match name, text.drop name.length with
  | first :: others, _ :: rest =>
    if (first == '_' || Text.isAlphabetic first) && others.all isNameChar then some (name, rest) else none
  | _, _ => none

/-- Whether flags speak of the whole character set, given what held before. -/
def wholeAfter (whole : Bool) (flags : List Char) : Bool :=
  if !flags.contains 'u' then whole
  else !(flags.takeWhile (· != 'u')).contains '-'

/-- Flags: each once, with at most one hyphen among them, which stands before a flag. -/
def areFlags (flags : List Char) : Bool :=
  flags.all (fun c => "imsUuRx-".toList.contains c) && flags.eraseDups.length == flags.length &&
    flags.getLast? != some '-'

/-! ### Whole patterns -/

/-- What is known in the middle of a pattern: whether each open group, the innermost first, speaks
of the whole character set, how many classes are open, whether something stands before that can be
repeated, and which names groups have. -/
structure State where
  groups : List Bool := [true]
  classes : Nat := 0
  repeatable : Bool := false
  names : List (List Char) := []

/-- The innermost group speaks of the whole character set. -/
def State.whole (state : State) : Bool :=
  state.groups.headD true

/-- Opens a group with the text after its parenthesis, or sets flags. -/
def openGroup? (state : State) (text : List Char) : Option (State × List Char) := do
  let opened := { state with groups := state.whole :: state.groups, repeatable := false }
  let named := fun text => do
    let (name, rest) ← groupName? text
    if state.names.contains name then none
    else return ({ opened with names := name :: state.names }, rest)
  match text with
  | '?' :: 'P' :: '<' :: rest | '?' :: '<' :: rest => named rest
  | '?' :: rest =>
    let flags := rest.takeWhile fun c => c != ':' && c != ')'
    let whole := wholeAfter state.whole flags
    if !areFlags flags then none
    else
      match rest.drop flags.length with
      | ':' :: rest => some ({ opened with groups := whole :: state.groups }, rest)
      | ')' :: rest =>
        if flags.isEmpty then none
        else some ({ state with groups := whole :: state.groups.drop 1, repeatable := false }, rest)
      | _ => none
  | rest => some (opened, rest)

/-- One step inside of a class. -/
def stepInClass? (state : State) : List Char → Option (State × List Char)
  | '[' :: rest =>
    match afterNamedClass? rest with
    | some rest => some (state, rest)
    | none => (afterOpening? state.whole rest).map fun rest =>
        ({ state with classes := state.classes + 1 }, rest)
  | ']' :: rest => some ({ state with classes := state.classes - 1, repeatable := true }, rest)
  | '&' :: '&' :: rest | '-' :: '-' :: rest | '~' :: '~' :: rest => some (state, rest)
  | text => (afterRange? state.whole text).map fun rest => (state, rest)

/-- One step outside of classes. -/
def stepOutside? (state : State) : List Char → Option (State × List Char)
  | [] => none
  | '(' :: rest => openGroup? state rest
  | ')' :: rest =>
    match state.groups with
    | _ :: outer :: others => some ({ state with groups := outer :: others, repeatable := true }, rest)
    | _ => none
  | '|' :: rest => some ({ state with repeatable := false }, rest)
  | '[' :: rest => (afterOpening? state.whole rest).map fun rest => ({ state with classes := 1 }, rest)
  | '\x7b' :: _ => none
  | '\\' :: rest => (escape? state.whole rest).map fun (_, rest) => ({ state with repeatable := true }, rest)
  | c :: rest =>
    if c = '?' ∨ c = '*' ∨ c = '+' then
      if state.repeatable then some (state, if rest.head? = some '?' then rest.drop 1 else rest) else none
    else if c = '.' && !state.whole then none
    else some ({ state with repeatable := true }, rest)

/-- The rest of a text completes a pattern. Every step takes a character at least, so that there are
no more steps than characters. -/
def completes : Nat → State → List Char → Bool
  | _, state, [] => state.classes == 0 && state.groups.length == 1
  | 0, _, _ :: _ => false
  | steps + 1, state, text =>
    match if state.classes = 0 then stepOutside? state text else stepInClass? state text with
    | some (state, rest) => completes steps state rest
    | none => false

/-- The text is a pattern. -/
def isPattern (text : List Char) : Bool :=
  completes text.length {} text

/-! ### Numbers -/

/-- The text is a number after its plus sign, with which no pattern begins. -/
def isUnsignedNumber (text : List Char) : Bool :=
  let digits := fun text : List Char => text.takeWhile Char.isDigit
  let whole := digits text
  let afterWhole := text.drop whole.length
  let hasPoint := afterWhole.head? = some '.'
  let part := if hasPoint then digits (afterWhole.drop 1) else []
  let rest := if hasPoint then afterWhole.drop (1 + part.length) else afterWhole
  let exponent := match rest with
    | e :: sign :: digits =>
      e.toLower == 'e' &&
        if sign == '+' || sign == '-' then !digits.isEmpty && digits.all Char.isDigit
        else (sign :: digits).all Char.isDigit
    | [] => true
    | _ => false
  ["inf", "infinity", "nan"].any (fun name => name.toList == Text.lowerAscii text) ||
    (!(whole ++ part).isEmpty && exponent)

/-- The text can stand for the value of a field: it is a number or a pattern. -/
def isValue : List Char → Bool
  | '+' :: rest => isUnsignedNumber rest
  | text => isPattern text

end Fixity.Log.Pattern
