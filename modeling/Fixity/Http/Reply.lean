/-
This file reads replies from the bytes that a connection delivers before it closes.
The head is a status line and header fields; empty lines before it are passed over,
and one ends it. Where the body ends is decided by the method, the status and the
fields: there is none, it comes in chunks, it has a length, or it lasts as long as
the connection. The last chunk may be followed by fields. A body that the
connection cuts short is kept as far as it came.
-/

import Fixity.Http.Fields
import Fixity.Http.Status
import Fixity.Text.Hex
import Fixity.Text.Integer

namespace Fixity.Http

/-! ### Replies -/

/-- A reply. A body that is not complete ends in a fault. -/
structure Reply where
  status : Status
  fields : Fields
  body : List UInt8
  complete : Bool := true
deriving Repr, DecidableEq

namespace Reply

/-! ### Lines -/

/-- The bytes up to the first line feed, and those after it. -/
def cutLine? : List UInt8 → Option (List UInt8 × List UInt8)
  | [] => none
  | b :: rest =>
    if b = 0x0A then some ([], rest)
    else (cutLine? rest).map fun (line, rest) => (b :: line, rest)

/-- What is left after a line is shorter. -/
theorem length_of_cutLine? {bytes line rest : List UInt8} (found : cutLine? bytes = some (line, rest)) :
    rest.length < bytes.length := by
  induction bytes generalizing line with
  | nil => cases found
  | cons b tail inductionHypothesis =>
    simp only [cutLine?] at found
    split at found
    · cases found
      exact Nat.lt_succ_self _
    · obtain ⟨⟨front, after⟩, tailFound, same⟩ := Option.map_eq_some_iff.1 found
      cases same
      exact Nat.lt_succ_of_lt (inductionHypothesis tailFound)

/-- The line that ends at the first line feed, without its carriage return, and the bytes after it.
A strict line must have the return. -/
def line? (strict : Bool) (bytes : List UInt8) : Option (List UInt8 × List UInt8) :=
  match cutLine? bytes with
  | none => none
  | some (line, rest) =>
    if line.getLast? = some 0x0D then some (line.dropLast, rest)
    else if strict then none
    else some (line, rest)

/-- What is left after a line is shorter. -/
theorem length_of_line? {strict : Bool} {bytes line rest : List UInt8}
    (found : line? strict bytes = some (line, rest)) : rest.length < bytes.length := by
  unfold line? at found
  split at found
  · cases found
  next cut =>
    have shorter := length_of_cutLine? cut
    split at found
    · cases found
      exact shorter
    · split at found
      · cases found
      · cases found
        exact shorter

/-- The bytes after the empty lines at the beginning. -/
def skipEmptyLines : List UInt8 → List UInt8
  | 0x0D :: 0x0A :: rest => skipEmptyLines rest
  | 0x0A :: rest => skipEmptyLines rest
  | bytes => bytes

theorem length_skipEmptyLines_le (bytes : List UInt8) :
    (skipEmptyLines bytes).length ≤ bytes.length := by
  fun_induction skipEmptyLines bytes with
  | case1 rest inductionHypothesis => exact Nat.le_succ_of_le (Nat.le_succ_of_le inductionHypothesis)
  | case2 rest inductionHypothesis => exact Nat.le_succ_of_le inductionHypothesis
  | case3 => exact Nat.le_refl _

/-! ### The head -/

/-- The head of a reply. The minor version is zero or one. -/
structure Head where
  minor : Nat
  status : Status
  fields : Fields := []

/-- A status line: the version, a code of three digits, and a phrase. -/
def statusLine? (line : List UInt8) : Option Head := do
  let rest ← Text.dropBeginning? "HTTP/1.".toList (asciiText line)
  match rest with
  | minor :: ' ' :: a :: b :: c :: phrase =>
    if (minor = '0' || minor = '1') && (phrase.isEmpty || phrase.head? = some ' ') && (line.drop 12).all isValueByte then
      let code := 100 * (← Text.decimalDigit a) + 10 * (← Text.decimalDigit b) +
        (← Text.decimalDigit c)
      if 100 ≤ code then some { minor := if minor = '0' then 0 else 1, status := ⟨code⟩ } else none
    else none
  | _ => none

/-- The longest name of a header field. -/
def longestName : Nat := 65535

/-- A header field from its line. -/
def field? (line : List UInt8) : Option Field :=
  let name := line.takeWhile isNameByte
  let value := trimPadding ((line.drop name.length).drop 1)
  if name.isEmpty || longestName < name.length || (line.drop name.length).head? != some 0x3A ||
    !value.all isValueByte then none
  else some ⟨Text.lowerAsciiString (String.ofList (asciiText name)), value⟩

/-- The fields up to an empty line, and the bytes after it. -/
def fields? (strict : Bool) (bytes : List UInt8) : Option (Fields × List UInt8) :=
  match found : line? strict bytes with
  | none => none
  | some (line, rest) =>
    have _shorter : rest.length < bytes.length := length_of_line? found
    if line.isEmpty then some ([], rest)
    else
      match field? line with
      | none => none
      | some field => (fields? strict rest).map fun (others, rest) => (field :: others, rest)
termination_by bytes.length

/-- The most fields that a head may have. -/
def mostFields : Nat := 100

/-- The most bytes of a head, with the empty lines before it, that are sure to be taken. A longer
one is taken or not by how it arrives; here it is not. -/
def longestHead : Nat := 417792

/-- The head of a reply, and the bytes after it. -/
def head? (bytes : List UInt8) : Option (Head × List UInt8) := do
  let (line, rest) ← line? false (skipEmptyLines bytes)
  let start ← statusLine? line
  let (fields, rest) ← fields? false rest
  if fields.length ≤ mostFields ∧ bytes.length - rest.length ≤ longestHead then
    return ({ start with fields }, rest)
  else none

/-! ### The extent of the body -/

/-- Where a body ends. -/
inductive Extent where
  | empty
  | chunked
  | sized (length : Nat)
  | untilClose
deriving Repr, DecidableEq

/-- The last coding that a field names cuts the body into chunks. -/
def isChunked (field : Field) : Bool :=
  match field.text? with
  | none => false
  | some text =>
    match (Text.splitAll ',' text.toList).getLast? with
    | none => false
    | some coding => Text.lowerAscii (asciiText (trimPadding (Text.Utf8.encode coding))) = "chunked".toList

/-- The longest body that a length may announce. -/
def longestBody : Nat := 0xFFFFFFFFFFFFFFFD

/-- A length, in digits alone. -/
def length? (text : List UInt8) : Option Nat :=
  if text.isEmpty then none
  else
    match Text.readMagnitude 0xFFFFFFFFFFFFFFFF .tooLarge 0 (asciiText text) with
    | .ok length => some length
    | .error _ => none

/-- The lengths that a field lists. -/
def lengths? (field : Field) : Option (List Nat) := do
  (Text.splitAll ',' (← field.text?).toList).mapM fun part =>
    length? (trimPadding (Text.Utf8.encode part))

/-- The one length that all fields agree on. -/
def agreedLength? (fields : Fields) : Option Nat := do
  match (← fields.mapM lengths?).flatten with
  | [] => none
  | first :: rest => if rest.all (· == first) && first ≤ longestBody then some first else none

/-- Where the body of a reply ends, unless the fields contradict themselves. The older version has
no codings. -/
def extent? (method : String) (head : Head) : Option Extent :=
  let code := head.status.code
  if code = 101 ∨ code = 204 ∨ code = 304 ∨ method = "HEAD" then some .empty
  else
    match (head.fields.named "transfer-encoding").getLast? with
    | some field =>
      if head.minor = 0 then none else some (if isChunked field then .chunked else .untilClose)
    | none =>
      let lengths := head.fields.named "content-length"
      if lengths.isEmpty then some .untilClose else (agreedLength? lengths).map .sized

/-! ### Chunks -/

/-- The size of a chunk from its line, which may go on with an extension. -/
def chunkSize? (line : List UInt8) : Option Nat :=
  let text := asciiText line
  let digits := text.takeWhile fun c => (Text.Hex.digitValue c).isSome
  let rest := (text.drop digits.length).dropWhile fun c => c == ' ' || c == '\t'
  let size := digits.foldl (fun value c => 16 * value + (Text.Hex.digitValue c).getD 0) 0
  if digits.isEmpty || line.contains 0x0D || (rest != [] && rest.head? != some ';')
      || 0xFFFFFFFFFFFFFFFF < size then none
  else some size

/-- The bytes of the extension of a chunk, which follows a semicolon. -/
def extensionLength (line : List UInt8) : Nat :=
  (line.dropWhile (· != 0x3B)).length - 1

/-- The bytes that the extensions of a body have room for, and those that the fields after its last
chunk have. -/
def roomAside : Nat := 16384

/-- The lines after the last chunk, up to an empty one. A line ends at its first carriage return. -/
def trailingLines? (bytes : List UInt8) : Option (List (List UInt8)) :=
  let line := bytes.takeWhile (· != 0x0D)
  match ended : bytes.drop line.length with
  | 0x0D :: 0x0A :: rest =>
    have _shorter : rest.length < bytes.length := by
      have cut := congrArg List.length ended
      simp only [List.length_drop, List.length_cons] at cut
      omega
    if line.isEmpty then some [] else (trailingLines? rest).map (line :: ·)
  | _ => none
termination_by bytes.length

/-- The bytes after the last chunk are well formed: an empty line, or fields before it. The lines
are counted by their carriage returns, and none of them holds two fields. -/
def isTrailer (bytes : List UInt8) : Bool :=
  match trailingLines? bytes with
  | none => false
  | some [] => true
  | some lines =>
    let text := (lines ++ [[]]).flatMap (· ++ [0x0D, 0x0A])
    lines.length < mostFields && text.length < roomAside &&
      match fields? false text with
      | some (fields, _) => fields.length ≤ lines.length
      | none => false

/-- The content of the chunks, as far as they came, and whether their end was reached. The
extensions of the chunks before had so many bytes. -/
def chunks (aside : Nat) (bytes : List UInt8) : List UInt8 × Bool :=
  match found : line? true bytes with
  | none => ([], false)
  | some (line, rest) =>
    have _shorter : rest.length < bytes.length := length_of_line? found
    let aside := aside + extensionLength line
    match if aside < roomAside then chunkSize? line else none with
    | none => ([], false)
    | some 0 => ([], isTrailer rest)
    | some (size + 1) =>
      match ended : rest.drop (size + 1) with
      | 0x0D :: 0x0A :: after =>
        have _shorter : after.length < rest.length := by
          have cut := congrArg List.length ended
          simp only [List.length_drop, List.length_cons] at cut
          omega
        let (content, complete) := chunks aside after
        (rest.take (size + 1) ++ content, complete)
      | _ => (rest.take (size + 1), false)
termination_by bytes.length

/-! ### Whole replies -/

/-- The body within its extent, and whether it is complete. -/
def bodyWithin (bytes : List UInt8) : Extent → List UInt8 × Bool
  | .empty => ([], true)
  | .chunked => chunks 0 bytes
  | .sized length => (bytes.take length, length ≤ bytes.length)
  | .untilClose => (bytes, true)

/-- A reply that precedes the actual one. -/
def isInterim (status : Status) : Bool :=
  status.isInformational && status.code != 101

/-- What is left after the fields is shorter. -/
theorem length_of_fields? {strict : Bool} {bytes rest : List UInt8} {fields : Fields}
    (found : fields? strict bytes = some (fields, rest)) : rest.length < bytes.length := by
  fun_induction fields? strict bytes generalizing fields with
  | case1 => cases found
  | case2 bytes line after lineFound shorter empty =>
    cases found
    exact shorter
  | case3 => cases found
  | case4 bytes line after lineFound shorter _ field _ inductionHypothesis =>
    obtain ⟨⟨others, last⟩, othersFound, same⟩ := Option.map_eq_some_iff.1 found
    cases same
    exact Nat.lt_trans (inductionHypothesis othersFound) shorter

/-- What is left after a head is shorter. -/
theorem length_of_head? {bytes rest : List UInt8} {head : Head}
    (found : head? bytes = some (head, rest)) : rest.length < bytes.length := by
  simp only [head?, bind, Option.bind_eq_some_iff] at found
  obtain ⟨⟨line, afterLine⟩, lineFound, start, _, ⟨fields, afterFields⟩, fieldsFound, same⟩ := found
  split at same
  · cases same
    exact Nat.lt_of_lt_of_le
      (Nat.lt_trans (length_of_fields? fieldsFound) (length_of_line? lineFound))
      (length_skipEmptyLines_le bytes)
  · cases same

/-- Reads the reply to a request of the given method. Replies that precede it are passed over. -/
def read? (method : String) (bytes : List UInt8) : Option Reply :=
  match found : head? bytes with
  | none => none
  | some (head, rest) =>
    have _shorter : rest.length < bytes.length := length_of_head? found
    if isInterim head.status then read? method rest
    else
      (extent? method head).map fun extent =>
        let (body, complete) := bodyWithin rest extent
        { status := head.status, fields := head.fields, body, complete }
termination_by bytes.length

end Reply

end Fixity.Http
