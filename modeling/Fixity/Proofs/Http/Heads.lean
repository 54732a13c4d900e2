/-
This file proves that the head that a server writes is the head that a client reads:
the status comes back, and the header fields in their order, each name in lower case
and each value without its padding. A request for a head gets nothing more, whatever
follows on the connection. What can go wrong is that the head is more than a client
takes: it has too many fields or bytes, or a name in it is too long.
-/

import Fixity.Http.Reply
import Fixity.Proofs.Text.Cutting

namespace Fixity.Http

/-! ### Header lines -/

/-- A header as a server writes it: a name in any letter case, and a value of the bytes that a value
may hold, padding included. -/
structure Header where
  name : List UInt8
  value : List UInt8
  named : name ≠ []
  nameBytes : ∀ b ∈ name, isNameByte b = true
  valueBytes : ∀ b ∈ value, isValueByte b = true

namespace Header

def line (header : Header) : List UInt8 :=
  header.name ++ 0x3A :: header.value

/-- The field that a client takes a header for. -/
def field (header : Header) : Field :=
  ⟨Text.lowerAsciiString (String.ofList (asciiText header.name)), trimPadding header.value⟩

end Header

theorem mem_of_mem_trimPadding {bytes : List UInt8} {b : UInt8} (member : b ∈ trimPadding bytes) :
    b ∈ bytes := by
  have later := (List.dropWhile_sublist isPadding).mem (List.mem_reverse.mp member)
  exact (List.dropWhile_sublist isPadding).mem (List.mem_reverse.mp later)

theorem ne_lineFeed_of_isNameByte {b : UInt8} (held : isNameByte b = true) : b ≠ 0x0A := by
  rintro rfl
  exact absurd held (by decide)

theorem ne_lineFeed_of_isValueByte {b : UInt8} (held : isValueByte b = true) : b ≠ 0x0A := by
  rintro rfl
  exact absurd held (by decide)

namespace Header

theorem line_ne_nil (header : Header) : header.line ≠ [] :=
  List.append_ne_nil_of_right_ne_nil _ (List.cons_ne_nil _ _)

theorem ne_lineFeed_of_mem_line {header : Header} {b : UInt8} (member : b ∈ header.line) :
    b ≠ 0x0A := by
  obtain name | rfl | value : b ∈ header.name ∨ b = 0x3A ∨ b ∈ header.value := by
    simpa only [line, List.mem_append, List.mem_cons] using member
  · exact ne_lineFeed_of_isNameByte (header.nameBytes b name)
  · decide
  · exact ne_lineFeed_of_isValueByte (header.valueBytes b value)

end Header

namespace Reply

/-! ### Reading lines -/

theorem cutLine?_append {line : List UInt8} (whole : ∀ b ∈ line, b ≠ 0x0A) (rest : List UInt8) :
    cutLine? (line ++ 0x0A :: rest) = some (line, rest) := by
  induction line with
  | nil => rfl
  | cons b line inductionHypothesis =>
    obtain ⟨first, others⟩ := List.forall_mem_cons.mp whole
    rw [List.cons_append, cutLine?, if_neg first, inductionHypothesis others, Option.map_some]

theorem line?_append (strict : Bool) {line : List UInt8} (whole : ∀ b ∈ line, b ≠ 0x0A)
    (rest : List UInt8) : line? strict (line ++ 0x0D :: 0x0A :: rest) = some (line, rest) := by
  have returned : ∀ b ∈ line ++ [0x0D], b ≠ 0x0A := by
    intro b member
    obtain inside | rfl : b ∈ line ∨ b = 0x0D := by simpa using member
    · exact whole b inside
    · decide
  have cut := cutLine?_append returned rest
  rw [List.append_assoc, List.singleton_append] at cut
  simp only [line?, cut, List.getLast?_concat, List.dropLast_concat, if_true]

/-- A header with a name that is not too long is read as its field. -/
theorem field?_line (header : Header) (brief : header.name.length ≤ longestName) :
    field? header.line = some header.field := by
  have name : header.line.takeWhile isNameByte = header.name := by
    rw [Header.line, List.takeWhile_append_of_pos header.nameBytes,
      List.takeWhile_cons_of_neg (by decide), List.append_nil]
  have present : header.name.isEmpty = false := List.isEmpty_eq_false_iff.mpr header.named
  have value : (trimPadding header.value).all isValueByte = true :=
    List.all_eq_true.mpr fun b member => header.valueBytes b (mem_of_mem_trimPadding member)
  have rest : header.line.drop header.name.length = 0x3A :: header.value := List.drop_left
  simp [field?, name, rest, present, value, Nat.not_lt.mpr brief, Header.field]

/-! ### Reading fields -/

/-- The fields after a line that was found. The recursion of the reader is opened here and nowhere
else. -/
theorem fields?_of_line? {strict : Bool} {bytes line rest : List UInt8}
    (found : line? strict bytes = some (line, rest)) :
    fields? strict bytes =
      if line.isEmpty then some ([], rest)
      else
        (field? line).bind fun field =>
          (fields? strict rest).map fun (others, rest) => (field :: others, rest) := by
  rw [fields?]
  split
  next missing => cases missing.symm.trans found
  next other after otherFound =>
    obtain ⟨rfl, rfl⟩ := Prod.mk.inj (Option.some.inj (otherFound.symm.trans found))
    cases field? other <;> rfl

/-- The lines of some headers, and the empty line after them. -/
def headerLines (headers : List Header) : List UInt8 :=
  headers.flatMap (fun header => header.line ++ [0x0D, 0x0A]) ++ [0x0D, 0x0A]

/-- Headers are read as their fields, in their order. -/
theorem fields?_headerLines (strict : Bool) {headers : List Header}
    (brief : ∀ header ∈ headers, header.name.length ≤ longestName) (rest : List UInt8) :
    fields? strict (headerLines headers ++ rest) = some (headers.map Header.field, rest) := by
  induction headers with
  | nil =>
    have empty : line? strict (headerLines [] ++ rest) = some ([], rest) :=
      line?_append strict (List.forall_mem_nil _) rest
    exact fields?_of_line? empty
  | cons header headers inductionHypothesis =>
    have split : headerLines (header :: headers) ++ rest =
        header.line ++ 0x0D :: 0x0A :: (headerLines headers ++ rest) := by
      simp [headerLines]
    have first := line?_append strict (fun _ => header.ne_lineFeed_of_mem_line)
      (headerLines headers ++ rest)
    have filled : header.line.isEmpty = false := List.isEmpty_eq_false_iff.mpr header.line_ne_nil
    obtain ⟨short, others⟩ := List.forall_mem_cons.mp brief
    rw [split, fields?_of_line? first, filled, if_neg Bool.false_ne_true, field?_line header short,
      inductionHypothesis others, Option.bind_some, Option.map_some, List.map_cons]

end Reply

/-! ### The head -/

/-- The head of a reply as a server writes it: a code of three digits that is final, a phrase, and
headers. -/
structure Response where
  code : Nat
  phrase : List UInt8
  headers : List Header
  final : 200 ≤ code
  short : code < 1000
  phraseBytes : ∀ b ∈ phrase, isValueByte b = true

namespace Response

def status (response : Response) : Status :=
  ⟨response.code⟩

def fields (response : Response) : Fields :=
  response.headers.map Header.field

/-- The reply that is a head alone. -/
def reply (response : Response) : Reply :=
  { status := response.status, fields := response.fields, body := [] }

/-- A decimal digit. -/
def digit (n : Nat) : UInt8 :=
  UInt8.ofNat (0x30 + n)

/-- The status line without its end. -/
def statusLine (response : Response) : List UInt8 :=
  Text.Utf8.encode "HTTP/1.1 ".toList ++
    [digit (response.code / 100), digit (response.code / 10 % 10), digit (response.code % 10)] ++
    0x20 :: response.phrase

/-- The bytes of a head. -/
def bytes (response : Response) : List UInt8 :=
  response.statusLine ++ [0x0D, 0x0A] ++ Reply.headerLines response.headers

/-- A client takes the head: neither the headers nor the bytes are too many, and no name is too
long. -/
structure Fits (response : Response) : Prop where
  few : response.headers.length ≤ Reply.mostFields
  brief : ∀ header ∈ response.headers, header.name.length ≤ Reply.longestName
  small : response.bytes.length ≤ Reply.longestHead

theorem digit_spec {n : Nat} (small : n < 10) :
    Text.decimalDigit (Char.ofNat (digit n).toNat) = some n ∧ isValueByte (digit n) = true := by
  revert n
  decide

end Response

namespace Reply

theorem statusLine?_statusLine (response : Response) :
    statusLine? response.statusLine = some { minor := 1, status := response.status } := by
  have bound : response.code / 100 < 10 := Nat.div_lt_of_lt_mul response.short
  obtain ⟨hundreds, -⟩ := Response.digit_spec bound
  obtain ⟨tens, -⟩ := Response.digit_spec (Nat.mod_lt (response.code / 10) (by decide : 0 < 10))
  obtain ⟨ones, -⟩ := Response.digit_spec (Nat.mod_lt response.code (by decide : 0 < 10))
  have text : asciiText response.statusLine =
      "HTTP/1.".toList ++ '1' :: ' ' :: Char.ofNat (Response.digit (response.code / 100)).toNat ::
        Char.ofNat (Response.digit (response.code / 10 % 10)).toNat ::
        Char.ofNat (Response.digit (response.code % 10)).toNat :: ' ' ::
        asciiText response.phrase :=
    rfl
  have after : (response.statusLine.drop 12).all isValueByte = true := by
    have rest : response.statusLine.drop 12 = 0x20 :: response.phrase := rfl
    rw [rest, List.all_cons, List.all_eq_true.mpr response.phraseBytes]
    rfl
  -- The three digits are put together again.
  have code : 100 * (response.code / 100) + 10 * (response.code / 10 % 10) + response.code % 10 =
      response.code := by
    omega
  have final : 100 ≤ response.code := Nat.le_trans (by decide) response.final
  rw [statusLine?, text, Text.dropBeginning?_append]
  simp [after, hundreds, tens, ones, code, final, Response.status]

theorem ne_lineFeed_of_mem_statusLine {response : Response} {b : UInt8}
    (member : b ∈ response.statusLine) : b ≠ 0x0A := by
  have bound : response.code / 100 < 10 := Nat.div_lt_of_lt_mul response.short
  have split : response.statusLine = Text.Utf8.encode "HTTP/1.1 ".toList ++
      [Response.digit (response.code / 100), Response.digit (response.code / 10 % 10),
        Response.digit (response.code % 10)] ++ 0x20 :: response.phrase := rfl
  have digits : ∀ n < 10, Response.digit n ≠ 0x0A := fun n small =>
    ne_lineFeed_of_isValueByte (Response.digit_spec small).2
  have version : ∀ b ∈ Text.Utf8.encode "HTTP/1.1 ".toList, b ≠ 0x0A := by
    decide +kernel
  rw [split] at member
  simp only [List.mem_append, List.mem_cons, List.not_mem_nil, or_false] at member
  obtain (start | rfl | rfl | rfl) | rfl | phrase := member
  · exact version b start
  · exact digits _ bound
  · exact digits _ (Nat.mod_lt _ (by decide))
  · exact digits _ (Nat.mod_lt _ (by decide))
  · decide
  · exact ne_lineFeed_of_isValueByte (response.phraseBytes b phrase)

theorem head?_bytes {response : Response} (fits : response.Fits) (rest : List UInt8) :
    head? (response.bytes ++ rest) =
      some ({ minor := 1, status := response.status, fields := response.fields }, rest) := by
  have split : response.bytes ++ rest =
      response.statusLine ++ 0x0D :: 0x0A :: (headerLines response.headers ++ rest) := by
    simp [Response.bytes]
  have start : skipEmptyLines (response.bytes ++ rest) = response.bytes ++ rest := rfl
  have whole : ∀ b ∈ response.statusLine, b ≠ 0x0A := fun _ => ne_lineFeed_of_mem_statusLine
  have first := line?_append false whole (headerLines response.headers ++ rest)
  have fields := fields?_headerLines false fits.brief rest
  have taken : (response.headers.map Header.field).length ≤ mostFields ∧
      (response.bytes ++ rest).length - rest.length ≤ longestHead := by
    rw [List.length_map, List.length_append, Nat.add_sub_cancel]
    exact ⟨fits.few, fits.small⟩
  rw [← split] at first
  simp only [head?, start, first, statusLine?_statusLine, fields, Option.bind_eq_bind,
    Option.bind_some, if_pos taken]
  rfl

/-- **A head is read as it was written.** The reply to a request for a head has the status and the
fields that the server wrote, whatever follows. -/
theorem read?_bytes {response : Response} (fits : response.Fits) (rest : List UInt8) :
    read? "HEAD" (response.bytes ++ rest) = some response.reply := by
  have found := head?_bytes fits rest
  -- A final reply is not passed over in wait of another one.
  have settled : isInterim response.status = false := by
    have late : ¬ response.code ≤ 199 := Nat.not_le.mpr response.final
    simp [isInterim, Status.isInformational, Response.status, late]
  rw [read?]
  split
  next missing => cases missing.symm.trans found
  next head after otherFound =>
    obtain ⟨rfl, rfl⟩ := Prod.mk.inj (Option.some.inj (otherFound.symm.trans found))
    have extent :
        extent? "HEAD" { minor := 1, status := response.status, fields := response.fields } =
          some .empty :=
      if_pos (.inr (.inr (.inr rfl)))
    simp only [settled, Bool.false_eq_true, if_false, extent]
    rfl

end Reply

end Fixity.Http
