/-
This file cuts a byte string into encoded characters and broken pieces. A piece
is broken when its bytes begin an encoding that the next byte does not continue,
or begin none at all; it is as long as the part that could still have been
continued. Strict reading admits no broken piece, lenient reading puts a
replacement character in its place.
-/

namespace Fixity.Text.Utf8

/-! ### Pieces -/

/-- A character with the bytes that encode it, or bytes that encode none. -/
inductive Piece where
  | scalar (c : Char)
  | broken (bytes : List UInt8)
deriving Repr, DecidableEq

/-- What a lead byte announces: how many bytes follow, which values the first of them may take,
and the high bits it contributes. -/
structure Lead where
  following : Nat
  least : UInt8
  greatest : UInt8
  bits : Nat
deriving Repr, DecidableEq

/-- The lead bytes of the encodings of two, three and four bytes. The bounds on the second byte
exclude overlong forms, surrogates and values above the last code point. -/
def lead? (b : UInt8) : Option Lead :=
  if 0xC2 ≤ b ∧ b ≤ 0xDF then some ⟨1, 0x80, 0xBF, b.toNat % 32⟩
  else if b = 0xE0 then some ⟨2, 0xA0, 0xBF, 0⟩
  else if b = 0xED then some ⟨2, 0x80, 0x9F, 13⟩
  else if 0xE1 ≤ b ∧ b ≤ 0xEF then some ⟨2, 0x80, 0xBF, b.toNat % 16⟩
  else if b = 0xF0 then some ⟨3, 0x90, 0xBF, 0⟩
  else if 0xF1 ≤ b ∧ b ≤ 0xF3 then some ⟨3, 0x80, 0xBF, b.toNat % 8⟩
  else if b = 0xF4 then some ⟨3, 0x80, 0x8F, 4⟩
  else none

/-- A byte that may follow the lead. -/
def Lead.admits (lead : Lead) (b : UInt8) : Bool :=
  lead.least ≤ b && b ≤ lead.greatest

/-- A byte that may follow after the second. -/
def isContinuation (b : UInt8) : Bool :=
  0x80 ≤ b && b ≤ 0xBF

/-- The character of the collected bits. -/
def scalarOf (bits : List UInt8) (high : Nat) : Piece :=
  .scalar (Char.ofNat (bits.foldl (fun value b => value * 64 + b.toNat % 64) high))

/-- Cuts a byte string into pieces. -/
def pieces : List UInt8 → List Piece
  | [] => []
  | b :: rest =>
    if b < 0x80 then .scalar (Char.ofNat b.toNat) :: pieces rest
    else
      match lead? b with
      | none => .broken [b] :: pieces rest
      | some lead =>
        match rest with
        | [] => [.broken [b]]
        | b₁ :: rest₁ =>
          if !lead.admits b₁ then .broken [b] :: pieces (b₁ :: rest₁)
          else if lead.following = 1 then scalarOf [b₁] lead.bits :: pieces rest₁
          else
            match rest₁ with
            | [] => [.broken [b, b₁]]
            | b₂ :: rest₂ =>
              if !isContinuation b₂ then .broken [b, b₁] :: pieces (b₂ :: rest₂)
              else if lead.following = 2 then scalarOf [b₁, b₂] lead.bits :: pieces rest₂
              else
                match rest₂ with
                | [] => [.broken [b, b₁, b₂]]
                | b₃ :: rest₃ =>
                  if !isContinuation b₃ then .broken [b, b₁, b₂] :: pieces (b₃ :: rest₃)
                  else scalarOf [b₁, b₂, b₃] lead.bits :: pieces rest₃

/-! ### Readings -/

/-- The character of a piece that is not broken. -/
def Piece.scalar? : Piece → Option Char
  | .scalar c => some c
  | .broken _ => none

/-- The text that the bytes encode, or nothing when a piece is broken. -/
def decode? (bytes : List UInt8) : Option (List Char) :=
  (pieces bytes).mapM Piece.scalar?

/-- The text that the bytes encode, with a replacement character for each broken piece. -/
def decodeLenient (bytes : List UInt8) : List Char :=
  (pieces bytes).map fun piece => piece.scalar?.getD '\uFFFD'

/-- The bytes that encode a text. -/
def encode (text : List Char) : List UInt8 :=
  text.flatMap String.utf8EncodeChar

/-- The pieces of a text, none of them broken. -/
def piecesOf (text : String) : List Piece :=
  text.toList.map .scalar

end Fixity.Text.Utf8
