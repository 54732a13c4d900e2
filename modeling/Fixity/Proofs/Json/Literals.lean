/-
This file proves that the literals of JSON are read as what they were written from:
a string literal as its text, whichever characters are escaped in it, and a number as
its integer, wherever a value may end.
-/

import Fixity.Json.Printer
import Fixity.Json.Reader
import Fixity.Proofs.Text.Decimal
import Fixity.Proofs.Text.Hexadecimal

namespace Fixity.Json

open Reader Text

/-- The source of a text. -/
def sourceOf (text : List Char) : Source :=
  text.map .scalar

/-! ### Strings -/

/-- A unit denotes a character: the character itself, or the code of a control character. -/
inductive Denotes : Unit16 → Char → Prop where
  | scalar (c : Char) : Denotes (.scalar c) c
  | escaped (c : Char) (control : c.toNat < 0x20) : Denotes (.escaped c.toNat) c

theorem textOfUnits_cons {unit : Unit16} {c : Char} (denotes : Denotes unit c)
    (rest : List Unit16) : textOfUnits (unit :: rest) = (textOfUnits rest).map (c :: ·) := by
  cases denotes with
  | scalar => simp only [textOfUnits]
  | escaped control =>
    have high : isHighHalf c.toNat = false := by
      simp only [isHighHalf, Bool.and_eq_false_iff, decide_eq_false_iff_not]
      omega
    have low : isLowHalf c.toNat = false := by
      simp only [isLowHalf, Bool.and_eq_false_iff, decide_eq_false_iff_not]
      omega
    cases rest with
    | nil => simp [textOfUnits, high, low]
    | cons next rest => cases next <;> simp [textOfUnits, high, low]

theorem units_letter {letter c : Char} (other : letter ≠ 'u')
    (escape : escapedLetter letter = some c) (rest : Source) :
    units (sourceOf ['\\', letter] ++ rest) =
      (units rest).map fun (more, after) => (.scalar c :: more, after) := by
  simp only [sourceOf, List.map_cons, List.map_nil, List.cons_append, List.nil_append, other,
    imp_self, implies_true, units, escape, Option.pure_def, Option.bind_eq_bind, Option.bind_some,
    Option.map_eq_bind]
  rfl

theorem units_plain {c : Char} (quote : c ≠ '"') (backslash : c ≠ '\\') (large : ¬ c.toNat < 0x20)
    (rest : Source) :
    units (sourceOf [c] ++ rest) =
      (units rest).map fun (more, after) => (.scalar c :: more, after) := by
  simp only [sourceOf, List.map_cons, List.map_nil, List.cons_append, List.nil_append, backslash,
    imp_self, implies_true, units, large, or_self, if_false, Option.pure_def, Option.bind_eq_bind,
    Option.map_eq_bind]
  rfl

theorem units_code {c : Char} (control : c.toNat < 0x20) (rest : Source) :
    units (sourceOf (['\\', 'u', '0', '0'] ++ Hex.lowerByte (UInt8.ofNat c.toNat)) ++ rest) =
      (units rest).map fun (more, after) => (.escaped c.toNat :: more, after) := by
  have byte : (UInt8.ofNat c.toNat).toNat = c.toNat := by
    rw [UInt8.toNat_ofNat']
    omega
  have high : Hex.digitValue (Hex.lowerDigit (c.toNat / 16)) = some (c.toNat / 16) :=
    Hex.digitValue_lowerDigit (by omega)
  have low : Hex.digitValue (Hex.lowerDigit (c.toNat % 16)) = some (c.toNat % 16) :=
    Hex.digitValue_lowerDigit (by omega)
  have zero : Hex.digitValue '0' = some 0 := rfl
  have digits : fourDigits (.scalar '0') (.scalar '0') (.scalar (Hex.lowerDigit (c.toNat / 16)))
      (.scalar (Hex.lowerDigit (c.toNat % 16))) = some c.toNat := by
    simp only [fourDigits, Utf8.Piece.scalar?, Option.bind_eq_bind, Option.bind_some, zero, high,
      low]
    refine congrArg some ?_
    omega
  simp only [sourceOf, Hex.lowerByte, byte, List.map_cons, List.map_nil, List.cons_append,
    List.nil_append, units, digits, Option.map_eq_bind]
  rfl

/-- A character is written by a letter, by its code, or as it is. -/
theorem writeChar_cases (c : Char) :
    (∃ letter, writeChar c = ['\\', letter] ∧ letter ≠ 'u' ∧ escapedLetter letter = some c) ∨
    (writeChar c = ['\\', 'u', '0', '0'] ++ Hex.lowerByte (UInt8.ofNat c.toNat) ∧
      c.toNat < 0x20) ∨
    (writeChar c = [c] ∧ c ≠ '"' ∧ c ≠ '\\' ∧ ¬ c.toNat < 0x20) := by
  by_cases lettered : c ∈ ['"', '\\', '\x08', '\x0C', '\n', '\r', '\t']
  · simp only [List.mem_cons, List.not_mem_nil, or_false] at lettered
    rcases lettered with rfl | rfl | rfl | rfl | rfl | rfl | rfl <;>
      exact .inl ⟨_, rfl, by decide, rfl⟩
  · simp only [List.mem_cons, List.not_mem_nil, or_false, not_or] at lettered
    obtain ⟨quote, backslash, backspace, feed, newline, carriage, tab⟩ := lettered
    unfold writeChar
    rw [if_neg quote, if_neg backslash, if_neg backspace, if_neg feed, if_neg newline,
      if_neg carriage, if_neg tab]
    by_cases control : c.toNat < 0x20
    · rw [if_pos control]
      exact .inr (.inl ⟨rfl, control⟩)
    · rw [if_neg control]
      exact .inr (.inr ⟨rfl, quote, backslash, control⟩)

/-- A written character is read as a unit that denotes it. -/
theorem exists_units_writeChar (c : Char) :
    ∃ unit, Denotes unit c ∧ ∀ rest : Source,
      units (sourceOf (writeChar c) ++ rest) =
        (units rest).map fun (more, after) => (unit :: more, after) := by
  rcases writeChar_cases c with ⟨letter, written, other, escape⟩ | ⟨written, control⟩ |
    ⟨written, quote, backslash, large⟩
  · rw [written]
    exact ⟨_, .scalar c, units_letter other escape⟩
  · rw [written]
    exact ⟨_, .escaped c control, units_code control⟩
  · rw [written]
    exact ⟨_, .scalar c, units_plain quote backslash large⟩

/-- A written text is read as units that denote it. -/
theorem exists_units_flatMap (text : List Char) (rest : Source) :
    ∃ found, units (sourceOf (text.flatMap writeChar) ++ .scalar '"' :: rest) = some (found, rest) ∧
      textOfUnits found = some text := by
  induction text with
  | nil => exact ⟨[], by simp [sourceOf, units], rfl⟩
  | cons c text inductionHypothesis =>
    obtain ⟨unit, denotes, head⟩ := exists_units_writeChar c
    obtain ⟨found, tail, same⟩ := inductionHypothesis
    refine ⟨unit :: found, ?_, ?_⟩
    · rw [List.flatMap_cons, sourceOf, List.map_append, List.append_assoc]
      exact (head _).trans (by rw [← sourceOf, tail]; rfl)
    · rw [textOfUnits_cons denotes, same]
      rfl

/-- A string literal is read as its text. -/
theorem stringContent_writeString (content : String) (rest : Source) :
    ∃ literal, writeString (some content) = '"' :: literal ∧
      stringContent (sourceOf literal ++ rest) = some (some content, rest) := by
  obtain ⟨found, read, same⟩ := exists_units_flatMap content.toList rest
  refine ⟨content.toList.flatMap writeChar ++ ['"'], rfl, ?_⟩
  have source : sourceOf (content.toList.flatMap writeChar ++ ['"']) ++ rest =
      sourceOf (content.toList.flatMap writeChar) ++ .scalar '"' :: rest := by
    simp [sourceOf]
  rw [source, stringContent, read]
  simp [same]

/-! ### Numbers -/

/-- A source at which a value has ended: it is empty, or it goes on with what separates values or
closes them. -/
def Ends (rest : Source) : Prop :=
  ∀ c after, rest = .scalar c :: after → c = ',' ∨ c = ']' ∨ c = '\x7d'

theorem ends_nil : Ends [] :=
  nofun

theorem ends_cons {c : Char} (after : Source) (closing : c = ',' ∨ c = ']' ∨ c = '\x7d') :
    Ends (.scalar c :: after) := by
  rintro _ _ ⟨⟩
  exact closing

/-- Nothing of a number is found where a value has ended. -/
theorem Ends.number_parts {rest : Source} (ends : Ends rest) :
    digits rest = ([], rest) ∧ fractionPart rest = some ([], rest) ∧
      exponentPart rest = some ([], rest) := by
  cases rest with
  | nil => exact ⟨rfl, rfl, rfl⟩
  | cons piece after =>
    cases piece with
    | broken bytes => exact ⟨rfl, rfl, rfl⟩
    | scalar c =>
      rcases ends c after rfl with rfl | rfl | rfl <;> exact ⟨rfl, rfl, rfl⟩

theorem digits_append {found : List Char} {rest : Source}
    (each : ∀ c ∈ found, c.isDigit = true) (ends : Ends rest) :
    digits (sourceOf found ++ rest) = (found, rest) := by
  induction found with
  | nil => exact ends.number_parts.1
  | cons c found inductionHypothesis =>
    have digit : (decimalDigit c).isSome = true := by
      rw [isSome_decimalDigit]
      exact each c List.mem_cons_self
    have tail := inductionHypothesis fun d member => each d (List.mem_cons_of_mem c member)
    show digits (.scalar c :: (sourceOf found ++ rest)) = _
    rw [digits, if_pos digit, tail]

theorem integerPart_writeNat (n : Nat) {rest : Source} (ends : Ends rest) :
    integerPart (sourceOf (writeNat n) ++ rest) = some (writeNat n, rest) := by
  by_cases zero : n = 0
  · subst zero
    rfl
  · obtain ⟨c, found, cons, -, first⟩ := exists_cons_writeNat n
    have read : digits (sourceOf (writeNat n) ++ rest) = (writeNat n, rest) :=
      digits_append (fun c member => isDigit_of_mem_writeNat member) ends
    unfold integerPart
    rw [cons] at read ⊢
    simp only [sourceOf, List.map_cons, List.cons_append] at read ⊢
    split
    · next same =>
      cases same
      exact absurd (first rfl) zero
    · rw [read]
      rfl

theorem unsignedNumber_writeNat (negative : Bool) (n : Nat) {rest : Source} (ends : Ends rest)
    (proper : negative = true → 0 < n) :
    unsignedNumber negative (sourceOf (writeNat n) ++ rest) =
      some (.integer (if negative then -(n : Int) else n), rest) := by
  have value : natOfDigits (writeNat n) = n := ofDigitChars_writeNat n
  obtain ⟨-, fraction, exponent⟩ := ends.number_parts
  have plain : (negative && n == 0) = false := by
    cases negative with
    | false => rfl
    | true => simpa using Nat.ne_of_gt (proper rfl)
  unfold unsignedNumber
  rw [integerPart_writeNat n ends]
  simp only [Option.bind_eq_bind, Option.bind_some, fraction, exponent, value, plain]
  rfl

theorem exists_cons_writeInt (n : Int) :
    ∃ c tail, writeInt n = c :: tail ∧ (c = '-' ∨ c.isDigit = true) := by
  cases n with
  | ofNat n =>
    obtain ⟨c, tail, cons, digit, -⟩ := exists_cons_writeNat n
    exact ⟨c, tail, cons, .inr digit⟩
  | negSucc n => exact ⟨_, _, rfl, .inl rfl⟩

theorem number_writeInt (n : Int) {rest : Source} (ends : Ends rest) :
    number (sourceOf (writeInt n) ++ rest) = some (.integer n, rest) := by
  cases n with
  | ofNat n =>
    have read := unsignedNumber_writeNat false n ends nofun
    obtain ⟨c, found, cons, digit, -⟩ := exists_cons_writeNat n
    have unsigned : c ≠ '-' := by
      rintro rfl
      cases digit
    unfold number
    rw [writeInt]
    rw [cons] at read ⊢
    simp only [sourceOf, List.map_cons, List.cons_append] at read ⊢
    split
    · next same =>
      cases same
      exact absurd rfl unsigned
    · exact read
  | negSucc n => exact unsignedNumber_writeNat true (n + 1) ends fun _ => Nat.succ_pos n

end Fixity.Json
