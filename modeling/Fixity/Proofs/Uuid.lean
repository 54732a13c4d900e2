/-
This file proves that an identifier is read back from its text: the hyphens are found
between its groups, and the digits of the groups are those of its bytes.
-/

import Fixity.Proofs.Text.Cutting
import Fixity.Proofs.Text.Hexadecimal
import Fixity.Uuid

namespace Fixity.Uuid

open Text

theorem length_writeGroup (bytes : List UInt8) : (writeGroup bytes).length = 2 * bytes.length :=
  Hex.length_flatMap_lowerByte bytes

theorem hyphen_notMem_writeGroup (bytes : List UInt8) : '-' ∉ writeGroup bytes := by
  intro member
  cases Hex.isSome_digitValue_of_mem member

/-- The bytes of the five groups. -/
def groups (id : Uuid) : List (List UInt8) :=
  [id.bytes.take 4, (id.bytes.drop 4).take 2, (id.bytes.drop 6).take 2, (id.bytes.drop 8).take 2,
    id.bytes.drop 10]

theorem flatten_groups (id : Uuid) : id.groups.flatten = id.bytes := by
  have cut (n k : Nat) : (id.bytes.drop n).take k ++ id.bytes.drop (n + k) = id.bytes.drop n := by
    rw [← List.drop_drop, List.take_append_drop]
  simp only [groups, List.flatten_cons, List.flatten_nil, List.append_nil]
  rw [cut 8 2, cut 6 2, cut 4 2, List.take_append_drop]

theorem splitAll_write (id : Uuid) : splitAll '-' id.write = id.groups.map writeGroup := by
  have present : id.groups.map writeGroup ≠ [] := List.cons_ne_nil _ _
  rw [splitAll_eq_iff present]
  constructor
  · simp [groups, write, List.intercalate]
  · simp [groups, hyphen_notMem_writeGroup]

/-- **Identifiers are read back.** -/
theorem ofString?_text (id : Uuid) : ofString? id.text = some id := by
  have length : id.write.length = 36 := by
    simp [write, length_writeGroup, id.length_eq]
  have digits : ofDigits? (id.groups.map writeGroup).flatten = some id := by
    have together : (id.groups.map writeGroup).flatten = writeGroup id.bytes := by
      rw [← id.flatten_groups]
      simp only [writeGroup, List.flatMap_def, List.map_flatten, List.flatten_flatten, List.map_map]
      rfl
    rw [ofDigits?, together, writeGroup, Hex.bytes?_flatMap_lowerByte]
    exact dif_pos id.length_eq
  rw [ofString?, text, String.toList_ofList, read?, if_neg (by omega), if_pos length, ofGroups?,
    splitAll_write]
  simp only [groups, List.map_cons, List.map_nil, length_writeGroup]
  rw [if_pos (by simp [id.length_eq])]
  simpa [groups] using digits

end Fixity.Uuid
