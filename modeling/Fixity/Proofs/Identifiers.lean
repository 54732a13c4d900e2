/-
This file reads the identifier of a file as three parts: its institution, the name
of its bag, and its path in the bag. The first two hold no slash, and a slash comes
after each. The catalog's readings of an identifier cut it in two different ways,
and agree on these parts: a file has a path in a bag exactly when its identifier has
the three parts, and then its institution and its bag are made of the first two.
-/

import Fixity.Catalog.File
import Fixity.Proofs.Text.Cutting

namespace Fixity.Catalog

/-! ### Parts -/

/-- An identifier of three parts. Only the last may hold slashes, and all may be empty. -/
structure Parts (identifier institution name path : String) : Prop where
  whole : identifier = institution ++ "/" ++ name ++ "/" ++ path
  institution : '/' ∉ institution.toList
  name : '/' ∉ name.toList

theorem Parts.toList_identifier {identifier institution name path : String}
    (parts : Parts identifier institution name path) :
    identifier.toList = institution.toList ++ '/' :: (name.toList ++ '/' :: path.toList) := by
  rw [parts.whole]
  simp only [String.toList_append, List.append_assoc]
  rfl

/-- Segments between slashes put together again. -/
theorem joinSegments_splitAll (text : List Char) :
    File.joinSegments (Text.splitAll '/' text) = String.ofList text := by
  rw [File.joinSegments, Text.splitAll_eq_splitOn, List.intercalate_splitOn]

/-! ### The readings of an identifier -/

namespace File

variable {file : File} {institution name path : String}

/-- The segments of an identifier of three parts: one for each of the first two, and those of the
path. -/
theorem segments_of_parts (parts : Parts file.identifier institution name path) :
    file.segments =
      institution.toList :: name.toList :: Text.splitAll '/' path.toList := by
  rw [segments, parts.toList_identifier, Text.splitAll_append_cons parts.institution,
    Text.splitAll_append_cons parts.name]

theorem institution_of_parts (parts : Parts file.identifier institution name path) :
    file.institution = institution := by
  rw [File.institution, parts.toList_identifier, Text.splitFirst?_append_cons parts.institution]
  exact String.ofList_toList

theorem bag_of_parts (parts : Parts file.identifier institution name path) :
    file.bag = some (institution ++ "/" ++ name) := by
  rw [bag, segments_of_parts parts, if_pos (by simp only [List.length_cons]; omega)]
  refine congrArg some (String.toList_inj.mp ?_)
  simp only [joinSegments, List.take, List.intercalate_cons_cons, List.intercalate_singleton,
    String.toList_ofList, String.toList_append]
  rfl

theorem pathInBag_of_parts (parts : Parts file.identifier institution name path) :
    file.pathInBag = some path := by
  have present := List.length_pos_iff.mpr (Text.splitAll_ne_nil '/' path.toList)
  rw [pathInBag, segments_of_parts parts, if_pos (by simp only [List.length_cons]; omega)]
  show some (joinSegments (Text.splitAll '/' path.toList)) = some path
  rw [joinSegments_splitAll, String.ofList_toList]

/-- Only an identifier of three parts has a path in a bag. -/
theorem exists_parts_of_pathInBag (known : file.pathInBag = some path) :
    ∃ institution name, Parts file.identifier institution name path := by
  rw [pathInBag] at known
  split at known
  case isFalse => cases known
  case isTrue enough =>
    obtain ⟨institution, name, first, rest, cut⟩ :
        ∃ institution name first rest, file.segments = institution :: name :: first :: rest := by
      match file.segments, enough with
      | institution :: name :: first :: rest, _ => exact ⟨institution, name, first, rest, rfl⟩
    have path : joinSegments (first :: rest) = path := by
      rw [cut] at known
      exact Option.some.inj known
    obtain ⟨joined, unslashed⟩ := (Text.splitAll_eq_iff (List.cons_ne_nil _ _)).mp cut
    refine ⟨String.ofList institution, String.ofList name, ?_, ?_, ?_⟩
    · rw [← String.toList_inj, ← joined, ← path]
      simp only [joinSegments, List.intercalate_cons_cons, String.toList_append,
        String.toList_ofList, List.append_assoc]
      rfl
    · rw [String.toList_ofList]
      exact unslashed institution List.mem_cons_self
    · rw [String.toList_ofList]
      exact unslashed name (List.mem_cons_of_mem _ List.mem_cons_self)

end File

end Fixity.Catalog
