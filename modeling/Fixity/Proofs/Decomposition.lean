/-
This file proves that an identifier is not lost in its parts. By its slashes it has
one of three shapes: a bare name, an institution and the name of a bag, or both and a
path. The institution can always be told, the bag from one slash on, and the path from
two on; put together again, with slashes between them, they are the identifier. Bag
and path alone determine it wherever there is a bag. Bare names have neither, and only
the institution tells them apart.
-/

import Fixity.Proofs.Identifiers

namespace Fixity.Catalog

/-! ### Shapes of identifiers -/

/-- The number of slashes in an identifier. -/
def slashes (identifier : String) : Nat :=
  identifier.toList.count '/'

/-- An identifier of two parts, neither of which holds a slash. -/
structure Pair (identifier institution name : String) : Prop where
  whole : identifier = institution ++ "/" ++ name
  institution : '/' ∉ institution.toList
  name : '/' ∉ name.toList

theorem Pair.toList_identifier {identifier institution name : String}
    (pair : Pair identifier institution name) :
    identifier.toList = institution.toList ++ '/' :: name.toList := by
  rw [pair.whole, String.toList_append, String.toList_append, List.append_assoc]
  rfl

theorem slashes_eq_zero_iff {identifier : String} :
    slashes identifier = 0 ↔ '/' ∉ identifier.toList :=
  List.count_eq_zero

theorem Pair.slashes_eq {identifier institution name : String}
    (pair : Pair identifier institution name) : slashes identifier = 1 := by
  rw [slashes, pair.toList_identifier, List.count_append, List.count_cons_self,
    List.count_eq_zero_of_not_mem pair.institution, List.count_eq_zero_of_not_mem pair.name]

theorem Parts.two_le_slashes {identifier institution name path : String}
    (parts : Parts identifier institution name path) : 2 ≤ slashes identifier := by
  rw [slashes, parts.toList_identifier, List.count_append, List.count_cons_self,
    List.count_append, List.count_cons_self]
  omega

/-- Text with a slash in it is a text without any, a slash, and a rest. -/
theorem exists_first_slash {text : String} (slashed : '/' ∈ text.toList) :
    ∃ front rest, text = front ++ "/" ++ rest ∧ '/' ∉ front.toList := by
  obtain ⟨front, rest, split, whole⟩ := List.eq_append_cons_of_mem slashed
  refine ⟨String.ofList front, String.ofList rest, ?_, by rwa [String.toList_ofList]⟩
  rw [← String.toList_inj, split]
  simp only [String.toList_append, String.toList_ofList, List.append_assoc]
  rfl

/-- Every identifier has one of three shapes. -/
theorem shapes (identifier : String) :
    '/' ∉ identifier.toList ∨ (∃ institution name, Pair identifier institution name) ∨
      ∃ institution name path, Parts identifier institution name path := by
  by_cases slashed : '/' ∈ identifier.toList
  · obtain ⟨institution, rest, rfl, first⟩ := exists_first_slash slashed
    by_cases again : '/' ∈ rest.toList
    · obtain ⟨name, path, rfl, second⟩ := exists_first_slash again
      refine .inr (.inr ⟨institution, name, path, ?_, first, second⟩)
      simp only [String.append_assoc]
    · exact .inr (.inl ⟨institution, rest, rfl, first, again⟩)
  · exact .inl slashed

/-! ### The readings of each shape -/

namespace File

variable {file : File} {institution name path : String}

section Bare

variable (bare : '/' ∉ file.identifier.toList)
include bare

theorem segments_of_bare : file.segments = [file.identifier.toList] := by
  rw [segments, Text.splitAll_eq_iff (List.cons_ne_nil _ _)]
  exact ⟨List.intercalate_singleton, List.forall_mem_singleton.mpr bare⟩

theorem institution_of_bare : file.institution = file.identifier := by
  rw [File.institution, Text.splitFirst?_of_notMem bare]

theorem bag_of_bare : file.bag = none := by
  rw [bag, segments_of_bare bare]
  rfl

theorem pathInBag_of_bare : file.pathInBag = none := by
  rw [pathInBag, segments_of_bare bare]
  rfl

end Bare

section Pair

variable (pair : Pair file.identifier institution name)
include pair

theorem segments_of_pair : file.segments = [institution.toList, name.toList] := by
  rw [segments, Text.splitAll_eq_iff (List.cons_ne_nil _ _), pair.toList_identifier]
  refine ⟨?_, ?_⟩
  · simp only [List.intercalate_cons_cons, List.intercalate_singleton, List.append_assoc]
    rfl
  · simpa using ⟨pair.institution, pair.name⟩

theorem institution_of_pair : file.institution = institution := by
  rw [File.institution, pair.toList_identifier, Text.splitFirst?_append_cons pair.institution]
  exact String.ofList_toList

theorem bag_of_pair : file.bag = some file.identifier := by
  have whole : joinSegments [institution.toList, name.toList] = file.identifier := by
    rw [← segments_of_pair pair, segments, joinSegments_splitAll, String.ofList_toList]
  rw [bag, segments_of_pair pair, if_pos (by simp only [List.length_cons]; omega)]
  exact congrArg some whole

theorem pathInBag_of_pair : file.pathInBag = none := by
  rw [pathInBag, segments_of_pair pair]
  rfl

end Pair

/-! ### What the readings keep -/

/-- The readings of the identifier of a file fit together. -/
structure Decomposed (file : File) : Prop where
  bag_iff : file.bag.isSome = true ↔ 1 ≤ slashes file.identifier
  path_iff : file.pathInBag.isSome = true ↔ 2 ≤ slashes file.identifier
  /-- The institution is what comes before the first slash, or everything. -/
  institution : '/' ∉ file.institution.toList ∧
    ((∃ rest, file.identifier = file.institution ++ "/" ++ rest) ∨
      slashes file.identifier = 0 ∧ file.institution = file.identifier)
  oneSlash : slashes file.identifier = 1 → file.bag = some file.identifier
  /-- The bag is the institution and one further segment, and the path is all that follows. -/
  moreSlashes : 2 ≤ slashes file.identifier → ∃ bag path name,
    file.bag = some bag ∧ file.pathInBag = some path ∧
      file.identifier = bag ++ "/" ++ path ∧
      bag = file.institution ++ "/" ++ name ∧ '/' ∉ name.toList

theorem decomposed_of_bare (bare : '/' ∉ file.identifier.toList) : Decomposed file := by
  have none := slashes_eq_zero_iff.mpr bare
  refine ⟨?_, ?_, ?_, fun one => ?_, fun more => ?_⟩
  · simp [bag_of_bare bare, none]
  · simp [pathInBag_of_bare bare, none]
  · rw [institution_of_bare bare]
    exact ⟨bare, .inr ⟨none, rfl⟩⟩
  · omega
  · omega

theorem decomposed_of_pair (pair : Pair file.identifier institution name) : Decomposed file := by
  have one := pair.slashes_eq
  refine ⟨?_, ?_, ?_, fun _ => bag_of_pair pair, fun more => ?_⟩
  · simp [bag_of_pair pair, one]
  · simp [pathInBag_of_pair pair, one]
  · rw [institution_of_pair pair]
    exact ⟨pair.institution, .inl ⟨name, pair.whole⟩⟩
  · omega

theorem decomposed_of_parts (parts : Parts file.identifier institution name path) :
    Decomposed file := by
  have more := parts.two_le_slashes
  refine ⟨?_, ?_, ?_, fun one => ?_, fun _ => ?_⟩
  · simpa [bag_of_parts parts] using Nat.le_of_succ_le more
  · simpa [pathInBag_of_parts parts] using more
  · rw [institution_of_parts parts]
    refine ⟨parts.institution, .inl ⟨name ++ "/" ++ path, ?_⟩⟩
    rw [parts.whole]
    simp only [String.append_assoc]
  · omega
  · rw [institution_of_parts parts]
    exact ⟨_, path, name, bag_of_parts parts, pathInBag_of_parts parts, parts.whole, rfl,
      parts.name⟩

theorem decomposed (file : File) : Decomposed file := by
  obtain bare | ⟨_, _, pair⟩ | ⟨_, _, _, parts⟩ := shapes file.identifier
  · exact decomposed_of_bare bare
  · exact decomposed_of_pair pair
  · exact decomposed_of_parts parts

/-- Where there is a bag, it is the identifier up to the path. -/
theorem identifier_of_bag {bag : String} (known : file.bag = some bag) :
    file.identifier = bag ++ (file.pathInBag.map ("/" ++ ·)).getD "" := by
  obtain bare | ⟨_, _, pair⟩ | ⟨_, _, _, parts⟩ := shapes file.identifier
  · rw [bag_of_bare bare] at known
    cases known
  · rw [bag_of_pair pair, Option.some.injEq] at known
    rw [pathInBag_of_pair pair, known]
    exact String.append_empty.symm
  · rw [bag_of_parts parts, Option.some.injEq] at known
    rw [pathInBag_of_parts parts, parts.whole, known, String.append_assoc]
    rfl

/-- Where there is none, it is the institution. -/
theorem identifier_of_no_bag (none : file.bag = none) : file.identifier = file.institution := by
  obtain bare | ⟨_, _, pair⟩ | ⟨_, _, _, parts⟩ := shapes file.identifier
  · exact (institution_of_bare bare).symm
  · rw [bag_of_pair pair] at none
    cases none
  · rw [bag_of_parts parts] at none
    cases none

theorem identifier_eq_iff {other : File} :
    other.identifier = file.identifier ↔
      other.bag = file.bag ∧ other.pathInBag = file.pathInBag ∧
        (file.bag.isSome = true ∨ other.institution = file.institution) := by
  constructor
  · intro same
    have segments : other.segments = file.segments := by rw [segments, segments, same]
    refine ⟨?_, ?_, .inr ?_⟩
    · rw [bag, bag, segments]
    · rw [pathInBag, pathInBag, segments]
    · rw [File.institution, File.institution, same]
  · rintro ⟨bags, paths, rest⟩
    cases known : file.bag with
    | some bag => rw [identifier_of_bag (bags.trans known), identifier_of_bag known, paths]
    | none =>
      have institutions : other.institution = file.institution := by simpa [known] using rest
      rw [identifier_of_no_bag (bags.trans known), identifier_of_no_bag known, institutions]

/-- **Identifiers can be put together again.** The parts that are read from an identifier fit
together. Two files have one identifier exactly if they have the same bag and path, and where there
is no bag the same institution. -/
theorem lossless_parts (file : File) :
    Decomposed file ∧ ∀ other : File, other.identifier = file.identifier ↔
      other.bag = file.bag ∧ other.pathInBag = file.pathInBag ∧
        (file.bag.isSome = true ∨ other.institution = file.institution) :=
  ⟨decomposed file, fun _ => identifier_eq_iff⟩

/-- A file that has no more than an identifier. -/
def identified (identifier : String) : File where
  id := 1
  identifier
  uuid := "file"
  size := 1
  storageOption := "Standard"
  institutionId := 1
  intellectualObjectId := 1
  createdAt := .epoch
  updatedAt := .epoch

/-- Two bare names have the same bag and the same path, namely none. -/
theorem identifier_ne_of_bare_names :
    (identified "a").bag = (identified "b").bag ∧
      (identified "a").pathInBag = (identified "b").pathInBag ∧
      (identified "a").identifier ≠ (identified "b").identifier := by
  have one : '/' ∉ (identified "a").identifier.toList := by decide
  have other : '/' ∉ (identified "b").identifier.toList := by decide
  refine ⟨?_, ?_, by decide⟩
  · rw [bag_of_bare one, bag_of_bare other]
  · rw [pathInBag_of_bare one, pathInBag_of_bare other]

end File

end Fixity.Catalog
