/-
This file speaks of the digests that the catalog registers for a file: the newest
one of an algorithm is one of those that are registered for it, and there is none
only where none is registered.
-/

import Fixity.Catalog.File
import Fixity.Proofs.Choice

namespace Fixity.Catalog

theorem laterChecksum_eq_some {best : Option Checksum} {next newest : Checksum}
    (found : laterChecksum best next = some newest) : best = some newest ∨ next = newest := by
  cases best with
  | none => exact .inr (Option.some.inj found)
  | some best =>
    rw [laterChecksum] at found
    split at found
    · exact .inr (Option.some.inj found)
    · exact .inl found

theorem laterChecksum_ne_none (best : Option Checksum) (next : Checksum) :
    laterChecksum best next ≠ none := by
  cases best with
  | none => exact Option.some_ne_none next
  | some best =>
    rw [laterChecksum]
    split <;> exact Option.some_ne_none _

namespace File

theorem mem_of_latestChecksum {file : File} {algorithm : String} {checksum : Checksum}
    (latest : file.latestChecksum algorithm = some checksum) :
    checksum ∈ file.checksums ∧ checksum.algorithm = algorithm := by
  obtain nothing | member := foldl_choose_eq_some laterChecksum_eq_some latest
  · cases nothing
  · obtain ⟨registered, same⟩ := List.mem_filter.mp member
    exact ⟨registered, beq_iff_eq.mp same⟩

theorem latestDigest_eq_some_iff {file : File} {algorithm digest : String} :
    file.latestDigest algorithm = some digest ↔
      ∃ checksum, file.latestChecksum algorithm = some checksum ∧ checksum.digest = digest := by
  rw [latestDigest, Option.map_eq_some_iff]

theorem latestChecksum_eq_none_iff {file : File} {algorithm : String} :
    file.latestChecksum algorithm = none ↔
      ∀ checksum ∈ file.checksums, checksum.algorithm ≠ algorithm := by
  rw [latestChecksum, foldl_choose_eq_none_iff laterChecksum_ne_none]
  simp only [true_and, List.filter_eq_nil_iff, beq_iff_eq, ne_eq]

theorem latestDigest_eq_none_iff {file : File} {algorithm : String} :
    file.latestDigest algorithm = none ↔
      ∀ checksum ∈ file.checksums, checksum.algorithm ≠ algorithm := by
  rw [latestDigest, Option.map_eq_none_iff, latestChecksum_eq_none_iff]

end File

end Fixity.Catalog
