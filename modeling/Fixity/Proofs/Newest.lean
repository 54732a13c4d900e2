/-
This file proves which digest of an algorithm counts: the one recorded last, and
among several of one time the one that stands last in the list. So nothing else in
the list matters: not the digests of other algorithms, not the older ones, and not
the order, unless several were recorded at the newest time.
-/

import Fixity.Proofs.Checksums
import Mathlib.Data.List.Induction
import Mathlib.Data.List.Perm.Basic
import Mathlib.Order.Defs.LinearOrder

namespace Fixity

/-! ### The order of time -/

instance : LinearOrder Time.Timestamp where
  le_refl _ := Int.le_refl _
  le_trans _ _ _ := Int.le_trans
  lt_iff_le_not_ge _ _ := Int.lt_iff_le_and_not_ge
  le_antisymm _ _ before after := Time.Timestamp.eq_of_position_eq (Int.le_antisymm before after)
  le_total _ _ := Int.le_total _ _
  toDecidableLE := inferInstance

namespace Catalog

/-! ### The latest of some digests -/

/-- Those of some digests that are not older than one. -/
def rivals (checksums : List Checksum) (latest : Checksum) : List Checksum :=
  checksums.filter fun checksum => latest.recordedAt ≤ checksum.recordedAt

theorem mem_rivals_iff {checksums : List Checksum} {latest checksum : Checksum} :
    checksum ∈ rivals checksums latest ↔
      checksum ∈ checksums ∧ latest.recordedAt ≤ checksum.recordedAt := by
  rw [rivals, List.mem_filter, decide_eq_true_iff]

theorem rivals_append (checksums others : List Checksum) (latest : Checksum) :
    rivals (checksums ++ others) latest = rivals checksums latest ++ rivals others latest :=
  List.filter_append ..

theorem rivals_cons_self (latest : Checksum) (checksums : List Checksum) :
    rivals (latest :: checksums) latest = latest :: rivals checksums latest :=
  List.filter_cons_of_pos (decide_eq_true (le_refl _))

theorem rivals_of_older {latest next : Checksum} (older : next.recordedAt < latest.recordedAt) :
    rivals [next] latest = [] :=
  List.filter_cons_of_neg (by rwa [decide_eq_true_iff, not_le])

/-- A digest is the latest of some: none of them is newer, and of those that are not older it is the
last one. -/
structure Latest (checksums : List Checksum) (latest : Checksum) : Prop where
  greatest : ∀ checksum ∈ checksums, checksum.recordedAt ≤ latest.recordedAt
  last : (rivals checksums latest).getLast? = some latest

namespace Latest

variable {checksums : List Checksum} {latest next : Checksum}

theorem mem (chosen : Latest checksums latest) : latest ∈ checksums :=
  (mem_rivals_iff.mp (List.mem_of_getLast? chosen.last)).1

theorem unique {other : Checksum} (chosen : Latest checksums latest)
    (too : Latest checksums other) : other = latest := by
  have same : other.recordedAt = latest.recordedAt :=
    le_antisymm (chosen.greatest other too.mem) (too.greatest latest chosen.mem)
  have last := too.last
  rw [rivals, same, ← rivals, chosen.last, Option.some.injEq] at last
  exact last.symm

/-- A digest that none before it surpasses is the latest. -/
theorem concat_self (greatest : ∀ checksum ∈ checksums, checksum.recordedAt ≤ next.recordedAt) :
    Latest (checksums ++ [next]) next where
  greatest := List.forall_mem_append.mpr ⟨greatest, List.forall_mem_singleton.mpr (le_refl _)⟩
  last := by
    rw [rivals_append, rivals_cons_self]
    exact List.getLast?_concat

/-- The latest digest stays the latest when an older one follows. -/
theorem concat (chosen : Latest checksums latest) (older : next.recordedAt < latest.recordedAt) :
    Latest (checksums ++ [next]) latest where
  greatest := List.forall_mem_append.mpr
    ⟨chosen.greatest, List.forall_mem_singleton.mpr (le_of_lt older)⟩
  last := by
    rw [rivals_append, rivals_of_older older, List.append_nil]
    exact chosen.last

end Latest

/-- Only the digests that are not older than the latest one decide that it is. -/
theorem latest_iff_rivals {checksums : List Checksum} {latest : Checksum} :
    Latest checksums latest ↔
      (∀ checksum ∈ rivals checksums latest, checksum.recordedAt = latest.recordedAt) ∧
        (rivals checksums latest).getLast? = some latest := by
  constructor
  · intro chosen
    refine ⟨fun checksum member => ?_, chosen.last⟩
    obtain ⟨listed, late⟩ := mem_rivals_iff.mp member
    exact le_antisymm (chosen.greatest checksum listed) late
  · rintro ⟨together, last⟩
    refine ⟨fun checksum listed => ?_, last⟩
    obtain early | late := le_total checksum.recordedAt latest.recordedAt
    · exact early
    · exact le_of_eq (together checksum (mem_rivals_iff.mpr ⟨listed, late⟩))

theorem latest_of_foldl {checksums : List Checksum} {latest : Checksum}
    (found : checksums.foldl laterChecksum none = some latest) : Latest checksums latest := by
  induction checksums using List.reverseRecOn generalizing latest with
  | nil => cases found
  | append_singleton checksums next inductionHypothesis =>
    rw [List.foldl_concat] at found
    cases before : checksums.foldl laterChecksum none with
    | none =>
      rw [before, laterChecksum, Option.some.injEq] at found
      obtain ⟨-, rfl⟩ := (foldl_choose_eq_none_iff laterChecksum_ne_none).mp before
      subst found
      exact .concat_self (List.forall_mem_nil _)
    | some best =>
      have chosen := inductionHypothesis before
      rw [before, laterChecksum] at found
      split at found
      case isTrue newer =>
        obtain rfl := Option.some.inj found
        exact .concat_self fun checksum member =>
          le_trans (chosen.greatest checksum member) newer
      case isFalse older =>
        obtain rfl := Option.some.inj found
        exact chosen.concat (not_le.mp older)

/-- What is chosen along a list of digests is the latest of them. -/
theorem foldl_laterChecksum_eq_some_iff {checksums : List Checksum} {latest : Checksum} :
    checksums.foldl laterChecksum none = some latest ↔ Latest checksums latest := by
  refine ⟨latest_of_foldl, fun chosen => ?_⟩
  cases found : checksums.foldl laterChecksum none with
  | none =>
    obtain ⟨-, rfl⟩ := (foldl_choose_eq_none_iff laterChecksum_ne_none).mp found
    cases chosen.mem
  | some other => rw [chosen.unique (latest_of_foldl found)]

/-! ### The newest digest of an algorithm -/

/-- The digests of an algorithm. -/
def ofAlgorithm (algorithm : String) (checksums : List Checksum) : List Checksum :=
  checksums.filter fun checksum => checksum.algorithm == algorithm

theorem mem_ofAlgorithm_iff {algorithm : String} {checksums : List Checksum} {checksum : Checksum} :
    checksum ∈ ofAlgorithm algorithm checksums ↔
      checksum ∈ checksums ∧ checksum.algorithm = algorithm := by
  rw [ofAlgorithm, List.mem_filter, beq_iff_eq]

theorem ofAlgorithm_append (algorithm : String) (checksums others : List Checksum) :
    ofAlgorithm algorithm (checksums ++ others) =
      ofAlgorithm algorithm checksums ++ ofAlgorithm algorithm others :=
  List.filter_append ..

theorem ofAlgorithm_cons {algorithm : String} {checksum : Checksum}
    (own : checksum.algorithm = algorithm) (checksums : List Checksum) :
    ofAlgorithm algorithm (checksum :: checksums) =
      checksum :: ofAlgorithm algorithm checksums :=
  List.filter_cons_of_pos (beq_iff_eq.mpr own)

/-- Between the digests before it and those after it, a digest is the newest one of an algorithm:
none of the algorithm was recorded later, and none after it at the same time. -/
structure NewestBetween (name : String) (before : List Checksum) (newest : Checksum)
    (after : List Checksum) : Prop where
  algorithm : newest.algorithm = name
  greatest : ∀ checksum ∈ before ++ newest :: after, checksum.algorithm = name →
    checksum.recordedAt ≤ newest.recordedAt
  last : ∀ checksum ∈ after, checksum.algorithm = name →
    checksum.recordedAt ≠ newest.recordedAt

/-- A digest is between others as the newest one exactly if it is the latest of its algorithm. -/
theorem exists_newestBetween_iff {name : String} {checksums : List Checksum} {newest : Checksum} :
    (∃ before after, checksums = before ++ newest :: after ∧
        NewestBetween name before newest after) ↔
      Latest (ofAlgorithm name checksums) newest := by
  constructor
  · rintro ⟨before, after, rfl, between⟩
    have none : rivals (ofAlgorithm name after) newest = [] := by
      refine List.eq_nil_iff_forall_not_mem.mpr fun checksum member => ?_
      obtain ⟨listed, late⟩ := mem_rivals_iff.mp member
      obtain ⟨listed, same⟩ := mem_ofAlgorithm_iff.mp listed
      have early := between.greatest checksum
        (List.mem_append_right before (List.mem_cons_of_mem newest listed)) same
      exact between.last checksum listed same (le_antisymm early late)
    refine ⟨fun checksum member => ?_, ?_⟩
    · obtain ⟨listed, same⟩ := mem_ofAlgorithm_iff.mp member
      exact between.greatest checksum listed same
    · rw [ofAlgorithm_append, ofAlgorithm_cons between.algorithm, rivals_append, rivals_cons_self,
        none]
      exact List.getLast?_concat
  · intro chosen
    obtain ⟨early, front⟩ := List.getLast?_eq_some_iff.mp chosen.last
    rw [rivals, ofAlgorithm, List.filter_filter, List.filter_eq_append_iff] at front
    obtain ⟨before, rest, rfl, -, last⟩ := front
    rw [List.filter_eq_cons_iff] at last
    obtain ⟨skipped, after, rfl, -, -, none⟩ := last
    refine ⟨before ++ skipped, after, (List.append_assoc _ _ _).symm, ?_, ?_, ?_⟩
    · exact (mem_ofAlgorithm_iff.mp chosen.mem).2
    · intro checksum listed same
      rw [List.append_assoc] at listed
      exact chosen.greatest checksum (mem_ofAlgorithm_iff.mpr ⟨listed, same⟩)
    · intro checksum listed same together
      have kept := List.filter_eq_nil_iff.mp none checksum listed
      rw [Bool.and_eq_true, decide_eq_true_iff, beq_iff_eq] at kept
      exact kept ⟨le_of_eq together.symm, same⟩

namespace File

variable {file : File} {algorithm : String} {newest : Checksum}

theorem latestChecksum_eq_some_iff :
    file.latestChecksum algorithm = some newest ↔
      Latest (ofAlgorithm algorithm file.checksums) newest :=
  foldl_laterChecksum_eq_some_iff

/-- The file with a further digest at the end of its list. -/
def register (file : File) (checksum : Checksum) : File :=
  { file with checksums := file.checksums ++ [checksum] }

/-- A choice of a digest for every file takes the newest one of an algorithm. -/
structure TakesNewest (algorithm : String) (choice : File → Option Checksum) : Prop where
  /-- Nothing is chosen only where nothing is registered for the algorithm. -/
  missing : ∀ file, choice file = none ↔
    ∀ checksum ∈ file.checksums, checksum.algorithm ≠ algorithm
  /-- What is chosen stands in the list as the newest digest of the algorithm. -/
  found : ∀ file newest, choice file = some newest ↔ ∃ before after,
    file.checksums = before ++ newest :: after ∧ NewestBetween algorithm before newest after
  /-- Lists with the same digests of the algorithm do not differ, whatever else they hold. -/
  foreign : ∀ file other,
    ofAlgorithm algorithm file.checksums = ofAlgorithm algorithm other.checksums →
    choice other = choice file
  /-- Digests of other algorithms and digests older than the chosen one may come, go and change
  places. -/
  older : ∀ file other newest, choice file = some newest →
    rivals (ofAlgorithm algorithm file.checksums) newest =
      rivals (ofAlgorithm algorithm other.checksums) newest →
    choice other = some newest
  /-- The order of the list does not matter if the newest time is that of one digest alone. -/
  reordered : ∀ file other newest, choice file = some newest →
    (∀ checksum ∈ file.checksums, checksum.algorithm = algorithm →
      checksum.recordedAt = newest.recordedAt → checksum = newest) →
    file.checksums.Perm other.checksums → choice other = some newest
  /-- A further digest is chosen exactly if it is not older than the one that was. -/
  appended : ∀ file next, next.algorithm = algorithm →
    (choice (file.register next) = some next ↔
      ∀ current, choice file = some current → ¬ next.recordedAt < current.recordedAt)

theorem latestChecksum_of_rivals {other : File} (latest : file.latestChecksum algorithm = some newest)
    (same : rivals (ofAlgorithm algorithm file.checksums) newest =
      rivals (ofAlgorithm algorithm other.checksums) newest) :
    other.latestChecksum algorithm = some newest := by
  rw [latestChecksum_eq_some_iff, latest_iff_rivals] at latest ⊢
  rwa [← same]

theorem latestChecksum_of_perm {other : File} (latest : file.latestChecksum algorithm = some newest)
    (alone : ∀ checksum ∈ file.checksums, checksum.algorithm = algorithm →
      checksum.recordedAt = newest.recordedAt → checksum = newest)
    (reordered : file.checksums.Perm other.checksums) :
    other.latestChecksum algorithm = some newest := by
  refine latestChecksum_of_rivals latest ?_
  rw [latestChecksum_eq_some_iff, latest_iff_rivals] at latest
  have same : ∀ checksum ∈ rivals (ofAlgorithm algorithm file.checksums) newest,
      checksum = newest := by
    intro checksum member
    obtain ⟨listed, own⟩ := mem_ofAlgorithm_iff.mp (mem_rivals_iff.mp member).1
    exact alone checksum listed own (latest.1 checksum member)
  have moved : (rivals (ofAlgorithm algorithm file.checksums) newest).Perm
      (rivals (ofAlgorithm algorithm other.checksums) newest) :=
    (reordered.filter _).filter _
  rw [List.eq_replicate_of_mem same] at moved ⊢
  exact List.replicate_perm.mp moved

theorem latestChecksum_register_iff {next : Checksum} (own : next.algorithm = algorithm) :
    (file.register next).latestChecksum algorithm = some next ↔
      ∀ current, file.latestChecksum algorithm = some current →
        ¬ next.recordedAt < current.recordedAt := by
  have further : ofAlgorithm algorithm (file.register next).checksums =
      ofAlgorithm algorithm file.checksums ++ [next] := by
    rw [register, ofAlgorithm_append, ofAlgorithm_cons own]
    rfl
  rw [latestChecksum_eq_some_iff, further]
  constructor
  · intro chosen current latest
    rw [latestChecksum_eq_some_iff] at latest
    exact not_lt.mpr (chosen.greatest current (List.mem_append_left [next] latest.mem))
  · intro late
    refine .concat_self fun checksum member => ?_
    cases latest : file.latestChecksum algorithm with
    | none =>
      obtain ⟨listed, same⟩ := mem_ofAlgorithm_iff.mp member
      exact absurd same (latestChecksum_eq_none_iff.mp latest checksum listed)
    | some current =>
      exact le_trans ((latestChecksum_eq_some_iff.mp latest).greatest checksum member)
        (not_lt.mp (late current latest))

/-- **The newest digest counts.** The digest of a file for an algorithm is the newest one that is
registered for it, the last of several that are the newest. Nothing else in the list decides. -/
theorem takesNewest_latestChecksum (algorithm : String) :
    TakesNewest algorithm fun file => file.latestChecksum algorithm where
  missing _ := latestChecksum_eq_none_iff
  found _ _ := latestChecksum_eq_some_iff.trans exists_newestBetween_iff.symm
  foreign _ _ same := congrArg (List.foldl laterChecksum none) same.symm
  older _ _ _ latest same := latestChecksum_of_rivals latest same
  reordered _ _ _ latest alone reordered := latestChecksum_of_perm latest alone reordered
  appended _ _ own := latestChecksum_register_iff own

end File

end Catalog

end Fixity
