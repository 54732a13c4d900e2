/-
This file proves which copy of a file is chosen. A copy and a bucket that hosts it
have a place each, in the file's list of copies and in the list of buckets; of all
such pairs one is preferred, the first in the order of places among those of the
least priority. A file is resolved to that pair if its provider has a client. Where
buckets of one priority are one, the order of neither list matters to the bucket
that is chosen.
-/

import Fixity.Proofs.Storage.Endpoints

namespace Fixity.Storage.Resolver

/-! ### Places -/

/-- At a place there are a copy of a file and a bucket that hosts it: the place has a number in the
list of copies and one in the list of buckets. -/
structure HostedAt (buckets : List Bucket) (file : Catalog.File) (place : Nat × Nat)
    (pair : Catalog.CopyRecord × Bucket) : Prop where
  copy : file.copies[place.1]? = some pair.1
  bucket : buckets[place.2]? = some pair.2
  hosts : pair.2.hostsUrl pair.1.url = true

/-- A place comes before another if its copy does, or its bucket where the copy is the same. -/
def Before (place other : Nat × Nat) : Prop :=
  place.1 < other.1 ∨ (place.1 = other.1 ∧ place.2 < other.2)

/-- The pair at a place is the first one of the least priority. -/
structure Preferred (buckets : List Bucket) (file : Catalog.File) (place : Nat × Nat)
    (pair : Catalog.CopyRecord × Bucket) : Prop extends HostedAt buckets file place pair where
  least : ∀ {other : Nat × Nat} {rival : Catalog.CopyRecord × Bucket},
    HostedAt buckets file other rival → pair.2.restorePriority ≤ rival.2.restorePriority
  first : ∀ {other : Nat × Nat} {rival : Catalog.CopyRecord × Bucket},
    HostedAt buckets file other rival → rival.2.restorePriority = pair.2.restorePriority →
      place = other ∨ Before place other

/-- There is one preferred pair at most. -/
theorem Preferred.unique {buckets : List Bucket} {file : Catalog.File} {place other : Nat × Nat}
    {pair rival : Catalog.CopyRecord × Bucket} (preferred : Preferred buckets file place pair)
    (too : Preferred buckets file other rival) : place = other ∧ pair = rival := by
  have priority : rival.2.restorePriority = pair.2.restorePriority :=
    UInt32.le_antisymm (too.least preferred.toHostedAt) (preferred.least too.toHostedAt)
  have same : place = other := by
    obtain same | early := preferred.first too.toHostedAt priority
    · exact same
    · obtain same | late := too.first preferred.toHostedAt priority.symm
      · exact same.symm
      · unfold Before at early late
        omega
  subst same
  exact ⟨rfl, Prod.ext (Option.some.inj (preferred.copy.symm.trans too.copy))
    (Option.some.inj (preferred.bucket.symm.trans too.bucket))⟩

/-! ### Pairs with their places -/

/-- The pairs of a copy and a bucket that hosts it, with their places. -/
def placed (buckets : List Bucket) (file : Catalog.File) :
    List ((Nat × Nat) × (Catalog.CopyRecord × Bucket)) :=
  file.copies.zipIdx.flatMap fun (copy, number) =>
    (buckets.zipIdx.filter fun (bucket, _) => bucket.hostsUrl copy.url).map
      fun (bucket, position) => ((number, position), (copy, bucket))

theorem mem_placed_iff {buckets : List Bucket} {file : Catalog.File} {place : Nat × Nat}
    {pair : Catalog.CopyRecord × Bucket} :
    (place, pair) ∈ placed buckets file ↔ HostedAt buckets file place pair := by
  simp only [placed, List.mem_flatMap, List.mem_map, List.mem_filter,
    List.mem_zipIdx_iff_getElem?, Prod.exists, Prod.mk.injEq]
  constructor
  · rintro ⟨copy, number, counted, bucket, position, ⟨configured, hosts⟩, rfl, rfl⟩
    exact ⟨counted, configured, hosts⟩
  · rintro ⟨counted, configured, hosts⟩
    exact ⟨pair.1, place.1, counted, pair.2, place.2, ⟨configured, hosts⟩, rfl, rfl⟩

theorem map_snd_placed (buckets : List Bucket) (file : Catalog.File) :
    (placed buckets file).map Prod.snd = hosted buckets file := by
  have inner (copy : Catalog.CopyRecord) :
      (buckets.zipIdx.filter fun (bucket, _) => bucket.hostsUrl copy.url).map
        (fun (bucket, _) => (copy, bucket)) =
      (buckets.filter fun bucket => bucket.hostsUrl copy.url).map fun bucket => (copy, bucket) := by
    conv_rhs => rw [← List.zipIdx_map_fst 0 buckets, List.filter_map, List.map_map]
    rfl
  rw [placed, hosted, List.map_flatMap]
  conv_rhs => rw [← List.zipIdx_map_fst 0 file.copies, List.flatMap_map]
  refine List.flatMap_congr fun entry _ => ?_
  rw [List.map_map]
  exact inner entry.1

/-- The pairs come in the order of their places. -/
theorem pairwise_placed (buckets : List Bucket) (file : Catalog.File) :
    (placed buckets file).Pairwise fun entry later => Before entry.1 later.1 := by
  have counted {α : Type} (elements : List α) :
      elements.zipIdx.Pairwise fun entry later => entry.2 < later.2 := by
    rw [← List.pairwise_map (f := Prod.snd), List.zipIdx_map_snd]
    exact List.pairwise_lt_range' 1
  rw [placed, List.pairwise_flatMap]
  constructor
  · intro copy _
    rw [List.pairwise_map]
    exact ((counted buckets).filter _).imp fun early => .inr ⟨rfl, early⟩
  · refine (counted file.copies).imp fun early entry member later memberLater => .inl ?_
    obtain ⟨_, _, rfl⟩ := List.mem_map.mp member
    obtain ⟨_, _, rfl⟩ := List.mem_map.mp memberLater
    exact early

/-! ### The preferred pair -/

theorem prefer_ne_none (best : Option (Catalog.CopyRecord × Bucket))
    (next : Catalog.CopyRecord × Bucket) : prefer best next ≠ none := by
  cases best with
  | none => exact Option.some_ne_none next
  | some best =>
    rw [prefer]
    split <;> exact Option.some_ne_none _

/-- What is preferred along a list of pairs comes before all others of its priority, and none has a
lesser one. -/
theorem exists_split_of_foldl_prefer {pairs : List (Catalog.CopyRecord × Bucket)}
    {chosen : Catalog.CopyRecord × Bucket} (found : pairs.foldl prefer none = some chosen) :
    ∃ early late, pairs = early ++ chosen :: late ∧
      (∀ pair ∈ early, chosen.2.restorePriority < pair.2.restorePriority) ∧
      ∀ pair ∈ late, chosen.2.restorePriority ≤ pair.2.restorePriority := by
  induction pairs using List.reverseRecOn generalizing chosen with
  | nil => cases found
  | append_singleton pairs next inductionHypothesis =>
    rw [List.foldl_concat] at found
    cases before : pairs.foldl prefer none with
    | none =>
      obtain ⟨-, rfl⟩ := (foldl_choose_eq_none_iff prefer_ne_none).mp before
      obtain rfl := Option.some.inj found
      exact ⟨[], [], rfl, nofun, nofun⟩
    | some best =>
      obtain ⟨early, late, rfl, lesser, least⟩ := inductionHypothesis before
      rw [before, prefer] at found
      split at found
      · rename_i less
        obtain rfl := Option.some.inj found
        refine ⟨early ++ best :: late, [], rfl, ?_, nofun⟩
        rw [List.forall_mem_append, List.forall_mem_cons]
        exact ⟨fun pair member => UInt32.lt_trans less (lesser pair member), less,
          fun pair member => UInt32.lt_of_lt_of_le less (least pair member)⟩
      · rename_i kept
        obtain rfl := Option.some.inj found
        refine ⟨early, late ++ [next], List.append_assoc _ _ _, lesser, ?_⟩
        rw [List.forall_mem_append, List.forall_mem_singleton]
        exact ⟨least, UInt32.not_lt.mp kept⟩

/-- The pair that is found for a file is preferred to all others. -/
theorem exists_preferred {buckets : List Bucket} {file : Catalog.File}
    {pair : Catalog.CopyRecord × Bucket} (found : best buckets file = some pair) :
    ∃ place, Preferred buckets file place pair := by
  obtain ⟨early, late, split, lesser, least⟩ := exists_split_of_foldl_prefer found
  rw [← map_snd_placed, List.map_eq_append_iff] at split
  obtain ⟨first, rest, all, rfl, tail⟩ := split
  obtain ⟨⟨place, chosen⟩, last, rfl, rfl, rfl⟩ := List.map_eq_cons_iff.mp tail
  have order := pairwise_placed buckets file
  rw [all, List.pairwise_append, List.pairwise_cons] at order
  obtain ⟨-, ⟨after, -⟩, -⟩ := order
  have hosted {other : Nat × Nat} {rival : Catalog.CopyRecord × Bucket}
      (there : HostedAt buckets file other rival) :
      (other, rival) ∈ first ∨ (other, rival) = (place, chosen) ∨ (other, rival) ∈ last := by
    rw [← mem_placed_iff, all] at there
    simpa using there
  refine ⟨place, mem_placed_iff.mp (by rw [all]; simp), fun there => ?least,
    fun there priority => ?first⟩
  case least =>
    obtain early | same | late := hosted there
    · exact UInt32.le_of_lt (lesser _ (List.mem_map_of_mem early))
    · obtain ⟨-, rfl⟩ := Prod.mk.inj same
      exact UInt32.le_refl _
    · exact least _ (List.mem_map_of_mem late)
  case first =>
    obtain early | same | late := hosted there
    · have less := lesser _ (List.mem_map_of_mem early)
      rw [priority] at less
      exact absurd less (UInt32.lt_irrefl _)
    · exact .inl (Prod.mk.inj same).1.symm
    · exact .inr (after _ late)

theorem best_eq_none_iff {buckets : List Bucket} {file : Catalog.File} :
    best buckets file = none ↔ ∀ place pair, ¬ HostedAt buckets file place pair := by
  have empty : placed buckets file = [] ↔ hosted buckets file = [] := by
    rw [← map_snd_placed, List.map_eq_nil_iff]
  rw [best, foldl_choose_eq_none_iff prefer_ne_none, and_iff_right rfl, ← empty,
    List.eq_nil_iff_forall_not_mem]
  simp only [Prod.forall, ← mem_placed_iff]

/-- A pair is found for a file exactly if it is preferred. -/
theorem best_eq_some_iff {buckets : List Bucket} {file : Catalog.File}
    {pair : Catalog.CopyRecord × Bucket} :
    best buckets file = some pair ↔ ∃ place, Preferred buckets file place pair := by
  constructor
  · exact exists_preferred
  · rintro ⟨place, preferred⟩
    cases found : best buckets file with
    | none => exact absurd preferred.toHostedAt (best_eq_none_iff.mp found place pair)
    | some other =>
      obtain ⟨_, too⟩ := exists_preferred found
      rw [(preferred.unique too).2]

/-! ### The order of the lists -/

/-- A bucket hosts one of the copies of a file. -/
def Hosts (bucket : Bucket) (file : Catalog.File) : Prop :=
  ∃ copy ∈ file.copies, bucket.hostsUrl copy.url = true

theorem exists_hostedAt_iff {buckets : List Bucket} {file : Catalog.File} {bucket : Bucket} :
    (∃ place copy, HostedAt buckets file place (copy, bucket)) ↔
      bucket ∈ buckets ∧ Hosts bucket file := by
  constructor
  · rintro ⟨place, copy, there⟩
    exact ⟨List.mem_of_getElem? there.bucket, copy, List.mem_of_getElem? there.copy, there.hosts⟩
  · rintro ⟨configured, copy, held, hosts⟩
    obtain ⟨number, counted⟩ := List.mem_iff_getElem?.mp held
    obtain ⟨position, listed⟩ := List.mem_iff_getElem?.mp configured
    exact ⟨(number, position), copy, counted, listed, hosts⟩

/-- The buckets that host a copy of a file have a priority each. -/
def Distinct (buckets : List Bucket) (file : Catalog.File) : Prop :=
  ∀ one ∈ buckets, ∀ other ∈ buckets, Hosts one file → Hosts other file →
    one.restorePriority = other.restorePriority → one = other

/-- Among buckets with a priority each, the one that is found for a file is the one of the least
priority that hosts a copy. -/
theorem map_best_eq_some_iff {buckets : List Bucket} {file : Catalog.File}
    (distinct : Distinct buckets file) {bucket : Bucket} :
    (best buckets file).map Prod.snd = some bucket ↔
      bucket ∈ buckets ∧ Hosts bucket file ∧
        ∀ other ∈ buckets, Hosts other file → bucket.restorePriority ≤ other.restorePriority := by
  rw [Option.map_eq_some_iff]
  constructor
  · rintro ⟨⟨copy, bucket⟩, found, rfl⟩
    obtain ⟨place, preferred⟩ := exists_preferred found
    obtain ⟨configured, hosts⟩ := exists_hostedAt_iff.mp ⟨place, copy, preferred.toHostedAt⟩
    refine ⟨configured, hosts, fun other listed holds => ?_⟩
    obtain ⟨_, _, there⟩ := exists_hostedAt_iff.mpr ⟨listed, holds⟩
    exact preferred.least there
  · rintro ⟨configured, hosts, least⟩
    obtain ⟨place, copy, there⟩ := exists_hostedAt_iff.mpr ⟨configured, hosts⟩
    cases found : best buckets file with
    | none => exact absurd there (best_eq_none_iff.mp found _ _)
    | some pair =>
      obtain ⟨_, preferred⟩ := exists_preferred found
      obtain ⟨listed, holds⟩ := exists_hostedAt_iff.mp ⟨_, pair.1, preferred.toHostedAt⟩
      refine ⟨pair, rfl, distinct _ listed _ configured holds hosts ?_⟩
      exact UInt32.le_antisymm (preferred.least there) (least _ listed holds)

/-- Among buckets with a priority each, the order of the lists does not matter to the bucket that is
found. -/
theorem map_best_eq_of_perm {buckets others : List Bucket} {file : Catalog.File}
    {copies : List Catalog.CopyRecord} (distinct : Distinct buckets file)
    (reordered : others.Perm buckets) (shuffled : copies.Perm file.copies) :
    (best others { file with copies }).map Prod.snd = (best buckets file).map Prod.snd := by
  have hosts (bucket : Bucket) : Hosts bucket { file with copies } ↔ Hosts bucket file := by
    simp only [Hosts, shuffled.mem_iff]
  have still : Distinct others { file with copies } := by
    simpa only [Distinct, hosts, reordered.mem_iff] using distinct
  refine Option.ext fun bucket => ?_
  rw [map_best_eq_some_iff still, map_best_eq_some_iff distinct]
  simp only [hosts, reordered.mem_iff]

/-! ### Resolving a file -/

variable {Client : Type}

/-- What a resolved file is read from, apart from the address of the copy: the bucket with its
provider, the key, and the client. -/
def reader (resolved : Source × Client) : String × String × String × Client :=
  (resolved.1.location.bucket, resolved.1.location.provider, resolved.1.key, resolved.2)

/-- A file is resolved to the preferred pair of a copy and a bucket, if there is a pair and the
bucket's provider has a client; and where the buckets have a priority each, the order of the lists
only matters to the copy. -/
structure Picks (resolver : Resolver Client) (file : Catalog.File) : Prop where
  nowhere_iff : (∃ identifier reason,
      resolver.resolve file = .error (.noStorageLocation identifier reason)) ↔
    ∀ place pair, ¬ HostedAt resolver.buckets file place pair
  exists_preferred : (∃ place pair, HostedAt resolver.buckets file place pair) →
    ∃ place pair, Preferred resolver.buckets file place pair
  unserved_iff : ∀ place copy bucket, Preferred resolver.buckets file place (copy, bucket) →
    (resolver.resolve file = .error (.missingClient bucket.provider) ↔
      resolver.client? bucket.provider = none)
  served : ∀ place copy bucket client, Preferred resolver.buckets file place (copy, bucket) →
    resolver.client? bucket.provider = some client →
    resolver.resolve file = .ok (⟨⟨bucket.name, bucket.provider, copy.url⟩, file.uuid⟩, client)
  unordered : ∀ buckets copies, buckets.Perm resolver.buckets → copies.Perm file.copies →
    Distinct resolver.buckets file →
    (best buckets { file with copies }).map Prod.snd =
        (best resolver.buckets file).map Prod.snd ∧
      (({ resolver with buckets } : Resolver Client).resolve { file with copies }).map reader =
        (resolver.resolve file).map reader

/-- A resolution without the address of the copy depends on the bucket that is found, and on how
many copies and buckets there are. -/
theorem map_reader_resolve (resolver : Resolver Client) (file : Catalog.File) :
    (resolver.resolve file).map reader =
      match (best resolver.buckets file).map Prod.snd with
      | none => .error (noLocation resolver.buckets file)
      | some bucket =>
        match resolver.client? bucket.provider with
        | none => .error (.missingClient bucket.provider)
        | some client => .ok (bucket.name, bucket.provider, file.uuid, client) := by
  rw [resolve]
  cases best resolver.buckets file with
  | none => rfl
  | some pair =>
    dsimp only [Option.map_some]
    cases resolver.client? pair.2.provider <;> rfl

/-- **Which copy is chosen.** With any buckets and clients, every file is resolved to the first pair
of the least priority among its copies and the buckets that host them. -/
theorem picks_resolve (resolver : Resolver Client) (file : Catalog.File) : Picks resolver file := by
  have of_preferred {place : Nat × Nat} {pair : Catalog.CopyRecord × Bucket}
      (preferred : Preferred resolver.buckets file place pair) :
      best resolver.buckets file = some pair :=
    best_eq_some_iff.mpr ⟨place, preferred⟩
  refine ⟨?nowhere, ?preferred, ?unserved, ?served, ?unordered⟩
  case nowhere =>
    rw [← best_eq_none_iff, resolve]
    cases best resolver.buckets file with
    | none => exact iff_of_true ⟨_, _, rfl⟩ rfl
    | some pair =>
      refine iff_of_false ?_ (Option.some_ne_none pair)
      dsimp only
      cases resolver.client? pair.2.provider <;> simp
  case preferred =>
    rintro ⟨place, pair, there⟩
    cases found : best resolver.buckets file with
    | none => exact absurd there (best_eq_none_iff.mp found place pair)
    | some chosen =>
      obtain ⟨first, preferred⟩ := exists_preferred found
      exact ⟨first, chosen, preferred⟩
  case unserved =>
    intro place copy bucket preferred
    rw [resolve, of_preferred preferred]
    dsimp only
    cases resolver.client? bucket.provider <;> simp
  case served =>
    intro place copy bucket client preferred known
    rw [resolve, of_preferred preferred]
    dsimp only
    rw [known]
  case unordered =>
    intro buckets copies reordered shuffled distinct
    have same := map_best_eq_of_perm distinct reordered shuffled
    refine ⟨same, ?_⟩
    have counts : noLocation buckets { file with copies } = noLocation resolver.buckets file := by
      simp only [noLocation, shuffled.length_eq, reordered.length_eq]
    rw [map_reader_resolve, map_reader_resolve, same, counts]
    rfl

/-- Three buckets, of which the second is preferred. -/
def tiers : List Bucket :=
  [{ name := "archive", provider := "example", host := "s3.example.org", region := "us-east-2",
     restorePriority := 6 },
   { name := "standard", provider := "example", host := "s3.example.org", region := "us-east-1",
     restorePriority := 1 },
   { name := "standard", provider := "rival", host := "s3.us-west-1.example.org",
     region := "us-west-1", restorePriority := 3 }]

/-- A file with a copy in each of the three buckets. -/
def tieredFile : Catalog.File :=
  { Remote.twinFile with
    copies := [
      ⟨"https://s3.us-east-2.example.org/archive/file"⟩,
      ⟨"https://s3.us-west-1.example.org/standard/file"⟩,
      ⟨"https://s3.example.org/standard/file"⟩] }

/-- The file is read from the second bucket, and so it is with both lists turned around. -/
theorem picks_resolve_tiers :
    let resolver := Remote.resolver tiers
    let turned : Resolver Remote := { resolver with buckets := tiers.reverse }
    let turnedFile : Catalog.File := { tieredFile with copies := tieredFile.copies.reverse }
    Distinct tiers tieredFile ∧
      (best tiers tieredFile).map Prod.snd = some tiers[1] ∧
      (best tiers.reverse turnedFile).map Prod.snd = some tiers[1] ∧
      (turned.resolve turnedFile).map reader = (resolver.resolve tieredFile).map reader := by
  intro resolver turned turnedFile
  have distinct : Distinct tiers tieredFile := by
    unfold Distinct Hosts
    decide +kernel
  have chosen : (best tiers tieredFile).map Prod.snd = some tiers[1] := by decide +kernel
  obtain ⟨same, resolved⟩ := (picks_resolve resolver tieredFile).unordered tiers.reverse
    tieredFile.copies.reverse (List.reverse_perm _) (List.reverse_perm _) distinct
  exact ⟨distinct, chosen, same.trans chosen, resolved⟩

end Fixity.Storage.Resolver
