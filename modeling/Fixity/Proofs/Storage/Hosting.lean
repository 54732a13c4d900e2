/-
This file says which addresses point into a bucket. They are those whose host is
the bucket's host, with its region or as it is configured, whose first segment
after the host is the bucket's name, and which go on behind that. So the name of a
bucket that hosts an address can be read off the address, and an address lies in
buckets of one name at most, even if one name begins with another.
-/

import Fixity.Proofs.Storage.Regions

namespace Fixity.Storage

/-! ### Addresses under a host -/

namespace Bucket

/-- An address begins as the addresses of the bucket's objects at a host do. -/
def Under (bucket : Bucket) (host url : String) : Prop :=
  ∃ rest, url = bucket.baseAt host ++ rest

theorem isSome_dropBeginning?_baseAt_iff {bucket : Bucket} {host url : String} :
    (Text.dropBeginning? (bucket.baseAt host).toList url.toList).isSome = true ↔
      bucket.Under host url := by
  rw [Text.isSome_dropBeginning?_iff]
  constructor
  · rintro ⟨rest, joined⟩
    refine ⟨String.ofList rest, ?_⟩
    rw [← String.toList_inj, String.toList_append, String.toList_ofList, joined]
  · rintro ⟨rest, rfl⟩
    rw [String.toList_append]
    exact List.prefix_append _ _

instance (bucket : Bucket) (host url : String) : Decidable (bucket.Under host url) :=
  decidable_of_iff _ isSome_dropBeginning?_baseAt_iff

theorem hostsUrl_iff_under {bucket : Bucket} {url : String} :
    bucket.hostsUrl url = true ↔
      bucket.Under bucket.hostWithRegion url ∨ bucket.Under bucket.host url := by
  rw [hostsUrl, Bool.or_eq_true, isSome_dropBeginning?_baseAt_iff,
    isSome_dropBeginning?_baseAt_iff]

end Bucket

/-! ### Segments of addresses -/

/-- The segments of an address: its host, and what stands between the slashes after it. -/
def segments? (url : String) : Option (List String) :=
  (Text.dropBeginning? "https://".toList url.toList).map fun rest =>
    (Text.splitAll '/' rest).map String.ofList

/-- The segments of an address are texts without slashes that give it when slashes are put between
them. -/
theorem segments?_eq_some_iff {url : String} {segments : List String} (present : segments ≠ []) :
    segments? url = some segments ↔
      "https://".toList ++ ['/'].intercalate (segments.map String.toList) = url.toList ∧
        ∀ segment ∈ segments, '/' ∉ segment.toList := by
  have spelled (parts : List (List Char)) :
      parts.map String.ofList = segments ↔ parts = segments.map String.toList := by
    constructor
    · rintro rfl
      simp only [List.map_map, Function.comp_def, String.toList_ofList, List.map_id']
    · rintro rfl
      simp only [List.map_map, Function.comp_def, String.ofList_toList, List.map_id']
  have cut (rest : List Char) : Text.splitAll '/' rest = segments.map String.toList ↔
      ['/'].intercalate (segments.map String.toList) = rest ∧
        ∀ segment ∈ segments, '/' ∉ segment.toList := by
    rw [Text.splitAll_eq_iff (mt List.map_eq_nil_iff.mp present), List.forall_mem_map]
  simp only [segments?, Option.map_eq_some_iff, Text.dropBeginning?_eq_some_iff, spelled, cut]
  constructor
  · rintro ⟨rest, joined, rfl, whole⟩
    exact ⟨joined, whole⟩
  · rintro ⟨joined, whole⟩
    exact ⟨_, joined, rfl, whole⟩

theorem segments?_join {host name : String} (wholeHost : '/' ∉ host.toList)
    (wholeName : '/' ∉ name.toList) (rest : String) :
    segments? ("https://" ++ host ++ "/" ++ name ++ "/" ++ rest) =
      some (host :: name :: (Text.splitAll '/' rest.toList).map String.ofList) := by
  have spelled : ("https://" ++ host ++ "/" ++ name ++ "/" ++ rest).toList =
      "https://".toList ++ (host.toList ++ '/' :: (name.toList ++ '/' :: rest.toList)) := by
    simp only [String.toList_append, List.append_assoc]
    rfl
  rw [segments?, spelled, Text.dropBeginning?_append, Option.map_some,
    Text.splitAll_append_cons wholeHost, Text.splitAll_append_cons wholeName, List.map_cons,
    List.map_cons, String.ofList_toList, String.ofList_toList]

/-- What begins as the objects of a bucket at a host do has the host and the bucket's name as its
first two segments, and one more at least. -/
theorem Bucket.under_iff_segments? {bucket : Bucket} {host url : String}
    (wholeHost : '/' ∉ host.toList) (wholeName : '/' ∉ bucket.name.toList) :
    bucket.Under host url ↔
      ∃ key keys, segments? url = some (host :: bucket.name :: key :: keys) := by
  constructor
  · rintro ⟨rest, rfl⟩
    obtain ⟨part, parts, split⟩ := List.exists_cons_of_ne_nil (Text.splitAll_ne_nil '/' rest.toList)
    refine ⟨String.ofList part, parts.map String.ofList, ?_⟩
    rw [Bucket.baseAt, segments?_join wholeHost wholeName, split, List.map_cons]
  · rintro ⟨key, keys, segments⟩
    have joined := ((segments?_eq_some_iff (List.cons_ne_nil _ _)).mp segments).1
    refine ⟨String.ofList (['/'].intercalate ((key :: keys).map String.toList)), ?_⟩
    rw [← String.toList_inj, ← joined, Bucket.baseAt]
    simp only [String.toList_append, String.toList_ofList, List.append_assoc, List.map_cons,
      List.intercalate_cons_cons]
    rfl

namespace Bucket

/-- The host, the region and the name of a bucket are without slashes. -/
structure Unslashed (bucket : Bucket) : Prop where
  host : '/' ∉ bucket.host.toList
  region : '/' ∉ bucket.region.toList
  name : '/' ∉ bucket.name.toList

theorem Unslashed.hostWithRegion {bucket : Bucket} (unslashed : bucket.Unslashed) :
    '/' ∉ bucket.hostWithRegion.toList := by
  intro member
  obtain label | region | host := mem_hostWithRegion member
  · exact absurd label (by decide)
  · exact unslashed.region region
  · exact unslashed.host (Text.mem_of_mem_lower host (by decide))

/-- The segments of the addresses in a bucket: a host of the bucket, its name and one more at
least. -/
theorem hostsUrl_iff_segments? {bucket : Bucket} (unslashed : bucket.Unslashed) {url : String} :
    bucket.hostsUrl url = true ↔
      ∃ host key keys, segments? url = some (host :: bucket.name :: key :: keys) ∧
        (host = bucket.hostWithRegion ∨ host = bucket.host) := by
  rw [hostsUrl_iff_under, under_iff_segments? unslashed.hostWithRegion unslashed.name,
    under_iff_segments? unslashed.host unslashed.name]
  constructor
  · rintro (⟨key, keys, segments⟩ | ⟨key, keys, segments⟩)
    · exact ⟨_, key, keys, segments, .inl rfl⟩
    · exact ⟨_, key, keys, segments, .inr rfl⟩
  · rintro ⟨host, key, keys, segments, rfl | rfl⟩
    · exact .inl ⟨key, keys, segments⟩
    · exact .inr ⟨key, keys, segments⟩

/-- **Which addresses lie in a bucket.** Let the host, the region and the name of a bucket be
without slashes. The bucket hosts an address if and only if the address is made of a host without
slashes, the bucket's name and any rest, where the host is the bucket's, with its region or as it is
configured. If another such bucket hosts the address too, then it has the same name, and that name
is the second segment of the address. -/
theorem hostsUrl_iff {bucket : Bucket} (unslashed : bucket.Unslashed) (url : String) :
    (bucket.hostsUrl url = true ↔
      ∃ host name rest, url = "https://" ++ host ++ "/" ++ name ++ "/" ++ rest ∧
        '/' ∉ host.toList ∧ name = bucket.name ∧
        (host = bucket.hostWithRegion ∨ host = bucket.host)) ∧
    ∀ other : Bucket, other.Unslashed → bucket.hostsUrl url = true → other.hostsUrl url = true →
      other.name = bucket.name ∧
        ∃ host keys, segments? url = some (host :: bucket.name :: keys) := by
  constructor
  · rw [hostsUrl_iff_under]
    constructor
    · rintro (⟨rest, rfl⟩ | ⟨rest, rfl⟩)
      · exact ⟨_, _, rest, rfl, unslashed.hostWithRegion, rfl, .inl rfl⟩
      · exact ⟨_, _, rest, rfl, unslashed.host, rfl, .inr rfl⟩
    · rintro ⟨_, _, rest, rfl, -, rfl, rfl | rfl⟩
      · exact .inl ⟨rest, rfl⟩
      · exact .inr ⟨rest, rfl⟩
  · intro other otherUnslashed ours theirs
    obtain ⟨host, key, keys, segments, -⟩ := (hostsUrl_iff_segments? unslashed).mp ours
    obtain ⟨_, _, _, same, -⟩ := (hostsUrl_iff_segments? otherUnslashed).mp theirs
    simp only [segments, Option.some.injEq, List.cons.injEq] at same
    exact ⟨same.2.1.symm, host, key :: keys, segments⟩

/-- A bucket on a host that is configured with capital letters. -/
def shorter : Bucket where
  name := "preservation"
  provider := "aws"
  host := "S3.AmazonAWS.com"
  region := "us-east-1"
  restorePriority := 1

/-- The bucket beside it whose name goes on where the name of the first one ends. -/
def longer : Bucket :=
  { shorter with name := "preservation-or" }

/-- What lies in the bucket with the longer name does not lie in the one with the shorter name. -/
theorem hostsUrl_iff_longer :
    longer.Unslashed ∧ shorter.Unslashed ∧
      longer.hostsUrl "https://s3.us-east-1.amazonaws.com/preservation-or/file" = true ∧
      shorter.hostsUrl "https://s3.us-east-1.amazonaws.com/preservation-or/file" = false := by
  have wholeLonger : longer.Unslashed := ⟨by decide, by decide, by decide⟩
  have wholeShorter : shorter.Unslashed := ⟨by decide, by decide, by decide⟩
  obtain ⟨address, unique⟩ :=
    hostsUrl_iff wholeLonger "https://s3.us-east-1.amazonaws.com/preservation-or/file"
  have hosts := address.mpr ⟨"s3.us-east-1.amazonaws.com", "preservation-or", "file", by decide,
    by decide, rfl, .inl (by decide +kernel)⟩
  refine ⟨wholeLonger, wholeShorter, hosts, Bool.eq_false_iff.mpr fun too => ?_⟩
  exact absurd (unique shorter wholeShorter hosts too).1 (by decide)

end Bucket

end Fixity.Storage
