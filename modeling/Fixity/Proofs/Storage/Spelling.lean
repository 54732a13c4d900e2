/-
This file compares a bucket with the one whose host is written in lower case. With
its region, the host is the same. As it is configured it need not be, and it is
looked for as it is configured: the two buckets differ in the addresses under one
spelling of the host that are not under the host with its region. There are such
addresses as soon as the host has a letter to lower. A file without copies at such
addresses is resolved alike with either spelling.
-/

import Fixity.Proofs.Storage.Endpoints

namespace Fixity.Storage

/-! ### Hosts in lower case -/

namespace Bucket

/-- A bucket with its host in lower case. -/
def lowered (bucket : Bucket) : Bucket :=
  { bucket with host := Text.lowerString bucket.host }

/-- With its region, a host is the same in lower case. -/
theorem hostWithRegion_lowered (bucket : Bucket) :
    bucket.lowered.hostWithRegion = bucket.hostWithRegion := by
  rw [hostWithRegion, hostWithRegion, lowered, Text.toList_lowerString, Text.lower_lower]

/-- An address tells the host of a bucket from the same host in lower case: it lies under one of the
two only, and not under the host with its region. -/
def SpeltApart (bucket : Bucket) (url : String) : Prop :=
  ¬ bucket.Under bucket.hostWithRegion url ∧
    ¬ (bucket.Under (Text.lowerString bucket.host) url ↔ bucket.Under bucket.host url)

instance (bucket : Bucket) (url : String) : Decidable (bucket.SpeltApart url) :=
  inferInstanceAs (Decidable (_ ∧ _))

theorem hostsUrl_lowered_eq_iff {bucket : Bucket} {url : String} :
    bucket.lowered.hostsUrl url = bucket.hostsUrl url ↔ ¬ bucket.SpeltApart url := by
  have spelled : bucket.lowered.hostsUrl url = true ↔
      bucket.Under bucket.hostWithRegion url ∨ bucket.Under (Text.lowerString bucket.host) url := by
    rw [hostsUrl_iff_under, hostWithRegion_lowered]
    exact Iff.rfl
  rw [Bool.eq_iff_iff, spelled, hostsUrl_iff_under, SpeltApart, not_and_not_right]
  by_cases region : bucket.Under bucket.hostWithRegion url
  · simp only [region, true_or, not_true_eq_false, false_imp_iff]
  · simp only [region, false_or, not_false_eq_true, true_imp_iff]

/-- A host under which the objects at another host lie is that host, or is shorter. -/
theorem Under.eq_or_shorter {bucket : Bucket} {host other : String}
    (under : bucket.Under other (bucket.baseAt host)) :
    other = host ∨ other.toList.length < host.toList.length := by
  obtain ⟨rest, same⟩ := under
  have lists := congrArg String.toList same
  simp only [baseAt, String.toList_append, List.append_assoc, List.append_cancel_left_eq] at lists
  have lengths := congrArg List.length lists
  simp only [List.length_append] at lengths
  by_cases empty : rest.toList.length = 0
  · left
    exact String.toList_inj.mp (List.append_inj_left lists (by omega)).symm
  · right
    omega

/-- If the address of the objects at a bucket's host lies in the bucket with its host in lower case,
then the host is in lower case. -/
theorem lowerString_host_of_hostsUrl {bucket : Bucket}
    (hosts : bucket.lowered.hostsUrl (bucket.baseAt bucket.host) = true) :
    Text.lowerString bucket.host = bucket.host := by
  have long : bucket.host.toList.length ≤ (Text.lowerString bucket.host).toList.length := by
    rw [Text.toList_lowerString]
    exact Text.length_le_length_lower _
  rw [hostsUrl_iff_under, hostWithRegion_lowered] at hosts
  -- Neither host of the bucket in lower case is shorter than the host as it is configured.
  obtain region | plain := hosts
  · obtain lowered | longer := bucket.hostWithRegion_eq_or_longer
    · rw [lowered] at region
      exact (Under.eq_or_shorter region).resolve_right (Nat.not_lt.mpr long)
    · obtain same | shorter := Under.eq_or_shorter region
      · rw [same] at longer
        exact absurd longer (Nat.not_lt.mpr long)
      · exact absurd (longer.trans shorter) (Nat.not_lt.mpr long)
  · exact (@Under.eq_or_shorter bucket _ _ plain).resolve_right (Nat.not_lt.mpr long)

end Bucket

namespace Resolver

/-- A resolver with all hosts of its buckets in lower case. -/
def lowered {Client : Type} (resolver : Resolver Client) : Resolver Client :=
  { resolver with buckets := resolver.buckets.map Bucket.lowered }

/-- The pair of a copy and a bucket with its host in lower case. -/
def loweredPair : Catalog.CopyRecord × Bucket → Catalog.CopyRecord × Bucket :=
  Prod.map id Bucket.lowered

theorem hosted_map_lowered {buckets : List Bucket} {file : Catalog.File}
    (alike : ∀ copy ∈ file.copies, ∀ bucket ∈ buckets, ¬ bucket.SpeltApart copy.url) :
    hosted (buckets.map Bucket.lowered) file = (hosted buckets file).map loweredPair := by
  rw [hosted, hosted, List.map_flatMap]
  refine List.flatMap_congr fun copy counted => ?_
  have same (bucket : Bucket) (configured : bucket ∈ buckets) :
      bucket.lowered.hostsUrl copy.url = bucket.hostsUrl copy.url :=
    Bucket.hostsUrl_lowered_eq_iff.mpr (alike copy counted bucket configured)
  simp only [List.filter_map, Function.comp_def, List.filter_congr same, List.map_map]
  rfl

/-- Priorities do not depend on hosts. -/
theorem prefer_loweredPair (best : Option (Catalog.CopyRecord × Bucket))
    (next : Catalog.CopyRecord × Bucket) :
    prefer (best.map loweredPair) (loweredPair next) = (prefer best next).map loweredPair := by
  cases best with
  | none => rfl
  | some best =>
    show (if next.2.restorePriority < best.2.restorePriority then some (loweredPair next)
      else some (loweredPair best)) = _
    rw [prefer, apply_ite (Option.map loweredPair)]
    rfl

theorem best_map_lowered {buckets : List Bucket} {file : Catalog.File}
    (alike : ∀ copy ∈ file.copies, ∀ bucket ∈ buckets, ¬ bucket.SpeltApart copy.url) :
    best (buckets.map Bucket.lowered) file = (best buckets file).map loweredPair := by
  rw [best, best, hosted_map_lowered alike, List.foldl_map]
  have fused (preferred : Option (Catalog.CopyRecord × Bucket)) :
      (hosted buckets file).foldl (fun best next => prefer best (loweredPair next))
        (preferred.map loweredPair) =
      ((hosted buckets file).foldl prefer preferred).map loweredPair :=
    List.foldl_hom (Option.map loweredPair) prefer_loweredPair
  exact fused none

theorem resolve_lowered {Client : Type} {resolver : Resolver Client} {file : Catalog.File}
    (alike : ∀ copy ∈ file.copies, ∀ bucket ∈ resolver.buckets, ¬ bucket.SpeltApart copy.url) :
    resolver.lowered.resolve file = resolver.resolve file := by
  rw [resolve, resolve]
  simp only [lowered]
  rw [best_map_lowered alike]
  cases best resolver.buckets file with
  | none => simp only [Option.map_none, noLocation, List.length_map]
  | some chosen => rfl

/-- **What the letters of a host decide.** Each bucket of a resolver and the one with its host in
lower case host the same addresses, but for those that tell the two spellings apart; there are such
addresses if and only if the host is not in lower case. A file none of whose copies lies at such an
address is resolved alike under either spelling of the hosts. -/
theorem hostsUrl_lowered {Client : Type} (resolver : Resolver Client) (file : Catalog.File) :
    (∀ bucket ∈ resolver.buckets, ∀ url,
      bucket.lowered.hostsUrl url = bucket.hostsUrl url ↔ ¬ bucket.SpeltApart url) ∧
    (∀ bucket ∈ resolver.buckets, (∀ url, bucket.lowered.hostsUrl url = bucket.hostsUrl url) ↔
      Text.lowerString bucket.host = bucket.host) ∧
    ((∀ copy ∈ file.copies, ∀ bucket ∈ resolver.buckets, ¬ bucket.SpeltApart copy.url) →
      resolver.lowered.resolve file = resolver.resolve file) := by
  refine ⟨fun _ _ _ => Bucket.hostsUrl_lowered_eq_iff,
    fun bucket _ => ⟨fun same => ?_, fun small => ?_⟩, resolve_lowered⟩
  · refine Bucket.lowerString_host_of_hostsUrl ?_
    rw [same]
    exact Bucket.hostsUrl_iff_under.mpr (.inr ⟨"", String.append_empty.symm⟩)
  · intro url
    rw [Bucket.lowered, small]

/-- A resolver with a bucket on a host that is configured with capital letters. -/
def capital : Resolver Unit where
  buckets := [.shorter]
  clients := [("aws", ())]

/-- A file with one copy. -/
def fileAt (url : String) : Catalog.File :=
  { Remote.twinFile with copies := [⟨url⟩] }

/-- Under the host with its region, a copy is found with either spelling. -/
theorem hostsUrl_lowered_region :
    (∀ copy ∈ (fileAt "https://s3.us-east-1.amazonaws.com/preservation/file").copies,
        ∀ bucket ∈ capital.buckets, ¬ bucket.SpeltApart copy.url) ∧
      capital.lowered.resolve (fileAt "https://s3.us-east-1.amazonaws.com/preservation/file") =
        .ok (⟨⟨"preservation", "aws", "https://s3.us-east-1.amazonaws.com/preservation/file"⟩,
          "file"⟩, ()) := by
  have alike : ∀ copy ∈ (fileAt "https://s3.us-east-1.amazonaws.com/preservation/file").copies,
      ∀ bucket ∈ capital.buckets, ¬ bucket.SpeltApart copy.url := by decide +kernel
  refine ⟨alike, ?_⟩
  rw [(hostsUrl_lowered capital _).2.2 alike]
  decide +kernel

/-- Under the host in lower case and without its region, a copy is found with one spelling only. -/
theorem hostsUrl_lowered_ne :
    Bucket.shorter.hostsUrl "https://s3.amazonaws.com/preservation/file" = false ∧
      Bucket.shorter.lowered.hostsUrl "https://s3.amazonaws.com/preservation/file" = true ∧
      capital.resolve (fileAt "https://s3.amazonaws.com/preservation/file") =
        .error (.noStorageLocation "example.edu/bag/data/file"
          "1 storage records, 1 preservation buckets") ∧
      capital.lowered.resolve (fileAt "https://s3.amazonaws.com/preservation/file") =
        .ok (⟨⟨"preservation", "aws", "https://s3.amazonaws.com/preservation/file"⟩,
          "file"⟩, ()) := by
  decide +kernel

end Resolver

end Fixity.Storage
