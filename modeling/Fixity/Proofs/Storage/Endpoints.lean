/-
This file follows the address that is requested for a chosen copy. The buckets of
one provider share a store, which knows an endpoint for each name of a bucket: that
of the last bucket with the name. Where all of them that share the chosen bucket's
name share its host too, and the host does not end in a slash, what is requested
lies in the chosen bucket; where one of them lies at another host, it need not.
-/

import Fixity.Proofs.Choice
import Fixity.Proofs.Storage.Hosting
import Fixity.Storage.Remote
import Mathlib.Data.List.Induction

namespace Fixity

namespace Storage

/-! ### Hosts -/

namespace Bucket

/-- A host with its region begins with the service label. -/
theorem serviceLabel_prefix_hostWithRegion (bucket : Bucket) :
    serviceLabel <+: bucket.hostWithRegion.toList := by
  cases named : hasRegion (Text.lower bucket.host.toList) with
  | true =>
    rw [hostWithRegion_of_hasRegion named, Text.toList_lowerString]
    exact serviceLabel_prefix_of_hasRegion named
  | false =>
    rw [toList_hostWithRegion_of_not_hasRegion named]
    exact List.prefix_append _ _

/-- What lies under the host with its region lies in the bucket. -/
theorem hostsUrl_baseAt_append (bucket : Bucket) (key : String) :
    bucket.hostsUrl (bucket.baseAt bucket.hostWithRegion ++ key) = true :=
  hostsUrl_iff_under.mpr (.inl ⟨key, rfl⟩)

end Bucket

/-! ### The chosen bucket -/

namespace Resolver

theorem prefer_eq_some {best : Option (Catalog.CopyRecord × Bucket)}
    {next chosen : Catalog.CopyRecord × Bucket} (found : prefer best next = some chosen) :
    best = some chosen ∨ next = chosen := by
  cases best with
  | none => exact .inr (Option.some.inj found)
  | some best =>
    rw [prefer] at found
    split at found
    · exact .inr (Option.some.inj found)
    · exact .inl found

/-- The preferred bucket is a configured one, and hosts the copy that is preferred with it. -/
theorem of_best {buckets : List Bucket} {file : Catalog.File} {copy : Catalog.CopyRecord}
    {bucket : Bucket} (chosen : best buckets file = some (copy, bucket)) :
    copy ∈ file.copies ∧ bucket ∈ buckets ∧ bucket.hostsUrl copy.url = true := by
  obtain ⟨⟨⟩⟩ | member := foldl_choose_eq_some prefer_eq_some chosen
  simp only [hosted, List.mem_flatMap, List.mem_map, List.mem_filter, Prod.mk.injEq] at member
  obtain ⟨_, there, _, ⟨configured, hosts⟩, rfl, rfl⟩ := member
  exact ⟨there, configured, hosts⟩

end Resolver

/-! ### Endpoints -/

namespace Remote

/-- The endpoint that the stores of some providers have for a bucket of one of them. -/
def endpointIn (stores : List (String × Remote)) (provider name : String) : Option String :=
  (stores.lookup provider).bind fun store => store.endpoints.lookup name

/-- The buckets of a provider that have a name. -/
def namesakes (buckets : List Bucket) (provider name : String) : List Bucket :=
  buckets.filter fun bucket => bucket.provider = provider ∧ bucket.name = name

theorem lookup_filter_ne {stores : List (String × Remote)} {provider other : String}
    (differ : provider ≠ other) :
    (stores.filter fun (key, _) => key != other).lookup provider = stores.lookup provider := by
  induction stores with
  | nil => rfl
  | cons entry rest inductionHypothesis =>
    obtain ⟨key, store⟩ := entry
    by_cases same : key = other
    · rw [List.filter_cons_of_neg (by simpa using same), inductionHypothesis, List.lookup_cons,
        beq_false_of_ne (same ▸ differ)]
    · rw [List.filter_cons_of_pos (by simpa using same), List.lookup_cons, List.lookup_cons,
        inductionHypothesis]

/-- A bucket that is added gives its own endpoint to its name, and changes no other. -/
theorem endpointIn_addBucket (stores : List (String × Remote)) (bucket : Bucket)
    (provider name : String) :
    endpointIn (addBucket stores bucket) provider name =
      if bucket.provider = provider ∧ bucket.name = name then some (endpointOf bucket)
      else endpointIn stores provider name := by
  rw [endpointIn, addBucket, List.lookup_cons]
  by_cases ours : bucket.provider = provider
  · subst ours
    rw [beq_self_eq_true]
    by_cases named : bucket.name = name
    · subst named
      simp [withBucket]
    · rw [if_neg (fun both => named both.2), endpointIn]
      cases stores.lookup bucket.provider <;>
        simp [withBucket, List.lookup_cons, beq_false_of_ne (Ne.symm named)]
  · rw [if_neg (fun both => ours both.1), beq_false_of_ne (Ne.symm ours)]
    exact congrArg (Option.bind · _) (lookup_filter_ne (Ne.symm ours))

/-- The stores of some buckets know the endpoint of the last bucket of a provider with a name. -/
theorem endpointIn_foldl_addBucket (buckets : List Bucket) (provider name : String) :
    endpointIn (buckets.foldl addBucket []) provider name =
      (namesakes buckets provider name).getLast?.map endpointOf := by
  induction buckets using List.reverseRecOn with
  | nil => rfl
  | append_singleton buckets bucket inductionHypothesis =>
    rw [List.foldl_concat, endpointIn_addBucket, namesakes, List.filter_append]
    by_cases counted : bucket.provider = provider ∧ bucket.name = name
    · rw [if_pos counted, List.filter_singleton, decide_eq_true counted, cond_true,
        List.getLast?_concat, Option.map_some]
    · rw [if_neg counted, List.filter_singleton, decide_eq_false counted, cond_false,
        List.append_nil, inductionHypothesis, namesakes]

/-! ### Requested addresses -/

/-- An endpoint has no slashes to drop where the host does not end in one. -/
theorem dropTrailingString_endpointOf {bucket : Bucket}
    (bare : bucket.hostWithRegion.toList.getLast? ≠ some '/') :
    Text.dropTrailingString '/' (endpointOf bucket) = endpointOf bucket := by
  have present : bucket.hostWithRegion.toList ≠ [] := by
    intro empty
    have begins := bucket.serviceLabel_prefix_hostWithRegion
    rw [empty, List.prefix_nil] at begins
    cases begins
  have same : (endpointOf bucket).toList.getLast? = bucket.hostWithRegion.toList.getLast? := by
    rw [endpointOf, String.toList_append, List.getLast?_append,
      List.getLast?_eq_some_getLast present, Option.some_or]
  rw [Text.dropTrailingString, Text.dropTrailing_eq_self (same ▸ bare), String.ofList_toList]

/-- A store that knows the endpoint of a bucket requests what lies under the bucket's host. -/
theorem objectUrl_of_lookup {store : Remote} {bucket : Bucket}
    (known : store.endpoints.lookup bucket.name = some (endpointOf bucket))
    (bare : bucket.hostWithRegion.toList.getLast? ≠ some '/') (key : String) :
    store.objectUrl bucket.name key = .ok (bucket.baseAt bucket.hostWithRegion ++ key) := by
  rw [objectUrl, known]
  dsimp only
  rw [dropTrailingString_endpointOf bare]
  simp only [endpointOf, Bucket.baseAt]

/-- The chosen copy of a file is found, with a store that knows the endpoint of the last namesake
of the chosen bucket. -/
theorem exists_resolve {buckets : List Bucket} {file : Catalog.File} {copy : Catalog.CopyRecord}
    {bucket : Bucket} (chosen : Resolver.best buckets file = some (copy, bucket)) :
    ∃ store last, (namesakes buckets bucket.provider bucket.name).getLast? = some last ∧
      store.endpoints.lookup bucket.name = some (endpointOf last) ∧
      (resolver buckets).resolve file =
        .ok (⟨⟨bucket.name, bucket.provider, copy.url⟩, file.uuid⟩, store) := by
  have counted : bucket ∈ namesakes buckets bucket.provider bucket.name :=
    List.mem_filter.mpr ⟨(Resolver.of_best chosen).2.1, decide_eq_true ⟨rfl, rfl⟩⟩
  have ends := List.getLast?_eq_some_getLast (List.ne_nil_of_mem counted)
  have known := endpointIn_foldl_addBucket buckets bucket.provider bucket.name
  rw [ends, Option.map_some, endpointIn, Option.bind_eq_some_iff] at known
  obtain ⟨store, registered, known⟩ := known
  refine ⟨store, _, ends, known, ?_⟩
  simp only [resolver, Resolver.resolve, chosen, Resolver.client?, registered]

/-- **Where a chosen copy is requested.** If all buckets of the chosen bucket's provider and name
have its host, and the host does not end in a slash, then the chosen copy is found, and the address
that is requested for it lies in the chosen bucket. -/
theorem hostsUrl_objectUrl {buckets : List Bucket} {file : Catalog.File}
    {copy : Catalog.CopyRecord} {bucket : Bucket}
    (chosen : Resolver.best buckets file = some (copy, bucket))
    (agree : ∀ other ∈ buckets, other.provider = bucket.provider → other.name = bucket.name →
      other.hostWithRegion = bucket.hostWithRegion)
    (bare : bucket.hostWithRegion.toList.getLast? ≠ some '/') :
    ∃ source store url, (resolver buckets).resolve file = .ok (source, store) ∧
      store.objectUrl source.location.bucket source.key = .ok url ∧
      bucket.hostsUrl url = true := by
  obtain ⟨store, last, ends, known, resolved⟩ := exists_resolve chosen
  obtain ⟨configured, sibling⟩ := List.mem_filter.mp (List.mem_of_getLast? ends)
  obtain ⟨provider, name⟩ := of_decide_eq_true sibling
  have endpoint : endpointOf last = endpointOf bucket := by
    rw [endpointOf, endpointOf, agree last configured provider name]
  rw [endpoint] at known
  exact ⟨_, store, _, resolved, objectUrl_of_lookup known bare file.uuid,
    bucket.hostsUrl_baseAt_append file.uuid⟩

/-- Two buckets of one provider and name that lie in different regions. -/
def twins : List Bucket :=
  [{ name := "preservation", provider := "example", host := "s3.example.org",
     region := "us-east-1", restorePriority := 1 },
   { name := "preservation", provider := "example", host := "s3.example.org",
     region := "us-west-2", restorePriority := 2 }]

/-- The same two buckets at two providers. -/
def rivals : List Bucket :=
  twins.zipWith (fun bucket provider => { bucket with provider }) ["example", "rival"]

/-- A file with a copy in the first of the two buckets. -/
def twinFile : Catalog.File where
  id := 1
  identifier := "example.edu/bag/data/file"
  uuid := "file"
  size := 1
  storageOption := "Standard"
  copies := [⟨"https://s3.us-east-1.example.org/preservation/file"⟩]
  institutionId := 1
  intellectualObjectId := 1
  createdAt := .epoch
  updatedAt := .epoch

/-- With two providers, an address in the first of the two buckets is requested. -/
theorem hostsUrl_objectUrl_rivals :
    Resolver.best rivals twinFile = some (twinFile.copies[0], rivals[0]) ∧
      (∀ other ∈ rivals, other.provider = rivals[0].provider → other.name = rivals[0].name →
        other.hostWithRegion = rivals[0].hostWithRegion) ∧
      rivals[0].hostWithRegion.toList.getLast? ≠ some '/' ∧
      ∃ source store url, (resolver rivals).resolve twinFile = .ok (source, store) ∧
        store.objectUrl source.location.bucket source.key = .ok url ∧
        rivals[0].hostsUrl url = true := by
  have chosen : Resolver.best rivals twinFile = some (twinFile.copies[0], rivals[0]) := by
    decide +kernel
  have agree : ∀ other ∈ rivals, other.provider = rivals[0].provider →
      other.name = rivals[0].name → other.hostWithRegion = rivals[0].hostWithRegion := by
    decide +kernel
  have bare : rivals[0].hostWithRegion.toList.getLast? ≠ some '/' := by decide +kernel
  exact ⟨chosen, agree, bare, hostsUrl_objectUrl chosen agree bare⟩

/-- The copy in the first of the two buckets is chosen, and an address in the second one is
requested for it. -/
theorem hostsUrl_objectUrl_twins_eq_false :
    ∃ copy bucket source store url, Resolver.best twins twinFile = some (copy, bucket) ∧
      (resolver twins).resolve twinFile = .ok (source, store) ∧
      store.objectUrl source.location.bucket source.key = .ok url ∧
      bucket.hostsUrl url = false := by
  refine ⟨⟨"https://s3.us-east-1.example.org/preservation/file"⟩, twins[0],
    ⟨⟨"preservation", "example", "https://s3.us-east-1.example.org/preservation/file"⟩, "file"⟩,
    ⟨[("preservation", "https://s3.us-west-2.example.org"),
      ("preservation", "https://s3.us-east-1.example.org")]⟩,
    "https://s3.us-west-2.example.org/preservation/file", ?_, ?_, ?_, ?_⟩
  all_goals decide +kernel

end Remote

end Storage

end Fixity
