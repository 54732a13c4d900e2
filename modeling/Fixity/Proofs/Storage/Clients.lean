/-
This file says which buckets the stores of a resolver know. The configured buckets are
added one after the other, each to the store of its provider, which is taken out of the
list and put back. On the way no bucket is lost and none comes to another provider's
store: a provider has a store exactly if it has a bucket, and the store knows exactly
the names of its buckets. So a file can only fail to be resolved because nothing hosts
its copies, and the store that is found never refuses the bucket that was chosen.
-/

import Fixity.Proofs.Storage.Preference

namespace Fixity.Storage

namespace Remote

/-! ### Buckets that a store knows -/

/-- The store has addresses for what lies in a bucket of this name, and no call about it is refused
for an unknown bucket. -/
structure Knows (store : Remote) (name : String) : Prop where
  address : ∀ key, ∃ url, store.objectUrl name key = .ok url
  stat : ∀ {σ : Type} (network : Http.Network σ) (state : σ) (key other : String),
    (store.stat network state name key).1 ≠ .error (.unknownBucket other)
  get : ∀ {σ : Type} (network : Http.Network σ) (state : σ) (key other : String),
    (store.get network state name key).1 ≠ .error (.unknownBucket other)

/-- The store refuses every call about a bucket of this name before anything is sent. -/
structure Denies (store : Remote) (name : String) : Prop where
  address : ∀ key, store.objectUrl name key = .error (.unknownBucket name)
  stat : ∀ {σ : Type} (network : Http.Network σ) (state : σ) (key : String),
    store.stat network state name key = (.error (.unknownBucket name), state)
  get : ∀ {σ : Type} (network : Http.Network σ) (state : σ) (key : String),
    store.get network state name key = (.error (.unknownBucket name), state)

/-- What is made of an answer is never the failure of an unknown bucket, if the failures that are
made of reasons are not. -/
theorem succeeded_ne_unknownBucket (bucket key other : String) (failure : String → Failure)
    (own : ∀ reason, failure reason ≠ .unknownBucket other) (answer : Http.Answer) :
    succeeded bucket key failure answer ≠ .error (.unknownBucket other) := by
  cases answer with
  | error fault => exact fun refused => own _ (Except.error.inj refused)
  | ok reply =>
    rw [succeeded]
    split
    · rintro ⟨⟩
    · split
      · rintro ⟨⟩
      · exact fun refused => own _ (Except.error.inj refused)

theorem readStat_ne_unknownBucket (bucket key other : String) (answer : Http.Answer) :
    readStat bucket key answer ≠ .error (.unknownBucket other) := by
  have own : ∀ reason, Failure.stat bucket key reason ≠ .unknownBucket other := by rintro _ ⟨⟩
  have refused := succeeded_ne_unknownBucket bucket key other (.stat bucket key) own answer
  rw [readStat]
  cases told : succeeded bucket key (.stat bucket key) answer with
  | error failure =>
    intro same
    obtain rfl := Except.error.inj (show (.error failure : Except Failure Stat) = _ from same)
    exact refused told
  | ok reply =>
    dsimp only [bind, Except.bind]
    split <;> rintro ⟨⟩

theorem readBody_ne_unknownBucket (bucket key other : String) (answer : Http.Answer) :
    readBody bucket key answer ≠ .error (.unknownBucket other) := by
  have own : ∀ reason, Failure.get bucket key reason ≠ .unknownBucket other := by rintro _ ⟨⟩
  have refused := succeeded_ne_unknownBucket bucket key other (.get bucket key) own answer
  rw [readBody]
  cases told : succeeded bucket key (.get bucket key) answer with
  | error failure =>
    intro same
    obtain rfl := Except.error.inj (show (.error failure : Except Failure Body) = _ from same)
    exact refused told
  | ok reply => rintro ⟨⟩

theorem knows_of_lookup {store : Remote} {name endpoint : String}
    (known : store.endpoints.lookup name = some endpoint) : store.Knows name := by
  have address (key : String) : ∃ url, store.objectUrl name key = .ok url := by
    rw [objectUrl, known]
    exact ⟨_, rfl⟩
  refine ⟨address, fun network state key other => ?_, fun network state key other => ?_⟩
  all_goals obtain ⟨url, found⟩ := address key
  · rw [Remote.stat, found]
    exact readStat_ne_unknownBucket name key other _
  · rw [Remote.get, found]
    exact readBody_ne_unknownBucket name key other _

theorem denies_of_lookup {store : Remote} {name : String}
    (unknown : store.endpoints.lookup name = none) : store.Denies name := by
  have address (key : String) : store.objectUrl name key = .error (.unknownBucket name) := by
    rw [objectUrl, unknown]
  refine ⟨address, fun network state key => ?_, fun network state key => ?_⟩
  · rw [Remote.stat, address]
  · rw [Remote.get, address]

/-! ### One store per provider -/

/-- A provider has a store exactly if it has a bucket. -/
theorem isSome_lookup_foldl_addBucket (buckets : List Bucket) (provider : String) :
    ((buckets.foldl addBucket []).lookup provider).isSome = true ↔
      ∃ bucket ∈ buckets, bucket.provider = provider := by
  induction buckets using List.reverseRecOn with
  | nil => simp
  | append_singleton buckets last inductionHypothesis =>
    rw [List.foldl_concat, addBucket, List.lookup_cons]
    by_cases ours : provider = last.provider
    · rw [beq_iff_eq.mpr ours]
      exact iff_of_true rfl ⟨last, List.mem_concat_self, ours.symm⟩
    · rw [beq_false_of_ne ours, lookup_filter_ne ours, inductionHypothesis]
      simp [Ne.symm ours]

/-- What a provider's store knows of a name is the endpoint of the provider's last bucket with
it. -/
theorem lookup_endpoints {buckets : List Bucket} {provider : String} {store : Remote}
    (registered : (resolver buckets).client? provider = some store) (name : String) :
    store.endpoints.lookup name = (namesakes buckets provider name).getLast?.map endpointOf := by
  have known := endpointIn_foldl_addBucket buckets provider name
  rwa [endpointIn, show (buckets.foldl addBucket []).lookup provider = some store from registered,
    Option.bind_some] at known

end Remote

/-! ### Resolvers -/

namespace Resolver

theorem best_eq_none_iff_not_hosts {buckets : List Bucket} {file : Catalog.File} :
    best buckets file = none ↔ ∀ bucket ∈ buckets, ¬ Hosts bucket file := by
  rw [best_eq_none_iff]
  constructor
  · intro nowhere bucket configured hosts
    obtain ⟨place, copy, there⟩ := exists_hostedAt_iff.mpr ⟨configured, hosts⟩
    exact nowhere place (copy, bucket) there
  · intro nothing place pair there
    obtain ⟨configured, hosts⟩ := exists_hostedAt_iff.mp ⟨place, pair.1, there⟩
    exact nothing pair.2 configured hosts

/-- What is found for a file belongs to the preferred bucket, with the client of its provider. -/
theorem exists_best_of_resolve {resolver : Resolver Client} {file : Catalog.File} {source : Source}
    {client : Client} (resolved : resolver.resolve file = .ok (source, client)) :
    ∃ copy bucket, best resolver.buckets file = some (copy, bucket) ∧
      source = ⟨⟨bucket.name, bucket.provider, copy.url⟩, file.uuid⟩ ∧
      resolver.client? bucket.provider = some client := by
  rw [resolve] at resolved
  cases chosen : best resolver.buckets file with
  | none =>
    rw [chosen] at resolved
    cases resolved
  | some pair =>
    rw [chosen] at resolved
    dsimp only at resolved
    cases known : resolver.client? pair.2.provider with
    | none =>
      rw [known] at resolved
      cases resolved
    | some other =>
      rw [known] at resolved
      cases resolved
      exact ⟨pair.1, pair.2, rfl, rfl, known⟩

end Resolver

namespace Remote

/-- A provider's store knows the buckets of its provider. -/
theorem knows_of_client? {buckets : List Bucket} {provider : String} {store : Remote}
    (registered : (resolver buckets).client? provider = some store) {bucket : Bucket}
    (configured : bucket ∈ buckets) (ours : bucket.provider = provider) :
    store.Knows bucket.name := by
  have counted : bucket ∈ namesakes buckets provider bucket.name :=
    List.mem_filter.mpr ⟨configured, decide_eq_true ⟨ours, rfl⟩⟩
  have known := lookup_endpoints registered bucket.name
  rw [List.getLast?_eq_some_getLast (List.ne_nil_of_mem counted), Option.map_some] at known
  exact knows_of_lookup known

/-- A file is refused only where no bucket hosts a copy of it. -/
theorem resolve_eq_error_iff {buckets : List Bucket} {file : Catalog.File}
    {failure : Fixity.Failure} :
    (resolver buckets).resolve file = .error failure ↔
      failure = Resolver.noLocation buckets file ∧
        ∀ bucket ∈ buckets, ¬ Resolver.Hosts bucket file := by
  rw [← Resolver.best_eq_none_iff_not_hosts]
  cases chosen : Resolver.best buckets file with
  | none =>
    have refused : (resolver buckets).resolve file = .error (Resolver.noLocation buckets file) := by
      rw [Resolver.resolve, show (resolver buckets).buckets = buckets from rfl, chosen]
    rw [refused, Except.error.injEq, eq_comm, and_iff_left rfl]
  | some pair =>
    obtain ⟨store, last, -, -, resolved⟩ := exists_resolve chosen
    rw [resolved]
    refine iff_of_false ?_ ?_
    · rintro ⟨⟩
    · rintro ⟨-, ⟨⟩⟩

/-- The resolver of some buckets serves a file: it refuses the file only where no bucket hosts a
copy, and never for want of a client; the client that it finds is the provider's, and knows the
bucket. The providers with a client are those with a bucket, and each client knows the buckets of
its provider and no others. -/
structure Serves (buckets : List Bucket) (file : Catalog.File) : Prop where
  refused_iff : ∀ failure, (resolver buckets).resolve file = .error failure ↔
    failure = Resolver.noLocation buckets file ∧
      ∀ bucket ∈ buckets, ¬ Resolver.Hosts bucket file
  client : ∀ provider, (resolver buckets).resolve file ≠ .error (.missingClient provider)
  found : ∀ source store, (resolver buckets).resolve file = .ok (source, store) →
    (resolver buckets).client? source.location.provider = some store ∧
      store.Knows source.location.bucket
  client_iff : ∀ provider, (∃ store, (resolver buckets).client? provider = some store) ↔
    ∃ bucket ∈ buckets, bucket.provider = provider
  knows : ∀ provider store, (resolver buckets).client? provider = some store →
    ∀ bucket ∈ buckets, bucket.provider = provider → store.Knows bucket.name
  denies : ∀ provider store, (resolver buckets).client? provider = some store →
    ∀ name, (∀ bucket ∈ buckets, bucket.provider = provider → bucket.name ≠ name) →
      store.Denies name

/-- **What resolvers can address.** Whatever the buckets are, their resolver serves every file. -/
theorem serves_resolver (buckets : List Bucket) (file : Catalog.File) : Serves buckets file := by
  refine ⟨fun _ => resolve_eq_error_iff, ?client, ?found, ?client_iff,
    fun _ _ registered _ => knows_of_client? registered, ?denies⟩
  case client =>
    intro provider unserved
    cases (resolve_eq_error_iff.mp unserved).1
  case found =>
    intro source store resolved
    obtain ⟨copy, bucket, chosen, rfl, registered⟩ := Resolver.exists_best_of_resolve resolved
    exact ⟨registered, knows_of_client? registered (Resolver.of_best chosen).2.1 rfl⟩
  case client_iff =>
    intro provider
    rw [← isSome_lookup_foldl_addBucket, Option.isSome_iff_exists]
    rfl
  case denies =>
    intro provider store registered name foreign
    have nameless : namesakes buckets provider name = [] :=
      List.filter_eq_nil_iff.mpr fun bucket configured => by
        rw [decide_eq_true_eq, not_and]
        exact foreign bucket configured
    have unknown := lookup_endpoints registered name
    rw [nameless] at unknown
    exact denies_of_lookup unknown

end Remote

end Fixity.Storage
