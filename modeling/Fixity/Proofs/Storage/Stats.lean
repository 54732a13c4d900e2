/-
This file follows the stat of an object from the headers that a server writes. There may
be any number of them, in any order, with names in any letter case, repeated, and with
values that do not read as text. The size and the tag are read off the first header of
their name, and it counts even where its value cannot be read; of the metadata, each
value is the last readable one under its name, so that a value that cannot be read
leaves the one before it in place. Nothing else gets into the metadata. The headers are
those of the reply that redirects lead to, where there are any.
-/

import Fixity.Proofs.Http.Redirects
import Fixity.Proofs.Storage.Writes
import Fixity.Storage.Remote

namespace Fixity

/-! ### Headers by their names -/

namespace Http

namespace Header

/-- The header has this name, which is in lower case, in some letter case. -/
def isNamed (header : Header) (name : String) : Bool :=
  header.field.name == name

/-- The value as text, if it is readable. -/
def text? (header : Header) : Option String :=
  header.field.text?

end Header

/-- The value of the first header of a name, if that is readable. -/
def firstText? (headers : List Header) (name : String) : Option String :=
  (headers.find? (·.isNamed name)).bind Header.text?

/-- The last readable value among the headers of a name. -/
def lastText? (headers : List Header) (name : String) : Option String :=
  ((headers.filter (·.isNamed name)).filterMap Header.text?).getLast?

theorem text?_map_field (headers : List Header) (name : String) :
    Fields.text? (headers.map Header.field) name = firstText? headers name := by
  rw [Fields.text?, Fields.named, List.head?_filter, List.find?_map, firstText?]
  exact Option.bind_map

/-- One more header of the name is the last one if it is readable; else the value before stays. -/
theorem lastText?_concat (headers : List Header) (last : Header) (name : String) :
    lastText? (headers ++ [last]) name =
      if last.isNamed name then last.text?.or (lastText? headers name)
      else lastText? headers name := by
  rw [lastText?, List.filter_append, List.filterMap_append, List.getLast?_append,
    List.filter_singleton]
  cases last.isNamed name with
  | false => rfl
  | true =>
    cases readable : last.text? <;> simp [readable, lastText?]

/-- The name of a field that was read is in lower case. -/
theorem Header.lowerAscii_name (header : Header) :
    Text.lowerAscii header.field.name.toList = header.field.name.toList := by
  have each : ∀ n < 0x100, (Char.ofNat n).toLower.toLower = (Char.ofNat n).toLower := by
    decide +kernel
  rw [field, Text.lowerAsciiString, String.toList_ofList, String.toList_ofList, Text.lowerAscii,
    Text.lowerAscii, asciiText, List.map_map, List.map_map, List.map_map]
  exact List.map_congr_left fun b _ => each b.toNat b.toNat_lt

end Http

namespace Storage.Remote

/-! ### Metadata from headers -/

/-- A header gives its value to what its name has after the mark, if it has the mark and a readable
value, and touches nothing else. -/
theorem find?_takeField (metadata : Metadata) (header : Http.Header) (name : String) :
    (takeField metadata header.field).find? name =
      if header.isNamed (userMetadataMark ++ name) then header.text?.or (metadata.find? name)
      else metadata.find? name := by
  have named : header.isNamed (userMetadataMark ++ name) = true ↔
      userMetadataMark.toList ++ name.toList = header.field.name.toList := by
    rw [Http.Header.isNamed, beq_iff_eq, ← String.toList_inj, String.toList_append, eq_comm]
  rw [takeField]
  cases cut : Text.dropBeginning? userMetadataMark.toList header.field.name.toList with
  | none =>
    have foreign : ¬ header.isNamed (userMetadataMark ++ name) = true := fun same => by
      rw [← named.mp same, Text.dropBeginning?_append] at cut
      cases cut
    rw [if_neg foreign]
  | some rest =>
    have marked := Text.dropBeginning?_eq_some_iff.mp cut
    have key : normalizeKey header.field.name = String.ofList rest := by
      rw [normalizeKey, header.lowerAscii_name, cut, Option.getD_some]
    have same : header.isNamed (userMetadataMark ++ name) = true ↔ name = String.ofList rest := by
      rw [named, ← marked, List.append_cancel_left_eq, ← String.toList_inj, String.toList_ofList]
    rw [Http.Header.text?]
    cases header.field.text? with
    | none => rw [Option.none_or, ite_self]
    | some value =>
      dsimp only
      rw [Metadata.insert, Metadata.find?_put, key, Option.some_or]
      exact if_congr same.symm rfl rfl

theorem find?_metadataOf (headers : List Http.Header) (name : String) :
    (metadataOf (headers.map Http.Header.field)).find? name =
      Http.lastText? headers (userMetadataMark ++ name) := by
  rw [metadataOf, List.foldl_map]
  induction headers using List.reverseRecOn with
  | nil => rfl
  | append_singleton headers last inductionHypothesis =>
    rw [List.foldl_concat, find?_takeField, inductionHypothesis, Http.lastText?_concat]

/-! ### Stats from headers -/

theorem sizeOf?_eq_some_iff {headers : List Http.Header} {size : Int64} :
    sizeOf? (headers.map Http.Header.field) = some size ↔
      ∃ text, Http.firstText? headers "content-length" = some text ∧
        Text.readInt64 text.toList = .ok size := by
  rw [sizeOf?, Http.text?_map_field]
  cases Http.firstText? headers "content-length" with
  | none => simp
  | some text =>
    cases read : Text.readInt64 text.toList <;> simp [read]

theorem stripped_etagOf {headers : List Http.Header} {text : String}
    (first : Http.firstText? headers "etag" = some text) :
    Text.Stripped '"' text (etagOf (headers.map Http.Header.field)) := by
  rw [etagOf, Http.text?_map_field, first]
  exact Text.stripped_dropAroundString '"' text

theorem etagOf_eq_empty {headers : List Http.Header}
    (missing : Http.firstText? headers "etag" = none) :
    etagOf (headers.map Http.Header.field) = "" := by
  rw [etagOf, Http.text?_map_field, missing, Option.map_none, Option.getD_none]

/-- What is made of a reply to the request for a stat. -/
theorem readStat_ok (bucket key : String) (reply : Http.Reply) :
    readStat bucket key (.ok reply) =
      if reply.status.isSuccess then
        match sizeOf? reply.fields with
        | some size => .ok ⟨size, etagOf reply.fields, metadataOf reply.fields⟩
        | none => .error (.stat bucket key "missing or invalid Content-Length")
      else if reply.status = .notFound then .error (.objectNotFound bucket key)
      else .error (.stat bucket key ("unexpected status " ++ reply.status.text)) := by
  rw [readStat, succeeded]
  split
  · rfl
  · split <;> rfl

theorem readStat_eq_ok_iff {bucket key : String} {reply : Http.Reply} {stat : Stat} :
    readStat bucket key (.ok reply) = .ok stat ↔
      reply.status.isSuccess = true ∧ ∃ size, sizeOf? reply.fields = some size ∧
        stat = ⟨size, etagOf reply.fields, metadataOf reply.fields⟩ := by
  rw [readStat_ok]
  by_cases success : reply.status.isSuccess = true
  · rw [if_pos success, and_iff_right success]
    cases sizeOf? reply.fields with
    | none => simp
    | some size => simp [eq_comm]
  · rw [if_neg success]
    refine iff_of_false ?_ fun told => success told.1
    split <;> nofun

/-- What a stat makes of a reply with this status and these headers. A reply that reports success
gives a stat exactly if the first length among the headers can be read; the stat has that size, the
first tag without the quotes around it, and of the metadata the last readable value under each name.
Any other reply is a failure, that of a missing object or of the stat. -/
structure Faithful (bucket key : String) (status : Http.Status) (headers : List Http.Header)
    (result : Except Failure Stat) : Prop where
  ok_iff : status.isSuccess = true → ((∃ stat, result = .ok stat) ↔
    ∃ text size, Http.firstText? headers "content-length" = some text ∧
      Text.readInt64 text.toList = .ok size)
  unsized : status.isSuccess = true → (∀ stat, result ≠ .ok stat) →
    ∃ reason, result = .error (.stat bucket key reason)
  size : ∀ stat, result = .ok stat → ∃ text,
    Http.firstText? headers "content-length" = some text ∧
      Text.readInt64 text.toList = .ok stat.size
  tagged : ∀ stat, result = .ok stat → ∀ text, Http.firstText? headers "etag" = some text →
    Text.Stripped '"' text stat.etag
  untagged : ∀ stat, result = .ok stat → Http.firstText? headers "etag" = none → stat.etag = ""
  metadata : ∀ stat, result = .ok stat → ∀ key : MetaKey,
    stat.metadata.get key = (Http.lastText? headers (userMetadataMark ++ key.name)).getD ""
  entries : ∀ stat, result = .ok stat → ∀ name,
    stat.metadata.find? name = Http.lastText? headers (userMetadataMark ++ name)
  missing : status.code = 404 → result = .error (.objectNotFound bucket key)
  failed : status.isSuccess = false → status.code ≠ 404 →
    ∃ reason, result = .error (.stat bucket key reason)

theorem faithful_readStat (bucket key : String) (reply : Http.Reply) (headers : List Http.Header)
    (written : reply.fields = headers.map Http.Header.field) :
    Faithful bucket key reply.status headers (readStat bucket key (.ok reply)) := by
  have told_iff (stat : Stat) : readStat bucket key (.ok reply) = .ok stat ↔
      reply.status.isSuccess = true ∧ ∃ size,
        sizeOf? (headers.map Http.Header.field) = some size ∧
          stat = ⟨size, etagOf (headers.map Http.Header.field),
            metadataOf (headers.map Http.Header.field)⟩ := by
    rw [readStat_eq_ok_iff, written]
  have entries (stat : Stat) (told : readStat bucket key (.ok reply) = .ok stat) (name : String) :
      stat.metadata.find? name = Http.lastText? headers (userMetadataMark ++ name) := by
    obtain ⟨-, size, -, rfl⟩ := (told_iff stat).mp told
    exact find?_metadataOf headers name
  refine ⟨?ok_iff, ?unsized, ?size, ?tagged, ?untagged, ?metadata, entries, ?missing, ?failed⟩
  case ok_iff =>
    intro success
    constructor
    · rintro ⟨stat, told⟩
      obtain ⟨-, size, found, -⟩ := (told_iff stat).mp told
      obtain ⟨text, first, read⟩ := sizeOf?_eq_some_iff.mp found
      exact ⟨text, size, first, read⟩
    · rintro ⟨text, size, first, read⟩
      have found := sizeOf?_eq_some_iff.mpr ⟨text, first, read⟩
      exact ⟨_, (told_iff _).mpr ⟨success, size, found, rfl⟩⟩
  case unsized =>
    intro success refused
    rw [readStat_ok, if_pos success] at refused ⊢
    cases found : sizeOf? reply.fields with
    | none => exact ⟨_, rfl⟩
    | some size =>
      rw [found] at refused
      exact absurd rfl (refused _)
  case size =>
    intro stat told
    obtain ⟨-, size, found, rfl⟩ := (told_iff stat).mp told
    exact sizeOf?_eq_some_iff.mp found
  case tagged =>
    intro stat told text first
    obtain ⟨-, size, -, rfl⟩ := (told_iff stat).mp told
    exact stripped_etagOf first
  case untagged =>
    intro stat told missing
    obtain ⟨-, size, -, rfl⟩ := (told_iff stat).mp told
    exact etagOf_eq_empty missing
  case metadata =>
    intro stat told key
    rw [Metadata.get, entries stat told]
  case missing =>
    intro code
    have status : reply.status = .notFound := congrArg Http.Status.mk code
    rw [readStat_ok, status]
    rfl
  case failed =>
    intro unsuccessful code
    have status : reply.status ≠ .notFound := fun same => code (congrArg Http.Status.code same)
    rw [readStat_ok, unsuccessful, if_neg Bool.false_ne_true, if_neg status]
    exact ⟨_, rfl⟩

/-- **Stats are faithful.** What the stat of an object says is what the headers of the reply say,
whatever they are: those of the reply that a request comes to, and those that a host writes, be it
the first one or one that redirects lead to. Without a reply the stat fails with the fault. -/
theorem faithful_stat (network : Http.Network σ) (state : σ) (store : Remote)
    (bucket key url : String) (known : store.objectUrl bucket key = .ok url) :
    (∀ reply headers, (network.send state (statRequest url)).1 = .ok reply →
      reply.fields = headers.map Http.Header.field →
      Faithful bucket key reply.status headers (store.stat network state bucket key).1) ∧
    (∀ dispatch (response : Http.Response), (statRequest url).dispatch = .ok dispatch →
      network.Brings Http.mostRedirects state dispatch response →
      Faithful bucket key response.status response.headers
        (store.stat network state bucket key).1) ∧
    ∀ fault, (network.send state (statRequest url)).1 = .error fault →
      (store.stat network state bucket key).1 = .error (.stat bucket key fault.message) := by
  have told {answer : Http.Answer} (answered : (network.send state (statRequest url)).1 = answer) :
      (store.stat network state bucket key).1 = readStat bucket key answer := by
    rw [stat, known, ← answered]
  have replied : ∀ reply headers, (network.send state (statRequest url)).1 = .ok reply →
      reply.fields = headers.map Http.Header.field →
      Faithful bucket key reply.status headers (store.stat network state bucket key).1 := by
    intro reply headers answered written
    rw [told answered]
    exact faithful_readStat bucket key reply headers written
  refine ⟨replied, ?_, ?_⟩
  · intro dispatch response sent brings
    exact replied _ response.headers (Http.Network.send_of_brings rfl sent brings) rfl
  · intro fault unanswered
    rw [told unanswered]
    rfl

/-- A header from texts of ASCII characters. -/
def spelled (name value : String)
    (held : Text.Utf8.encode name.toList ≠ [] ∧
      (∀ b ∈ Text.Utf8.encode name.toList, Http.isNameByte b = true) ∧
      ∀ b ∈ Text.Utf8.encode value.toList, Http.isValueByte b = true := by decide +kernel) :
    Http.Header where
  name := Text.Utf8.encode name.toList
  value := Text.Utf8.encode value.toList
  named := held.1
  nameBytes := held.2.1
  valueBytes := held.2.2

/-- A redirect to another path of the same host. -/
def moved : Http.Response where
  code := 302
  phrase := Text.Utf8.encode "Found".toList
  headers := [spelled "Location" "../copies/file"]
  final := by decide
  short := by decide
  phraseBytes := by decide +kernel

/-- A reply with names in several letter cases, some of them repeated. The second of the two
institutions is no text, and the bag is named once without the mark of metadata. -/
def repeating : Http.Response where
  code := 200
  phrase := Text.Utf8.encode "OK".toList
  headers := [
    spelled "content-LENGTH" " 44",
    spelled "ETag" "\"\"abc\"",
    spelled "eTAG" "other",
    spelled "X-Amz-Meta-Institution" "test.edu ",
    { spelled "x-amz-meta-INSTITUTION" "" with value := [0xFF], valueBytes := by decide +kernel },
    spelled "x-amz-meta-bag" "first",
    spelled "X-AMZ-META-BAG" "second",
    spelled "bag" "third"]
  final := by decide
  short := by decide
  phraseBytes := by decide +kernel

theorem fits_moved : moved.Fits := by
  constructor <;> decide +kernel

theorem fits_repeating : repeating.Fits := by
  constructor <;> decide +kernel

/-- The redirect is followed. The value that is no text leaves the institution before it in place,
the later bag counts, and of two tags the first one without its quotes. A host that is not there
fails the stat. -/
theorem faithful_stat_repeating :
    let store : Remote := Remote.withBucket {} "preservation" "http://[::1]"
    let network : Http.Network Nat :=
      ⟨fun asked _ => (some ((if asked = 0 then moved else repeating).bytes ++ []), asked + 1)⟩
    let deserted : Http.Network Nat := ⟨fun asked _ => (none, asked + 1)⟩
    let url := "http://[::1]/preservation/file"
    let result := (store.stat network 0 "preservation" "file").1
    store.objectUrl "preservation" "file" = .ok url ∧
      (network.send 0 (statRequest url)).1 = .ok repeating.reply ∧
      (∃ dispatch, (statRequest url).dispatch = .ok dispatch ∧
        (dispatch.referral? moved.reply).map Http.Url.text = some "http://[::1]/copies/file" ∧
        network.Brings Http.mostRedirects 0 dispatch repeating) ∧
      (∃ stat, result = .ok stat) ∧
      (∀ stat, result = .ok stat → Text.Stripped '"' "\"\"abc\"" stat.etag ∧
        stat.metadata.get .institution = "test.edu" ∧ stat.metadata.get .bag = "second") ∧
      (deserted.send 0 (statRequest url)).1 = .error (.unsent url) ∧
      (store.stat deserted 0 "preservation" "file").1 =
        .error (.stat "preservation" "file" (Http.Fault.unsent url).message) := by
  intro store network deserted url result
  have known : store.objectUrl "preservation" "file" = .ok url := by decide +kernel
  have built : ((statRequest url).dispatch.toOption.bind fun dispatch =>
      (dispatch.referral? moved.reply).map fun there =>
        (dispatch.url.text, there.text, there.isWeb)) =
      some (url, "http://[::1]/copies/file", true) := by
    decide +kernel
  have length : Http.firstText? repeating.headers "content-length" = some "44" := by decide +kernel
  have size : Text.readInt64 "44".toList = .ok 44 := by decide +kernel
  have tag : Http.firstText? repeating.headers "etag" = some "\"\"abc\"" := by decide +kernel
  have institution : Http.lastText? repeating.headers
      (userMetadataMark ++ MetaKey.institution.name) = some "test.edu" := by
    decide +kernel
  have bag : Http.lastText? repeating.headers (userMetadataMark ++ MetaKey.bag.name) =
      some "second" := by
    decide +kernel
  cases sent : (statRequest url).dispatch with
  | error fault =>
    rw [sent] at built
    simp only [Except.toOption, Option.bind_none, reduceCtorEq] at built
  | ok dispatch =>
    rw [sent] at built
    simp only [Except.toOption, Option.bind_some, Option.map_eq_some_iff, Prod.mk.injEq] at built
    obtain ⟨there, referred, here, text, web⟩ := built
    have first : (network.deliver 0 dispatch).1 = some (moved.bytes ++ []) := rfl
    have second (next : Http.Dispatch) :
        (network.deliver 1 next).1 = some (repeating.bytes ++ []) := rfl
    have brings : network.Brings Http.mostRedirects 0 dispatch repeating :=
      .redirected first fits_moved referred web
        (.atOnce (second _) fits_repeating (Http.Dispatch.referral?_of_not_isRedirect rfl))
    have silent : (deserted.deliver 0 dispatch).1 = none := rfl
    have lost : (deserted.send 0 (statRequest url)).1 = .error (.unsent url) := by
      rw [Http.Network.send_of_silence sent silent, here]
    have answered := Http.Network.send_of_brings rfl sent brings
    obtain ⟨replied, brought, -⟩ := faithful_stat network 0 store "preservation" "file" url known
    obtain ⟨-, -, failed⟩ := faithful_stat deserted 0 store "preservation" "file" url known
    have reply := replied _ repeating.headers answered rfl
    have bytes := brought dispatch repeating sent brings
    have present := (reply.ok_iff rfl).mpr ⟨"44", 44, length, size⟩
    refine ⟨known, answered, ⟨dispatch, rfl, ?_, brings⟩, present, ?_, lost, failed _ lost⟩
    · rw [referred, Option.map_some, text]
    · intro stat told
      refine ⟨bytes.tagged stat told _ tag, ?_, ?_⟩
      · rw [bytes.metadata stat told, institution, Option.getD_some]
      · rw [bytes.metadata stat told, bag, Option.getD_some]

end Storage.Remote

end Fixity
