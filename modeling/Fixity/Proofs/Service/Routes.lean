/-
This file proves which requests reach the catalog and the stores. The router is
exact: a path leads to the endpoint whose path it is, and to no other. Ids and flags
are read as they are spelled, so that a request asks for a check or an audit exactly
if it is posted to such a path, with such a query; any other is answered at once.
-/

import Fixity.Proofs.Text.Cutting
import Fixity.Service.Routing

namespace Fixity.Service

/-! ### Paths -/

namespace Endpoint

/-- The path of an endpoint. -/
def path : Endpoint → List Char
  | liveness => "/healthz".toList
  | readiness => "/readyz".toList
  | check id => "/fixity/".toList ++ id
  | audit id => "/audit/".toList ++ id

/-- An id in the path of an endpoint is one segment of it, and not empty. -/
def IsProper : Endpoint → Prop
  | liveness | readiness => True
  | check id | audit id => id ≠ [] ∧ '/' ∉ id

/-- A path is cut into parts, as texts, exactly if it is these parts with slashes between them. -/
theorem segments_eq_iff {path : List Char} {parts : List String} (present : parts ≠ []) :
    (Text.splitAll '/' path).map String.ofList = parts ↔
      ['/'].intercalate (parts.map String.toList) = path ∧
        ∀ part ∈ parts, '/' ∉ part.toList := by
  have texts : (Text.splitAll '/' path).map String.ofList = parts ↔
      Text.splitAll '/' path = parts.map String.toList := by
    constructor
    · rintro rfl
      simp
    · intro cut
      rw [cut]
      simp
  rw [texts, Text.splitAll_eq_iff (by simpa using present)]
  simp

/-- The segments of the path of an endpoint. -/
def segments : Endpoint → List String
  | liveness => ["", "healthz"]
  | readiness => ["", "readyz"]
  | check id => ["", "fixity", String.ofList id]
  | audit id => ["", "audit", String.ofList id]

theorem segments_ne_nil (endpoint : Endpoint) : endpoint.segments ≠ [] := by
  cases endpoint <;> exact List.cons_ne_nil _ _

theorem path_eq_intercalate (endpoint : Endpoint) :
    ['/'].intercalate (endpoint.segments.map String.toList) = endpoint.path := by
  unfold segments path
  cases endpoint <;> simp [List.intercalate]

/-- **The router is exact.** A path leads to the endpoint whose path it is, and nowhere else. -/
theorem ofPath?_eq_some_iff {path : List Char} {endpoint : Endpoint} :
    ofPath? path = some endpoint ↔ endpoint.IsProper ∧ endpoint.path = path := by
  have cut : (Text.splitAll '/' path).map String.ofList = endpoint.segments ↔
      endpoint.path = path ∧ ∀ part ∈ endpoint.segments, '/' ∉ part.toList := by
    rw [segments_eq_iff endpoint.segments_ne_nil, path_eq_intercalate]
  constructor
  · intro found
    unfold ofPath? at found
    split at found
    case h_1 parts =>
      obtain rfl := Option.some.inj found
      exact ⟨True.intro, (cut.mp parts).1⟩
    case h_2 parts =>
      obtain rfl := Option.some.inj found
      exact ⟨True.intro, (cut.mp parts).1⟩
    case h_3 id parts | h_4 id parts =>
      by_cases empty : id.isEmpty = true
      · simp [empty] at found
      · rw [if_neg empty] at found
        obtain rfl := Option.some.inj found
        obtain ⟨joined, whole⟩ := cut.mp (by simpa [segments] using parts)
        exact ⟨⟨by simpa using empty, whole id (by simp [segments])⟩, joined⟩
    case h_5 => cases found
  · rintro ⟨proper, joined⟩
    cases endpoint with
    | liveness | readiness =>
      rw [ofPath?, cut.mpr ⟨joined, by decide⟩]
      rfl
    | check id | audit id =>
      obtain ⟨present, whole⟩ := proper
      rw [ofPath?, cut.mpr ⟨joined, by simp [segments, whole]⟩]
      simp [segments, present]

end Endpoint

/-! ### Ids -/

/-- A segment spells an id: with its escapes resolved it is the text of a signed number of
sixty-four bits. -/
def Spells (segment : List Char) (id : Int64) : Prop :=
  ∃ text, Text.Utf8.decode? (Text.Percent.decode segment) = some text ∧
    Text.readInt64 text = .ok id

theorem readId_eq_ok_iff {segment : List Char} {id : Int64} :
    readId segment = .ok id ↔ Spells segment id := by
  unfold readId Spells
  cases Text.Utf8.decode? (Text.Percent.decode segment) with
  | none => simp
  | some text => cases read : Text.readInt64 text <;> simp [read]

/-! ### Flags -/

/-- The values of the parameters that ask for a full audit. -/
def flagValues (parameters : List (String × String)) : List String :=
  parameters.filterMap fun (name, value) => if name = "full" then some value else none

/-- The text of a flag. -/
def flagText (flag : Bool) : String :=
  if flag then "true" else "false"

/-- A query wants a full audit, or none: it says so once, or it says nothing of it and wants none. -/
def Wants (query : List Char) (full : Bool) : Prop :=
  flagValues (parameters query) = [] ∧ full = false ∨
    flagValues (parameters query) = [flagText full]

theorem readFlag_eq_ok_iff {found result : Option Bool} {parameters : List (String × String)} :
    readFlag found parameters = .ok result ↔
      flagValues parameters = [] ∧ result = found ∨
        found = none ∧ ∃ flag, flagValues parameters = [flagText flag] ∧ result = some flag := by
  induction parameters generalizing found with
  | nil => simp [readFlag, flagValues, eq_comm]
  | cons parameter rest inductionHypothesis =>
    obtain ⟨name, value⟩ := parameter
    by_cases full : name = "full"
    · subst full
      have values : flagValues (("full", value) :: rest) = value :: flagValues rest := rfl
      have texts : "true" ≠ "false" := by decide
      rw [readFlag, values, if_neg (not_not_intro rfl)]
      cases found with
      | some flag => simp
      | none =>
        by_cases yes : value = "true"
        · simp [yes, inductionHypothesis, flagText, texts]
        · by_cases no : value = "false"
          · simp [no, inductionHypothesis, flagText, texts.symm]
          · simp [yes, no, flagText]
    · have values : flagValues ((name, value) :: rest) = flagValues rest := by
        simp [flagValues, full]
      rw [readFlag, values, if_pos full, inductionHypothesis]

theorem readFull_eq_ok_iff {query : List Char} {full : Bool} :
    readFull query = .ok full ↔ Wants query full := by
  have read : readFull query = .ok full ↔
      ∃ found, readFlag none (parameters query) = .ok found ∧ found.getD false = full := by
    unfold readFull
    cases readFlag none (parameters query) <;> simp [Except.map]
  rw [read, Wants]
  simp only [readFlag_eq_ok_iff]
  constructor
  · rintro ⟨found, ⟨silent, rfl⟩ | ⟨-, flag, said, rfl⟩, rfl⟩
    · exact .inl ⟨silent, rfl⟩
    · exact .inr said
  · rintro (⟨silent, rfl⟩ | said)
    · exact ⟨none, .inl ⟨silent, rfl⟩, rfl⟩
    · exact ⟨some full, .inr ⟨True.intro, full, said, rfl⟩, rfl⟩

/-! ### Requests -/

/-- A request is posted to a path that ends in a segment which spells an id. -/
def Posts (request : Request) (beginning : String) (id : Int64) : Prop :=
  request.method = .post ∧ ∃ segment, request.target.path = beginning.toList ++ segment ∧
    '/' ∉ segment ∧ Spells segment id

/-- A request asks for the check of the file with an id. -/
def AsksCheck (request : Request) (id : Int64) : Prop :=
  Posts request "/fixity/" id

/-- A request asks for an audit, full or not, of the file with an id. -/
def AsksAudit (request : Request) (full : Bool) (id : Int64) : Prop :=
  Posts request "/audit/" id ∧ Wants request.target.query full

theorem Spells.ne_nil {segment : List Char} {id : Int64} (spells : Spells segment id) :
    segment ≠ [] := by
  rintro rfl
  cases readId_eq_ok_iff.mpr spells

/-- What is posted to an endpoint that takes posts is answered there. -/
theorem respond_post {request : Request} (deployment : Deployment) (endpoint : Endpoint)
    (post : request.method = .post) (proper : endpoint.IsProper)
    (path : request.target.path = endpoint.path) (taken : Method.post ∈ endpoint.methods) :
    respond deployment request = answer deployment request.target.query endpoint := by
  unfold respond
  rw [Endpoint.ofPath?_eq_some_iff.mpr ⟨proper, path.symm⟩, post]
  dsimp only
  rw [if_pos taken]
  simp only [reduceCtorEq, if_false, bind_pure]

theorem AsksCheck.respond_eq {request : Request} {id : Int64} (asks : AsksCheck request id)
    (deployment : Deployment) :
    respond deployment request =
      if id ≤ 0 then return .problem (invalidId id)
      else do
        let report ← Check.check deployment.settings id
        logReport report
        return .json (if report.hasFatalIssue then .unprocessable else .ok) report.toJson := by
  obtain ⟨post, segment, path, whole, spells⟩ := asks
  have answered := respond_post deployment (.check segment) post ⟨spells.ne_nil, whole⟩ path
    (List.mem_singleton_self _)
  rw [answer, answerCheck, readId_eq_ok_iff.mpr spells] at answered
  exact answered

/-- What is posted to the path of an audit is answered by its query. -/
theorem Posts.respond_audit {request : Request} {id : Int64} (posts : Posts request "/audit/" id)
    (deployment : Deployment) :
    respond deployment request =
      match readFull request.target.query with
      | .error refusal => return .badRequest refusal.message
      | .ok full =>
        if id ≤ 0 then return .problem (invalidId id)
        else do
          let record ← Audit.audit full id
          return .json .ok record.toJson := by
  obtain ⟨post, segment, path, whole, spells⟩ := posts
  have answered := respond_post deployment (.audit segment) post ⟨spells.ne_nil, whole⟩ path
    (List.mem_singleton_self _)
  rw [answer, answerAudit, readId_eq_ok_iff.mpr spells] at answered
  exact answered

theorem AsksAudit.respond_eq {request : Request} {full : Bool} {id : Int64}
    (asks : AsksAudit request full id) (deployment : Deployment) :
    respond deployment request =
      if id ≤ 0 then return .problem (invalidId id)
      else do
        let record ← Audit.audit full id
        return .json .ok record.toJson := by
  rw [asks.1.respond_audit deployment, readFull_eq_ok_iff.mpr asks.2]

end Fixity.Service
