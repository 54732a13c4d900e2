/-
This file proves that the digest of a body does not depend on how the body is cut
into chunks. What is kept between two chunks is what the bytes so far leave when
they are absorbed at once, so the digest at the end is that of the whole content,
and a body has no digest exactly when some chunk of it cannot be read; then the first
such chunk tells why. A digest is a text of sixty-four lower-case hexadecimal digits; in
particular it is never empty.
-/

import Fixity.Proofs.Text.Hexadecimal
import Fixity.Storage.Object
import Fixity.Text.Utf8

namespace Fixity

/-! ### The length of a digest -/

namespace Text.Hex

theorem length_lower (bytes : List UInt8) : (lower bytes).length = 2 * bytes.length := by
  rw [lower, String.length_ofList, length_flatMap_lowerByte]

end Text.Hex

namespace Sha256

theorem State.length_bytes (s : State) : s.bytes.length = 32 := rfl

theorem length_digest (message : List UInt8) : (digest message).length = 64 := by
  rw [digest, Text.Hex.length_lower, State.length_bytes]

theorem digest_ne_empty (message : List UInt8) : digest message ≠ "" := by
  intro empty
  have length := length_digest message
  rw [empty] at length
  exact absurd length (by decide)

theorem mem_lowerDigits_of_mem_digest {message : List UInt8} {c : Char}
    (member : c ∈ (digest message).toList) : c ∈ Text.Hex.lowerDigits := by
  rw [digest, Text.Hex.lower, String.toList_ofList] at member
  exact Text.Hex.mem_lowerDigits_of_mem member

/-! ### Messages in parts -/

theorem absorb_of_lt (s : State) {bytes : List UInt8} (short : bytes.length < 64) :
    absorb s bytes = (s, bytes) := by
  rw [absorb, if_neg]
  rw [List.length_take]
  omega

theorem absorb_of_le (s : State) {bytes : List UInt8} (full : 64 ≤ bytes.length) :
    absorb s bytes = absorb (compress s (bytes.take 64)) (bytes.drop 64) := by
  rw [absorb, if_pos]
  rw [List.length_take]
  omega

/-- Bytes in two parts are absorbed like the whole: what the first part leaves goes before the
second. -/
theorem absorb_append (s : State) (first rest : List UInt8) :
    absorb s (first ++ rest) = absorb (absorb s first).1 ((absorb s first).2 ++ rest) := by
  induction s, first using absorb.induct with
  | case1 s first full inductionHypothesis =>
    rw [List.length_take] at full
    have enough : 64 ≤ first.length := by omega
    have longer : 64 ≤ (first ++ rest).length := by
      rw [List.length_append]
      omega
    rw [absorb_of_le s longer, absorb_of_le s enough, List.take_append_of_le_length enough,
      List.drop_append_of_le_length enough, inductionHypothesis]
  | case2 s first short =>
    rw [List.length_take] at short
    rw [absorb_of_lt s (by omega : first.length < 64)]

namespace Progress

/-- What is kept after a message: its full blocks are absorbed, and the bytes after them wait. -/
def ofMessage (message : List UInt8) : Progress :=
  let (state, pending) := absorb .initial message
  { state, pending, length := message.length }

theorem feed_ofMessage (message part : List UInt8) :
    (ofMessage message).feed part = ofMessage (message ++ part) := by
  simp only [feed, ofMessage, absorb_append .initial message part, List.length_append]

theorem finish_ofMessage (message : List UInt8) : (ofMessage message).finish = digest message := by
  simp only [finish, ofMessage, digest, absorb_append .initial message]

end Progress

end Sha256

/-! ### Bodies -/

namespace Storage.Body

/-- Chunks that can all be read extend the message that was taken before them. -/
theorem digestFrom_map_ok (message : List UInt8) (parts : List (List UInt8)) :
    digestFrom (.ofMessage message) (parts.map .ok) =
      .ok (Sha256.digest (message ++ parts.flatten)) := by
  induction parts generalizing message with
  | nil =>
    rw [List.map_nil, digestFrom, Sha256.Progress.finish_ofMessage, List.flatten_nil,
      List.append_nil]
  | cons part rest inductionHypothesis =>
    rw [List.map_cons, digestFrom, Sha256.Progress.feed_ofMessage, inductionHypothesis,
      List.flatten_cons, List.append_assoc]

/-- A body has a digest only if none of its chunks is a fault. -/
theorem eq_map_ok_of_digestFrom {progress : Sha256.Progress} {body : Body} {text : String}
    (known : digestFrom progress body = .ok text) :
    ∃ parts : List (List UInt8), body = parts.map .ok := by
  induction body generalizing progress with
  | nil => exact ⟨[], rfl⟩
  | cons chunk rest inductionHypothesis =>
    cases chunk with
    | error fault => cases known
    | ok bytes =>
      obtain ⟨parts, rfl⟩ := inductionHypothesis known
      exact ⟨bytes :: parts, rfl⟩

theorem digest_map_ok (parts : List (List UInt8)) :
    digest (parts.map .ok) = .ok (Sha256.digest parts.flatten) := by
  have start : ({} : Sha256.Progress) = .ofMessage [] := by
    rw [Sha256.Progress.ofMessage, Sha256.absorb_of_lt _ (by decide)]
    rfl
  rw [digest, start, digestFrom_map_ok, List.nil_append]

/-- A body has a digest exactly when none of its chunks is a fault, and then it is the digest of
what the chunks hold, one after the other. -/
theorem digest_eq_ok_iff {body : Body} {text : String} :
    body.digest = .ok text ↔
      ∃ parts : List (List UInt8), body = parts.map .ok ∧ text = Sha256.digest parts.flatten := by
  constructor
  · intro known
    obtain ⟨parts, rfl⟩ := eq_map_ok_of_digestFrom known
    rw [digest_map_ok] at known
    exact ⟨parts, rfl, (Except.ok.inj known).symm⟩
  · rintro ⟨parts, rfl, rfl⟩
    exact digest_map_ok parts

/-- The first fault of a body is told, whatever comes before and after it. -/
theorem digest_append_fault (parts : List (List UInt8)) (fault : String) (rest : Body) :
    digest (parts.map .ok ++ .error fault :: rest) = .error fault := by
  rw [digest]
  generalize ({} : Sha256.Progress) = progress
  induction parts generalizing progress with
  | nil => rfl
  | cons part parts inductionHypothesis => exact inductionHypothesis (progress.feed part)

/-- What the digest of a body is. Only a body without a fault has one: that of its bytes, wherever
they are cut, in sixty-four lower-case hexadecimal digits. Of others the first fault is told. -/
structure Digested (body : Body) : Prop where
  readable : (∃ text, body.digest = .ok text) ↔ ∀ chunk ∈ body, ∃ bytes, chunk = .ok bytes
  whole : ∀ parts : List (List UInt8), body = parts.map .ok →
    body.digest = .ok (Sha256.digest parts.flatten)
  faulty : ∀ (parts : List (List UInt8)) fault rest,
    body = parts.map .ok ++ .error fault :: rest → body.digest = .error fault
  text : ∀ text, body.digest = .ok text →
    text.length = 64 ∧ ∀ c ∈ text.toList, c ∈ Text.Hex.lowerDigits

theorem eq_map_ok_iff {body : Body} :
    (∃ parts : List (List UInt8), body = parts.map .ok) ↔
      ∀ chunk ∈ body, ∃ bytes, chunk = .ok bytes := by
  induction body with
  | nil => exact iff_of_true ⟨[], rfl⟩ nofun
  | cons chunk rest inductionHypothesis =>
    rw [List.forall_mem_cons, ← inductionHypothesis]
    constructor
    · rintro ⟨_ | ⟨bytes, parts⟩, same⟩
      · cases same
      · obtain ⟨rfl, rfl⟩ := List.cons.inj same
        exact ⟨⟨bytes, rfl⟩, parts, rfl⟩
    · rintro ⟨⟨bytes, rfl⟩, parts, rfl⟩
      exact ⟨bytes :: parts, rfl⟩

theorem digested (body : Body) : Digested body where
  readable := by
    rw [← eq_map_ok_iff]
    constructor
    · rintro ⟨text, known⟩
      exact eq_map_ok_of_digestFrom known
    · rintro ⟨parts, rfl⟩
      exact ⟨_, digest_map_ok parts⟩
  whole := by
    rintro parts rfl
    exact digest_map_ok parts
  faulty := by
    rintro parts fault rest rfl
    exact digest_append_fault parts fault rest
  text := by
    intro text known
    obtain ⟨parts, -, rfl⟩ := digest_eq_ok_iff.mp known
    exact ⟨Sha256.length_digest _, fun c member => Sha256.mem_lowerDigits_of_mem_digest member⟩

/-- The words of a greeting and the blank between them, chunk by chunk. -/
example :
    (digest (["hello", " ", "world"].map fun part => .ok (Text.Utf8.encode part.toList))).toOption =
      some "b94d27b9934d3e08a52e52d7da7dabfac484efe37a5380ee9088f7ace2efcde9" := by
  decide +kernel

end Storage.Body

end Fixity
