/-
This file says what finding a copy of a file and reading it come to. Each is one
dealing, and its result is a function of the answer: the source that was chosen,
and the digest of the body, which is known exactly when the whole body arrives.
-/

import Fixity.Proofs.Answers
import Fixity.Proofs.Streaming

namespace Fixity

namespace Storage

/-- The digest that the answer to a read gives, or why there is none. -/
def digestOfAnswer (source : Source) : Except Failure Body → Except Failure String
  | .error failure => .error failure
  | .ok body =>
    match body.digest with
    | .ok digest => .ok digest
    | .error fault => .error (.read source.location.bucket source.key fault)

/-- The digest is known exactly when the body arrives without a fault, and then it is the digest of
all its bytes. -/
theorem digestOfAnswer_eq_ok_iff {source : Source} {answer : Except Failure Body} {text : String} :
    digestOfAnswer source answer = .ok text ↔
      ∃ parts : List (List UInt8), answer = .ok (parts.map .ok) ∧
        text = Sha256.digest parts.flatten := by
  cases answer with
  | error failure =>
    constructor
    · rintro ⟨⟩
    · rintro ⟨_, ⟨⟩, _⟩
  | ok body =>
    have known : digestOfAnswer source (.ok body) = .ok text ↔ body.digest = .ok text := by
      rw [digestOfAnswer]
      cases body.digest <;> simp
    rw [known, Body.digest_eq_ok_iff]
    simp only [Except.ok.injEq]

end Storage

namespace Program

/-- Finding a copy is one dealing, which tells the source. -/
theorem locate_yields {file : Catalog.File} {exchanges : List Exchange}
    {result : Except Failure Storage.Source} (yields : (locate file).Yields exchanges result) :
    ∃ resolution : Storage.Resolution,
      dealings exchanges = [⟨.resolve file, resolution⟩] ∧ result = resolution.source := by
  obtain ⟨resolution, rest, announced, asked⟩ := dealing_yields rfl yields
  refine ⟨resolution, ?_⟩
  rw [asked]
  -- The preferred bucket is only logged.
  split at announced
  · obtain ⟨last, ended, same⟩ := log_yields announced
    rw [same, (pure_yields ended).1]
    exact ⟨rfl, (pure_yields ended).2⟩
  · rw [(pure_yields announced).1]
    exact ⟨rfl, (pure_yields announced).2⟩

/-- Reading a copy is asking for its body, whose digest is told. -/
theorem digestOf_eq (source : Storage.Source) :
    digestOf source =
      query (.get source) >>= fun answer => pure (Storage.digestOfAnswer source answer) := by
  refine congrArg (query (.get source) >>= ·) (funext fun answer => ?_)
  cases answer with
  | error failure => rfl
  | ok body =>
    dsimp only [Storage.digestOfAnswer]
    cases body.digest <;> rfl

/-- Reading a copy is one dealing, whose answer tells the digest. -/
theorem digestOf_yields {source : Storage.Source} {exchanges : List Exchange}
    {result : Except Storage.Failure String} (yields : (digestOf source).Yields exchanges result) :
    ∃ answer : Except Storage.Failure Storage.Body,
      dealings exchanges = [⟨.get source, answer⟩] ∧
        result = Storage.digestOfAnswer source answer := by
  rw [digestOf_eq] at yields
  obtain ⟨answer, rest, told, asked⟩ := dealing_yields rfl yields
  refine ⟨answer, ?_⟩
  rw [asked, (pure_yields told).1]
  exact ⟨rfl, (pure_yields told).2⟩

end Program

end Fixity
