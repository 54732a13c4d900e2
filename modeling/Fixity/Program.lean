/-
This file defines programs that reach the outside only by asking queries. A
program is the tree of what it asks and how it goes on with each answer. A world
answers queries; running a program in a world gives its value, the world's last
state and the exchanges in their order, so that what a program asks, logs and
writes can be spoken of for every world at once.
-/

import Fixity.Log
import Fixity.Premis.Event
import Fixity.Storage.Object
import Fixity.Storage.Selection
import Fixity.Time.Pause

namespace Fixity

/-! ### Queries -/

/-- What a program can ask of the outside. -/
inductive Query where
  | getFile (id : Int64)
  | resolve (file : Catalog.File)
  | stat (source : Storage.Source)
  | get (source : Storage.Source)
  | saveEvent (event : Premis.Event)
  | now
  | newUuid
  | pause (milliseconds : Nat)
  | log (entry : Log.Entry)

namespace Query

/-- What comes back from a query. -/
abbrev Answer : Query → Type
  | getFile _ => Except Catalog.Failure Catalog.File
  | resolve _ => Storage.Resolution
  | stat _ => Except Storage.Failure Storage.Stat
  | get _ => Except Storage.Failure Storage.Body
  | saveEvent _ => Except Catalog.Failure Unit
  | now => Time.Timestamp
  | newUuid => Uuid
  | pause _ => Unit
  | log _ => Unit

/-- The queries that are calls on the catalog or an object store. -/
def isCall : Query → Bool
  | getFile _ | stat _ | get _ | saveEvent _ => true
  | _ => false

end Query

/-! ### Programs -/

/-- A program that asks queries and ends with a value. -/
inductive Program (α : Type) where
  | done (value : α)
  | ask (query : Query) (next : query.Answer → Program α)

namespace Program

/-- Goes on with a second program after the first. -/
def andThen (program : Program α) (next : α → Program β) : Program β :=
  match program with
  | done value => next value
  | ask query rest => ask query fun answer => andThen (rest answer) next

instance : Monad Program where
  pure := done
  bind := andThen

theorem andThen_done (program : Program α) : program.andThen done = program := by
  induction program with
  | done value => rfl
  | ask query next inductionHypothesis =>
    simp only [andThen]
    exact congrArg (ask query) (funext inductionHypothesis)

theorem andThen_assoc (program : Program α) (f : α → Program β) (g : β → Program γ) :
    (program.andThen f).andThen g = program.andThen fun value => (f value).andThen g := by
  induction program with
  | done value => rfl
  | ask query next inductionHypothesis =>
    simp only [andThen]
    exact congrArg (ask query) (funext inductionHypothesis)

instance : LawfulMonad Program :=
  LawfulMonad.mk' Program
    (fun program => andThen_done program)
    (fun _ _ => rfl)
    andThen_assoc

/-- Asks one query. -/
def query (q : Query) : Program q.Answer :=
  ask q done

/-! ### Common queries -/

/-- The present time. -/
def now : Program Time.Timestamp :=
  query .now

/-- Writes an entry to the log. -/
def log (level : Log.Level) (origin : Log.Origin) (message : String) : Program Unit :=
  query (.log { level, origin, message })

/-- The source of the preferred copy of a file. The preferred bucket is logged. -/
def locate (file : Catalog.File) : Program (Except Failure Storage.Source) := do
  let resolution ← query (.resolve file)
  if let some bucket := resolution.preferred then
    log .info .selection s!"Most accessible source for {file.identifier} is {bucket}"
  return resolution.source

/-- The digest of the object of a source. -/
def digestOf (source : Storage.Source) : Program (Except Storage.Failure String) := do
  match ← query (.get source) with
  | .error failure => return .error failure
  | .ok body =>
    match Storage.Body.digest body with
    | .ok digest => return .ok digest
    | .error fault => return .error (.read source.location.bucket source.key fault)

end Program

/-! ### Worlds and runs -/

/-- A world answers queries and may change by answering. -/
structure World (σ : Type) where
  answer : σ → (query : Query) → query.Answer × σ

/-- A query together with its answer. -/
structure Exchange where
  query : Query
  answer : query.Answer

/-- What a run leaves: the value, the world's state, and the exchanges in their order. -/
structure Run (σ α : Type) where
  value : α
  state : σ
  exchanges : List Exchange

/-- Runs a program in a world. -/
def Program.run (world : World σ) (state : σ) : Program α → Run σ α
  | done value => ⟨value, state, []⟩
  | ask query next =>
    let (answer, state) := world.answer state query
    let rest := run world state (next answer)
    { rest with exchanges := ⟨query, answer⟩ :: rest.exchanges }

namespace Run

/-- The calls on the catalog and the stores, in order. -/
def calls (run : Run σ α) : List Query :=
  (run.exchanges.map Exchange.query).filter Query.isCall

/-- The log entries, in order. -/
def logs (run : Run σ α) : List Log.Entry :=
  run.exchanges.filterMap fun
    | ⟨.log entry, _⟩ => some entry
    | _ => none

/-- The events that were saved with success, in order. -/
def savedEvents (run : Run σ α) : List Premis.Event :=
  run.exchanges.filterMap fun
    | ⟨.saveEvent event, .ok ()⟩ => some event
    | _ => none

/-- The time spent in pauses, in milliseconds. -/
def paused (run : Run σ α) : Nat :=
  run.exchanges.foldl (fun
    | total, ⟨.pause milliseconds, _⟩ => total + Time.pauseLength milliseconds
    | total, _ => total) 0

end Run

end Fixity
