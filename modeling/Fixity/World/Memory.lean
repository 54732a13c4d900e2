/-
This file defines a world that is held in memory. Its catalog answers from a table
of files, each after a delay; its stores answer from a table of objects, the same
for every provider; saved events meet with a queue of results, and with success
once the queue is empty. Clock and identifiers are fixed.
-/

import Fixity.Program

namespace Fixity

/-! ### Contents -/

/-- What the catalog answers for a file, and after how many milliseconds. -/
structure MemoryFile where
  id : Int64
  result : Except Catalog.Failure Catalog.File
  delay : Nat := 0

/-- What the stores answer for an object. -/
structure MemoryObject where
  bucket : String
  key : String
  stat : Except Storage.Failure Storage.Stat
  body : Except Storage.Failure Storage.Body

/-- The contents of a world in memory, with the milliseconds that have passed in it. -/
structure Memory where
  files : List MemoryFile := []
  objects : List MemoryObject := []
  saveResults : List (Except Catalog.Failure Unit) := []
  resolver : Storage.Resolver Unit := ⟨[], []⟩
  time : Time.Timestamp := .epoch
  uuid : Uuid := .nil
  elapsed : Nat := 0

namespace Memory

/-! ### Changes -/

/-- Puts a file in place of the one with its id, or at the end. -/
def setFile (memory : Memory) (file : MemoryFile) : Memory :=
  { memory with files := (memory.files.filter fun other => other.id != file.id) ++ [file] }

/-- Takes a file away. -/
def removeFile (memory : Memory) (id : Int64) : Memory :=
  { memory with files := memory.files.filter fun other => other.id != id }

/-- The object lies in the bucket under the key. -/
def isAt (bucket key : String) (object : MemoryObject) : Bool :=
  object.bucket == bucket && object.key == key

/-- Puts an object in place of the one at its place, or at the end. -/
def setObject (memory : Memory) (object : MemoryObject) : Memory :=
  { memory with
    objects := (memory.objects.filter fun other => !isAt object.bucket object.key other) ++ [object] }

/-- Takes an object away. -/
def removeObject (memory : Memory) (bucket key : String) : Memory :=
  { memory with objects := memory.objects.filter fun other => !isAt bucket key other }

/-- Appends a result to those that saved events meet with. -/
def queueSave (memory : Memory) (result : Except Catalog.Failure Unit) : Memory :=
  { memory with saveResults := memory.saveResults ++ [result] }

/-! ### Answers -/

/-- The entry of a file. -/
def file? (memory : Memory) (id : Int64) : Option MemoryFile :=
  memory.files.find? fun file => file.id == id

/-- The milliseconds after which the catalog answers for a file. -/
def delayOf (memory : Memory) (id : Int64) : Nat :=
  Time.pauseLength (((memory.file? id).map MemoryFile.delay).getD 0)

/-- What the catalog answers for a file. -/
def getFile (memory : Memory) (id : Int64) : Except Catalog.Failure Catalog.File :=
  match memory.file? id with
  | some file => file.result
  | none => .error (.notFound ("file " ++ Text.writeInt64 id))

/-- The entry of an object. -/
def object? (memory : Memory) (source : Storage.Source) : Option MemoryObject :=
  memory.objects.find? (isAt source.location.bucket source.key)

/-- What is said of an object that is not there. -/
def missing (source : Storage.Source) : Storage.Failure :=
  .objectNotFound source.location.bucket source.key

/-- What a store answers to a stat. -/
def stat (memory : Memory) (source : Storage.Source) : Except Storage.Failure Storage.Stat :=
  match memory.object? source with
  | some object => object.stat
  | none => .error (missing source)

/-- What a store answers to a read. -/
def get (memory : Memory) (source : Storage.Source) : Except Storage.Failure Storage.Body :=
  match memory.object? source with
  | some object => object.body
  | none => .error (missing source)

/-- Lets time pass. -/
def pass (memory : Memory) (milliseconds : Nat) : Memory :=
  { memory with elapsed := memory.elapsed + milliseconds }

/-- What a saved event meets with, and the rest of the queue. -/
def save (memory : Memory) : Except Catalog.Failure Unit × Memory :=
  match memory.saveResults with
  | [] => (.ok (), memory)
  | result :: rest => (result, { memory with saveResults := rest })

/-- The world of a memory. -/
def world : World Memory where
  answer memory
    | .getFile id => (memory.getFile id, memory.pass (memory.delayOf id))
    | .resolve file => (memory.resolver.resolution file, memory)
    | .stat source => (memory.stat source, memory)
    | .get source => (memory.get source, memory)
    | .saveEvent _ => memory.save
    | .now => (memory.time, memory)
    | .newUuid => (memory.uuid, memory)
    | .pause milliseconds => ((), memory.pass (Time.pauseLength milliseconds))
    | .log _ => ((), memory)

end Memory

end Fixity
