import Gatehouse.Data.Table
import Gatehouse.Error
import Gatehouse.Storage.Sweep

/-! # Stores

Values held in memory under a context and a key, until they expire. An expired value is as good as
absent: no reading shows it and a new one may take its place. Only the number of records held tells
that it is still there.
-/

namespace Gatehouse

/-- A value and the instant from which on it has expired. -/
structure Record where
  value : String
  expires : Instant
  deriving DecidableEq

def Record.isExpired (r : Record) (now : Instant) : Bool :=
  r.expires ≤ now

/-- What a record is held under. -/
structure RecordName where
  context : String
  key : String
  deriving DecidableEq

namespace RecordName

/-- The greatest length of a context and of a key, in bytes. -/
def maxBytes : Nat := 255

/-- Whether a text may serve as a context or as a key. -/
def isLegal (s : String) : Bool :=
  0 < s.utf8ByteSize && s.utf8ByteSize ≤ maxBytes

/-- The name made of a context and a key. If neither is legal, the context is to blame. -/
def of (context key : String) : Except StorageError RecordName :=
  if !isLegal context then .error (.invalidKey "context must be 1..=255 bytes")
  else if !isLegal key then .error (.invalidKey "key must be 1..=255 bytes")
  else .ok ⟨context, key⟩

end RecordName

structure Store where
  records : Table RecordName Record
  sweep : Sweep

namespace Store

def empty (sweep : Sweep) : Store :=
  ⟨.empty, sweep⟩

/-- The number of records held, expired ones included. -/
def size (s : Store) : Nat :=
  s.records.size

/-- Drops the expired records if a sweep is due. -/
def swept (s : Store) (now : Instant) : Store :=
  if s.sweep.isDue now then
    ⟨s.records.filter fun _ r => !r.isExpired now, s.sweep.done now⟩
  else s

/-- The record under a name, unless it has expired. -/
def live? (s : Store) (now : Instant) (name : RecordName) : Option Record :=
  (s.records.get? name).filter fun r => !r.isExpired now

/-- Adds a record where there is no other that has not expired. -/
def create (s : Store) (now : Instant) (context key : String) (r : Record) :
    Except StorageError Unit × Store :=
  match RecordName.of context key with
  | .error e => (.error e, s)
  | .ok name =>
    let s := s.swept now
    match s.live? now name with
    | some _ => (.error (.duplicate context key), s)
    | none => (.ok (), { s with records := s.records.insert name r })

def read (s : Store) (now : Instant) (context key : String) :
    Except StorageError (Option Record) :=
  (RecordName.of context key).map (s.live? now)

/-- Removes the record under a context and a key, and returns it unless it has expired. -/
def take (s : Store) (now : Instant) (context key : String) :
    Except StorageError (Option Record) × Store :=
  match RecordName.of context key with
  | .error e => (.error e, s)
  | .ok name => (.ok (s.live? now name), { s with records := s.records.erase name })

/-- Removes the record under a context and a key. Returns whether there was one, expired or not. -/
def delete (s : Store) (context key : String) : Except StorageError Bool × Store :=
  match RecordName.of context key with
  | .error e => (.error e, s)
  | .ok name => (.ok (s.records.get? name).isSome, { s with records := s.records.erase name })

/-- Removes the expired records of a context and returns their number. -/
def purge (s : Store) (now : Instant) (context : String) : Nat × Store :=
  let records := s.records.filter fun name r => !(name.context = context && r.isExpired now)
  (s.records.size - records.size, { s with records := records })

end Store

end Gatehouse
