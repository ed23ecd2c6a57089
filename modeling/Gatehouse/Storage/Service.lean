import Gatehouse.Storage.Store

/-! # Storage services

What the security layer keeps records in: a store in memory, or a service out of reach, which
answers every call with the same error.
-/

namespace Gatehouse

inductive Storage where
  | memory (store : Store)
  | unavailable (reason : StorageError)

namespace Storage

def size : Storage → Nat
  | memory store => store.size
  | unavailable _ => 0

def create (s : Storage) (now : Instant) (context key : String) (r : Record) :
    Except StorageError Unit × Storage :=
  match s with
  | memory store => (store.create now context key r).map id memory
  | unavailable reason => (.error reason, s)

def read (s : Storage) (now : Instant) (context key : String) :
    Except StorageError (Option Record) :=
  match s with
  | memory store => store.read now context key
  | unavailable reason => .error reason

def take (s : Storage) (now : Instant) (context key : String) :
    Except StorageError (Option Record) × Storage :=
  match s with
  | memory store => (store.take now context key).map id memory
  | unavailable reason => (.error reason, s)

def delete (s : Storage) (context key : String) : Except StorageError Bool × Storage :=
  match s with
  | memory store => (store.delete context key).map id memory
  | unavailable reason => (.error reason, s)

def purge (s : Storage) (now : Instant) (context : String) : Except StorageError Nat × Storage :=
  match s with
  | memory store => (store.purge now context).map .ok memory
  | unavailable reason => (.error reason, s)

end Storage

end Gatehouse
