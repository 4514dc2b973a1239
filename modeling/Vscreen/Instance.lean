import Mathlib.Data.List.Basic

/-! The identifiers and the lock records of vscreen-core (instance.rs). A `Uuid`
is an opaque number; names are lists of Unicode scalar values. Times are
nanoseconds on one axis; a duration is a number of them. -/
namespace Vscreen

abbrev Uuid := Nat
abbrev Time := Nat
abbrev Duration := Nat

structure InstanceId where
  name : List Char
  deriving DecidableEq, Repr

structure SessionId where
  uuid : Uuid
  deriving DecidableEq, Repr

structure LockToken where
  uuid : Uuid
  deriving DecidableEq, Repr

inductive LockType where
  | exclusive
  | observer
  deriving DecidableEq, Repr

structure LockInfo where
  sessionId : SessionId
  agentName : Option (List Char)
  lockType : LockType
  lockToken : LockToken
  acquiredAt : Time
  expiresAt : Time
  autoAcquired : Bool
  deriving DecidableEq, Repr

structure WaitQueueEntry where
  sessionId : SessionId
  agentName : Option (List Char)
  requestedLockType : LockType
  queuedAt : Time
  deriving DecidableEq, Repr

structure LockStatus where
  instanceId : InstanceId
  exclusiveHolder : Option LockInfo
  observers : List LockInfo
  waitQueue : List WaitQueueEntry
  deriving DecidableEq, Repr

end Vscreen
