import Vscreen.LockState
import Vscreen.Table

/-! `InstanceLockManager` (lock_manager.rs): the map of instance states and the
registry of sessions. First the critical sections, one map entry each; then the
methods as they run when no other call comes between their sections. -/
namespace Vscreen.Lock

structure LockManager where
  locks : Table InstanceId InstanceLockState
  activeSessions : List SessionId

namespace LockManager

def new : LockManager := ⟨∅,[]⟩

def entry (m : LockManager) (id : InstanceId) : InstanceLockState :=
  (Table.get m.locks id).getD .new

def write (m : LockManager) (id : InstanceId) (st : InstanceLockState) : LockManager :=
  {m with locks := Table.put m.locks id st}

def acquireInner (m : LockManager) (r : LockRequest) (auto : Bool) (now : Time) (token : LockToken) :
    LockManager × Except LockError LockInfo :=
  let (st,reply) := (m.entry r.instanceId).acquireInner r auto now token
  (m.write r.instanceId st,reply)

def enqueue (m : LockManager) (r : LockRequest) (now : Time) (notify : CallId) : LockManager :=
  m.write r.instanceId ((m.entry r.instanceId).enqueue r now notify)

def releaseSection (m : LockManager) (id : InstanceId) (s : SessionId) (token : Option LockToken) :
    LockManager × InstanceLockState.Ended :=
  let ended := (m.entry id).release id s token
  (m.write id ended.state,ended)

def removeEntry (m : LockManager) (id : InstanceId) : LockManager :=
  {m with locks := Table.del m.locks id}

def renewWithToken (m : LockManager) (id : InstanceId) (s : SessionId) (token : Option LockToken)
    (ttl : Duration) (now : Time) : LockManager × Except LockError LockInfo :=
  match Table.get m.locks id with
  | none => (m,.error (.notHeld id))
  | some st =>
    let (st',reply) := st.renewWithToken id s token (expiry now ttl)
    (m.write id st',reply)

def reapSection (m : LockManager) (id : InstanceId) (now : Time) : LockManager × List WaitEntry × Bool :=
  match Table.get m.locks id with
  | none => (m,[],false)
  | some st =>
    let (st',notified,cleanup) := st.reap now
    (m.write id st',notified,cleanup)

def removeFromQueue (m : LockManager) (id : InstanceId) (s : SessionId) : LockManager :=
  match Table.get m.locks id with
  | none => m
  | some st => m.write id (st.removeFromQueue s)

def registerSession (m : LockManager) (s : SessionId) : LockManager :=
  {m with activeSessions := if s ∈ m.activeSessions then m.activeSessions else s::m.activeSessions}

def forgetSession (m : LockManager) (s : SessionId) : LockManager :=
  {m with activeSessions := m.activeSessions.filter (fun a => a != s)}

def isSessionActive (m : LockManager) (s : SessionId) : Bool := m.activeSessions.contains s

def checkAccessWithToken (m : LockManager) (id : InstanceId) (s : SessionId)
    (token : Option LockToken) (required : LockType) : Except LockError Unit :=
  match Table.get m.locks id with
  | none => .error (.notHeld id)
  | some st => st.checkAccessWithToken id s token required

def checkAccess (m : LockManager) (id : InstanceId) (s : SessionId) (required : LockType) :
    Except LockError Unit := m.checkAccessWithToken id s none required

def isHeldBy (m : LockManager) (id : InstanceId) (s : SessionId) : Bool :=
  (Table.get m.locks id).any (fun st => st.isHeldBy s)

def isAutoAcquired (m : LockManager) (id : InstanceId) : Bool :=
  (Table.get m.locks id).any (fun st => st.isAutoAcquired)

def status (m : LockManager) (id : InstanceId) : LockStatus :=
  match Table.get m.locks id with
  | none => ⟨id,none,[],[]⟩
  | some st => st.toStatus id

def acquire (m : LockManager) (r : LockRequest) (now : Time) (token : LockToken) :=
  m.acquireInner r false now token

def acquireAuto (m : LockManager) (id : InstanceId) (s : SessionId) (lockType : LockType)
    (ttl : Duration) (now : Time) (token : LockToken) :=
  m.acquireInner ⟨id,s,none,lockType,ttl⟩ true now token

def acquireOrEnqueue (m : LockManager) (r : LockRequest) (now : Time) (token : LockToken)
    (notify : CallId) : LockManager × Except LockError LockInfo :=
  match m.acquire r now token with
  | (m',.error (.instanceLocked s a e)) => (m'.enqueue r now notify,.error (.instanceLocked s a e))
  | (m',reply) => (m',reply)

def releaseWithToken (m : LockManager) (id : InstanceId) (s : SessionId) (token : Option LockToken) :
    LockManager × Except LockError Bool :=
  let (m',ended) := m.releaseSection id s token
  (if ended.cleanup then m'.removeEntry id else m',ended.result)

def release (m : LockManager) (id : InstanceId) (s : SessionId) := m.releaseWithToken id s none

def renew (m : LockManager) (id : InstanceId) (s : SessionId) (ttl : Duration) (now : Time) :=
  m.renewWithToken id s none ttl now

def reapOne (now : Time) (m : LockManager) (id : InstanceId) : LockManager :=
  let (m',_,cleanup) := m.reapSection id now
  if cleanup then m'.removeEntry id else m'

def reapExpired (m : LockManager) (now : Time) : LockManager := m.locks.keys.foldl (reapOne now) m

def releaseAllForSession (m : LockManager) (s : SessionId) : LockManager :=
  let released := m.locks.keys.foldl (fun m id => (m.release id s).1) m
  released.locks.keys.foldl (fun m id => m.removeFromQueue id s) released

def unregisterSession (m : LockManager) (s : SessionId) : LockManager :=
  (m.forgetSession s).releaseAllForSession s

end LockManager
end Vscreen.Lock
