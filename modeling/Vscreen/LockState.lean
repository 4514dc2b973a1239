import Mathlib.Algebra.Group.Nat.Defs
import Vscreen.Instance

/-! The lock state of one instance (lock_manager.rs) and what each critical
section does to it. A section is the scope of one DashMap entry guard: it reads
the clock and draws a token as it goes, both given as arguments. One reading
stands for the `Utc::now()` calls of one section. The oneshot sender in a wait
entry is the number of the call that holds the receiver. -/
namespace Vscreen.Lock

abbrev CallId := Nat

structure WaitEntry where
  sessionId : SessionId
  agentName : Option (List Char)
  requestedLockType : LockType
  queuedAt : Time
  notify : CallId
  deriving DecidableEq, Repr

structure InstanceLockState where
  exclusive : Option LockInfo
  observers : List LockInfo
  waitQueue : List WaitEntry
  deriving DecidableEq, Repr

inductive LockError where
  | instanceLocked (holderSession : SessionId) (holderAgent : Option (List Char)) (expiresAt : Time)
  | notHeld (instanceId : InstanceId)
  | timeout (instanceId : InstanceId)
  deriving DecidableEq, Repr

namespace InstanceLockState

def new : InstanceLockState := ⟨none,[],[]⟩

def isEmpty (st : InstanceLockState) : Bool :=
  st.exclusive.isNone && st.observers.isEmpty && st.waitQueue.isEmpty

def toStatus (st : InstanceLockState) (id : InstanceId) : LockStatus :=
  ⟨id,st.exclusive,st.observers,
    st.waitQueue.map (fun w => ⟨w.sessionId,w.agentName,w.requestedLockType,w.queuedAt⟩)⟩

end InstanceLockState

-- `chrono::Duration::from_std`: durations above `i64::MAX` milliseconds do not convert.
def fromStd (d : Duration) : Option Duration :=
  if d ≤ (2^63 - 1) * 10^6 then some d else none

def expiry (now : Time) (ttl : Duration) : Time := now + (fromStd ttl).getD (120 * 10^9)

structure LockRequest where
  instanceId : InstanceId
  sessionId : SessionId
  agentName : Option (List Char)
  lockType : LockType
  ttl : Duration
  deriving DecidableEq, Repr

def renewed (agentName : Option (List Char)) (expiresAt : Time) (info : LockInfo) : LockInfo :=
  {info with expiresAt := expiresAt, agentName := if agentName.isSome then agentName else info.agentName}

def lockedBy (blocker : LockInfo) : LockError :=
  .instanceLocked blocker.sessionId blocker.agentName blocker.expiresAt

def modifyFirst {α : Type} (p : α → Bool) (f : α → α) : List α → List α
  | [] => []
  | x::xs => if p x then f x::xs else x::modifyFirst p f xs

namespace InstanceLockState

def acquireInner (st : InstanceLockState) (r : LockRequest) (auto : Bool) (now : Time)
    (token : LockToken) : InstanceLockState × Except LockError LockInfo :=
  let mine := fun (o : LockInfo) => o.sessionId == r.sessionId
  let expires := expiry now r.ttl
  let info : LockInfo := ⟨r.sessionId,r.agentName,r.lockType,token,now,expires,auto⟩
  let renew := renewed r.agentName expires
  match st.exclusive.filter mine with
  | some exc => ({st with exclusive := some (renew exc)},.ok (renew exc))
  | none =>
    match r.lockType with
    | .observer =>
      match st.observers.find? mine with
      | some own => ({st with observers := modifyFirst mine renew st.observers},.ok (renew own))
      | none =>
        match st.exclusive with
        | some exc => (st,.error (lockedBy exc))
        | none => ({st with observers := st.observers ++ [info]},.ok info)
    | .exclusive =>
      match st.exclusive,st.observers with
      | some exc,_ => (st,.error (lockedBy exc))
      | none,[] => ({st with exclusive := some info},.ok info)
      | none,o::rest =>
        -- the only observer is the session itself: its record goes, the grant is exclusive
        if rest.isEmpty && mine o then ({st with exclusive := some info, observers := []},.ok info)
        else (st,.error (lockedBy o))

def enqueue (st : InstanceLockState) (r : LockRequest) (now : Time) (notify : CallId) : InstanceLockState :=
  {st with waitQueue := st.waitQueue ++ [⟨r.sessionId,r.agentName,r.lockType,now,notify⟩]}

def promoteLoop (noObservers : Bool) : List WaitEntry → List WaitEntry × List WaitEntry
  | [] => ([],[])
  | front::queue => match front.requestedLockType with
    | .exclusive => if noObservers then ([front],queue) else ([],front::queue)
    | .observer => (front::(promoteLoop noObservers queue).1,(promoteLoop noObservers queue).2)

def tryPromote (st : InstanceLockState) : Bool × InstanceLockState × List WaitEntry :=
  if st.exclusive.isSome then (false,st,[])
  else
    let (notified,queue) := promoteLoop st.observers.isEmpty st.waitQueue
    (!notified.isEmpty,{st with waitQueue := queue},notified)

def matchesHolder (s : SessionId) (token : Option LockToken) (info : LockInfo) : Bool :=
  info.sessionId == s || token.any (fun t => info.lockToken == t)

def keepHolders (st : InstanceLockState) (keep : LockInfo → Bool) : InstanceLockState :=
  {st with exclusive := st.exclusive.filter keep, observers := st.observers.filter keep}

structure Ended where
  state : InstanceLockState
  result : Except LockError Bool
  notified : List WaitEntry
  cleanup : Bool

def release (st : InstanceLockState) (id : InstanceId) (s : SessionId) (token : Option LockToken) : Ended :=
  let kept := st.keepHolders (fun o => !matchesHolder s token o)
  let released := st.exclusive.any (matchesHolder s token) || kept.observers.length < st.observers.length
  if !released then ⟨kept,.error (.notHeld id),[],false⟩
  else
    let (promoted,st',notified) := kept.tryPromote
    ⟨st',.ok promoted,notified,st'.isEmpty⟩

-- The guarded part of one round of `reap_expired`. Its first `try_promote` runs
-- before the observers are looked at, its second after.
def reap (st : InstanceLockState) (now : Time) : InstanceLockState × List WaitEntry × Bool :=
  let live := fun (o : LockInfo) => !decide (o.expiresAt ≤ now)
  let (st₁,first) := if st.exclusive.any (fun e => !live e) then
      (({st with exclusive := none} : InstanceLockState).tryPromote).2 else (st,[])
  let observers := st₁.observers.filter live
  let st₂ : InstanceLockState := {st₁ with observers := observers}
  let (st₃,second) := if observers.length < st₁.observers.length then st₂.tryPromote.2 else (st₂,[])
  (st₃,first ++ second,st₃.isEmpty)

def renewWithToken (st : InstanceLockState) (id : InstanceId) (s : SessionId) (token : Option LockToken)
    (expires : Time) : InstanceLockState × Except LockError LockInfo :=
  let extend := fun (o : LockInfo) => {o with expiresAt := expires}
  match st.exclusive.filter (matchesHolder s token) with
  | some exc => ({st with exclusive := some (extend exc)},.ok (extend exc))
  | none =>
    match st.observers.find? (matchesHolder s token) with
    | some obs =>
      ({st with observers := modifyFirst (matchesHolder s token) extend st.observers},.ok (extend obs))
    | none => (st,.error (.notHeld id))

def removeFromQueue (st : InstanceLockState) (s : SessionId) : InstanceLockState :=
  {st with waitQueue := st.waitQueue.filter (fun w => w.sessionId != s)}

def checkAccessWithToken (st : InstanceLockState) (id : InstanceId) (s : SessionId)
    (token : Option LockToken) (required : LockType) : Except LockError Unit :=
  match st.exclusive with
  | some exc => if matchesHolder s token exc then .ok () else .error (lockedBy exc)
  | none => match required with
    | .exclusive => .error (.notHeld id)
    | .observer => if st.observers.any (matchesHolder s token) then .ok () else .error (.notHeld id)

def isHeldBy (st : InstanceLockState) (s : SessionId) : Bool :=
  st.exclusive.any (fun e => e.sessionId == s) || st.observers.any (fun o => o.sessionId == s)

def isAutoAcquired (st : InstanceLockState) : Bool :=
  match st.exclusive with
  | some exc => exc.autoAcquired
  | none => st.observers.all (fun o => o.autoAcquired) && !st.observers.isEmpty

end InstanceLockState
end Vscreen.Lock
