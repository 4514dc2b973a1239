import Vscreen.LockManager
import Vscreen.Machine

/-! The lock manager with its callers interleaved. Any number of calls run at
once, each a task that performs one critical section per step; between two
sections of a task every other task may take steps. The readings a section makes
(clock, fresh token, the ids an iteration over the map yields: DashMap promises
no order and no snapshot) are inputs of the step. `clock` is the monotonic clock
of the wait timeouts. The event list of a step says what callers observe. -/
namespace Vscreen.Lock

structure Waiter where
  request : LockRequest
  waitTimeout : Duration
  since : Time
  deriving DecidableEq, Repr

def Waiter.deadline (w : Waiter) : Time := w.since + w.waitTimeout

structure Requirement where
  instanceId : InstanceId
  sessionId : SessionId
  required : LockType
  deriving DecidableEq, Repr

def Requirement.request (q : Requirement) : LockRequest :=
  ⟨q.instanceId,q.sessionId,none,q.required,120 * 10^9⟩

inductive Task where
  | idle
  -- An entry was seen empty and its guard dropped: `locks.remove(id)`, then `next`.
  | removing (id : InstanceId) (next : Task)
  | reaping (now : Time) (ids : List InstanceId)
  | collecting (s : SessionId)
  | releasing (s : SessionId) (ids : List InstanceId)
  | purging (s : SessionId) (ids : List InstanceId)
  | enqueuing (request : LockRequest) (waitTimeout : Duration)
  | waiting (w : Waiter) (notified : Bool)
  | retrying (w : Waiter)
  | leaving (w : Waiter)
  | autoAcquiring (q : Requirement)
  | reclaiming (q : Requirement)
  | readingStatus (q : Requirement)
  | sweeping (q : Requirement) (holders : List LockInfo)
  | seizing (q : Requirement) (holder : LockInfo) (rest : List LockInfo)
  | acquiringAgain (q : Requirement)
  | rechecking (q : Requirement)
  deriving Repr

-- `send(())` reaches a receiver that still waits; on any other task it is lost.
def Task.notify : Task → Task
  | .waiting w _ => .waiting w true
  | task => task

inductive Call where
  | acquire (r : LockRequest)
  | acquireAuto (id : InstanceId) (s : SessionId) (lockType : LockType) (ttl : Duration)
  | acquireOrWait (r : LockRequest) (waitTimeout : Duration)
  | releaseWithToken (id : InstanceId) (s : SessionId) (token : Option LockToken)
  | renewWithToken (id : InstanceId) (s : SessionId) (token : Option LockToken) (ttl : Duration)
  | reapExpired
  | registerSession (s : SessionId)
  | unregisterSession (s : SessionId)
  | releaseAllForSession (s : SessionId)
  | requireLock (q : Requirement)

structure Reading where
  now : Time
  token : LockToken
  ids : List InstanceId

inductive Event where
  | granted (r : LockRequest) (auto : Bool) (info : LockInfo)
  | renewed (id : InstanceId) (info : LockInfo)
  | released (id : InstanceId) (s : SessionId) (token : Option LockToken) (reclaim : Bool)
  | reaped (id : InstanceId) (now : Time)
  | registered (s : SessionId)
  | forgotten (s : SessionId)
  | returned (w : Waiter) (reply : Except LockError LockInfo)
  | required (q : Requirement) (reply : Except LockError Unit)

def grantEvents (r : LockRequest) (auto : Bool) : Except LockError LockInfo → List Event
  | .ok info => [.granted r auto info]
  | .error _ => []

def renewEvents (id : InstanceId) : Except LockError LockInfo → List Event
  | .ok info => [.renewed id info]
  | .error _ => []

structure Sys where
  manager : LockManager
  clock : Time
  tasks : CallId → Task
  singleAgentMode : Bool

namespace Sys

def start (singleAgentMode : Bool) : Sys := ⟨.new,0,fun _ => .idle,singleAgentMode⟩

def advance (σ : Sys) (t : CallId) (m : LockManager) (notified : List WaitEntry) (task : Task) : Sys :=
  {σ with
    manager := m
    tasks := fun u =>
      if u = t then task
      else if notified.any (fun w => w.notify == u) then Task.notify (σ.tasks u) else σ.tasks u}

def quiet (σ : Sys) (t : CallId) (task : Task) : Sys := σ.advance t σ.manager [] task

def acquire (σ : Sys) (t : CallId) (r : LockRequest) (auto : Bool) (x : Reading)
    (next : Except LockError LockInfo → Task × List Event) : Sys × List Event :=
  let (m,reply) := σ.manager.acquireInner r auto x.now x.token
  (σ.advance t m [] (next reply).1,grantEvents r auto reply ++ (next reply).2)

def release (σ : Sys) (t : CallId) (id : InstanceId) (s : SessionId) (token : Option LockToken)
    (reclaim : Bool) (next : Task) : Sys × List Event :=
  let (m,ended) := σ.manager.releaseSection id s token
  (σ.advance t m ended.notified (if ended.cleanup then .removing id next else next),
    [.released id s token reclaim])

def senderDropped (σ : Sys) (t : CallId) (id : InstanceId) : Bool :=
  !(σ.manager.entry id).waitQueue.any (fun w => w.notify == t)

def begin (σ : Sys) (t : CallId) (x : Reading) : Call → Sys × List Event
  | .acquire r => σ.acquire t r false x (fun _ => (.idle,[]))
  | .acquireAuto id s lockType ttl => σ.acquire t ⟨id,s,none,lockType,ttl⟩ true x (fun _ => (.idle,[]))
  | .acquireOrWait r waitTimeout => σ.acquire t r false x (fun reply => match reply with
      | .error (.instanceLocked _ _ _) => (.enqueuing r waitTimeout,[])
      | _ => (.idle,[]))
  | .releaseWithToken id s token => σ.release t id s token false .idle
  | .renewWithToken id s token ttl =>
      let (m,reply) := σ.manager.renewWithToken id s token ttl x.now
      (σ.advance t m [] .idle,renewEvents id reply)
  | .reapExpired => (σ.quiet t (.reaping x.now x.ids),[])
  | .registerSession s => (σ.advance t (σ.manager.registerSession s) [] .idle,[.registered s])
  | .unregisterSession s => (σ.advance t (σ.manager.forgetSession s) [] (.collecting s),[.forgotten s])
  | .releaseAllForSession s => (σ.quiet t (.releasing s x.ids),[])
  | .requireLock q =>
      if σ.singleAgentMode then (σ.quiet t .idle,[.required q (.ok ())])
      else match σ.manager.checkAccess q.instanceId q.sessionId q.required with
        | .ok () => (σ.quiet t .idle,[.required q (.ok ())])
        | .error (.notHeld _) => (σ.quiet t (.autoAcquiring q),[])
        | .error _ => (σ.quiet t (.reclaiming q),[])

def resume (σ : Sys) (t : CallId) (x : Reading) : Task → Option (Sys × List Event)
  | .idle => none
  | .removing id next => some (σ.advance t (σ.manager.removeEntry id) [] next,[])
  | .reaping _ [] => some (σ.quiet t .idle,[])
  | .reaping now (id::ids) =>
      let (m,notified,cleanup) := σ.manager.reapSection id now
      some (σ.advance t m notified (if cleanup then .removing id (.reaping now ids) else .reaping now ids),
        [.reaped id now])
  | .collecting s => some (σ.quiet t (.releasing s x.ids),[])
  | .releasing s [] => some (σ.quiet t (.purging s x.ids),[])
  | .releasing s (id::ids) => some (σ.release t id s none false (.releasing s ids))
  | .purging _ [] => some (σ.quiet t .idle,[])
  | .purging s (id::ids) => some (σ.advance t (σ.manager.removeFromQueue id s) [] (.purging s ids),[])
  | .enqueuing r waitTimeout =>
      some (σ.advance t (σ.manager.enqueue r x.now t) [] (.waiting ⟨r,waitTimeout,σ.clock⟩ false),[])
  | .waiting w true => some (σ.quiet t (.retrying w),[])
  | .waiting w false =>
      -- `timeout` polls the receiver first: a dropped sender ends the wait before the deadline
      if σ.senderDropped t w.request.instanceId then some (σ.quiet t (.leaving w),[])
      else if w.deadline ≤ σ.clock then some (σ.quiet t (.leaving w),[]) else none
  | .retrying w => some (σ.acquire t w.request false x (fun reply => (.idle,[.returned w reply])))
  | .leaving w =>
      some (σ.advance t (σ.manager.removeFromQueue w.request.instanceId w.request.sessionId) [] .idle,
        [.returned w (.error (.timeout w.request.instanceId))])
  | .autoAcquiring q => some (σ.acquire t q.request true x (fun reply => match reply with
      | .ok _ => (.idle,[.required q (.ok ())])
      | .error _ => (.reclaiming q,[])))
  | .reclaiming q =>
      some (σ.quiet t (if σ.manager.isAutoAcquired q.instanceId then .readingStatus q else .rechecking q),[])
  | .readingStatus q =>
      -- the exclusive holder is released only if the status shows it auto-acquired
      let status := σ.manager.status q.instanceId
      let exclusive := (status.exclusiveHolder.filter (fun e => e.autoAcquired)).toList
      some (σ.quiet t (.sweeping q (exclusive ++ status.observers)),[])
  | .sweeping q [] => some (σ.quiet t (.acquiringAgain q),[])
  | .sweeping q (holder::rest) =>
      some (σ.quiet t (if holder.autoAcquired || !σ.manager.isSessionActive holder.sessionId
        then .seizing q holder rest else .sweeping q rest),[])
  | .seizing q holder rest => some (σ.release t q.instanceId holder.sessionId none true (.sweeping q rest))
  | .acquiringAgain q => some (σ.acquire t q.request true x (fun reply => match reply with
      | .ok _ => (.idle,[.required q (.ok ())])
      | .error _ => (.rechecking q,[])))
  | .rechecking q =>
      some (σ.quiet t .idle,[.required q (σ.manager.checkAccess q.instanceId q.sessionId q.required)])

inductive Action where
  | tick (passed : Duration)
  | call (t : CallId) (c : Call) (x : Reading)
  | resume (t : CallId) (x : Reading)

def step (σ : Sys) : Action → Option (Sys × List Event)
  | .tick passed => some ({σ with clock := σ.clock + passed},[])
  | .call t c x => match σ.tasks t with
    | .idle => some (σ.begin t x c)
    | _ => none
  | .resume t x => σ.resume t x (σ.tasks t)

end Sys

def lockSystem (singleAgentMode : Bool) : Machine Sys Sys.Action Event :=
  ⟨Sys.start singleAgentMode,Sys.step⟩

end Vscreen.Lock
