import Vscreen.LockSystem

/-! What one step of the interleaved lock manager can do, said once: which
critical section it performs, on whose behalf, and what it leaves. The invariants
of the system are case analyses of `Moves`, not of the step function. -/
namespace Vscreen.Lock

inductive Section where
  | none
  | acquire (r : LockRequest) (auto : Bool) (retry : Bool)
  | release (id : InstanceId) (s : SessionId) (token : Option LockToken) (reclaim : Bool)
  | remove (id : InstanceId)
  | renew (id : InstanceId) (s : SessionId) (token : Option LockToken) (ttl : Duration)
  | reap (id : InstanceId) (now : Time)
  | enqueue (r : LockRequest)
  | dequeue (id : InstanceId) (s : SessionId)
  deriving DecidableEq

namespace Sys

def sectionOfCall : Call → Section
  | .acquire r => .acquire r false false
  | .acquireAuto id s lockType ttl => .acquire ⟨id,s,none,lockType,ttl⟩ true false
  | .acquireOrWait r _ => .acquire r false false
  | .releaseWithToken id s token => .release id s token false
  | .renewWithToken id s token ttl => .renew id s token ttl
  | _ => .none

def sectionOfTask : Task → Section
  | .removing id _ => .remove id
  | .reaping now (id::_) => .reap id now
  | .releasing s (id::_) => .release id s none false
  | .purging s (id::_) => .dequeue id s
  | .enqueuing r _ => .enqueue r
  | .retrying w => .acquire w.request false true
  | .leaving w => .dequeue w.request.instanceId w.request.sessionId
  | .autoAcquiring q => .acquire q.request true false
  | .acquiringAgain q => .acquire q.request true false
  | .seizing q holder _ => .release q.instanceId holder.sessionId none true
  | _ => .none

def sectionOf (σ : Sys) : Action → Section
  | .tick _ => .none
  | .call _ c _ => sectionOfCall c
  | .resume t _ => sectionOfTask (σ.tasks t)

theorem sectionAt {σ : Sys} {t : CallId} {task : Task} (at_ : σ.tasks t = task) (x : Reading) :
    σ.sectionOf (.resume t x) = sectionOfTask task := by
  rw [sectionOf,at_]

end Sys

def Task.plain : Task → Bool
  | .waiting _ _ | .retrying _ | .leaving _ => false
  | .removing _ next => next.plain
  | _ => true

def CheckEvents (σ : Sys) (out : List Event) : Prop :=
  out = [] ∨ ∃ q reply, out = [.required q reply] ∧
    (reply = .ok () → σ.singleAgentMode = true ∨
      σ.manager.checkAccess q.instanceId q.sessionId q.required = .ok ())

def AutoEvents (r : LockRequest) (reply : Except LockError LockInfo) (out : List Event) : Prop :=
  out = [] ∨ ∃ q info, r = Requirement.request q ∧ reply = .ok info ∧ out = [.required q (.ok ())]

inductive Moves (σ : Sys) : Sys.Action → Sys → List Event → Prop where
  | tick (passed : Duration) : Moves σ (.tick passed) {σ with clock := σ.clock + passed} []
  | acquire {a t r auto task extra} (now : Time) (token : LockToken)
      (sec : σ.sectionOf a = .acquire r auto false) (before : (σ.tasks t).plain = true)
      (after : task.plain = true) (said : AutoEvents r (σ.manager.acquireInner r auto now token).2 extra) :
      Moves σ a (σ.advance t (σ.manager.acquireInner r auto now token).1 [] task)
        (grantEvents r auto (σ.manager.acquireInner r auto now token).2 ++ extra)
  | retry {t w} (x : Reading) (at_ : σ.tasks t = .retrying w) :
      Moves σ (.resume t x)
        (σ.advance t (σ.manager.acquireInner w.request false x.now x.token).1 [] .idle)
        (grantEvents w.request false (σ.manager.acquireInner w.request false x.now x.token).2 ++
          [.returned w (σ.manager.acquireInner w.request false x.now x.token).2])
  | release {a t id s token reclaim task} (sec : σ.sectionOf a = .release id s token reclaim)
      (before : (σ.tasks t).plain = true) (after : task.plain = true) :
      Moves σ a (σ.advance t (σ.manager.releaseSection id s token).1
        (σ.manager.releaseSection id s token).2.notified task) [.released id s token reclaim]
  | remove {t id next} (x : Reading) (at_ : σ.tasks t = .removing id next) :
      Moves σ (.resume t x) (σ.advance t (σ.manager.removeEntry id) [] next) []
  | renew {a t id s token ttl} (now : Time) (sec : σ.sectionOf a = .renew id s token ttl)
      (before : (σ.tasks t).plain = true) :
      Moves σ a (σ.advance t (σ.manager.renewWithToken id s token ttl now).1 [] .idle)
        (renewEvents id (σ.manager.renewWithToken id s token ttl now).2)
  | reap {t now id ids task} (x : Reading) (at_ : σ.tasks t = .reaping now (id::ids))
      (after : task.plain = true) :
      Moves σ (.resume t x) (σ.advance t (σ.manager.reapSection id now).1
        (σ.manager.reapSection id now).2.1 task) [.reaped id now]
  | enqueue {t r waitTimeout} (x : Reading) (at_ : σ.tasks t = .enqueuing r waitTimeout) :
      Moves σ (.resume t x)
        (σ.advance t (σ.manager.enqueue r x.now t) [] (.waiting ⟨r,waitTimeout,σ.clock⟩ false)) []
  | leave {t w} (x : Reading) (at_ : σ.tasks t = .leaving w) :
      Moves σ (.resume t x)
        (σ.advance t (σ.manager.removeFromQueue w.request.instanceId w.request.sessionId) [] .idle)
        [.returned w (.error (.timeout w.request.instanceId))]
  | purge {t s id ids} (x : Reading) (at_ : σ.tasks t = .purging s (id::ids)) :
      Moves σ (.resume t x) (σ.advance t (σ.manager.removeFromQueue id s) [] (.purging s ids)) []
  | wake {t w} (x : Reading) (at_ : σ.tasks t = .waiting w true) :
      Moves σ (.resume t x) (σ.quiet t (.retrying w)) []
  | giveUp {t w} (x : Reading) (at_ : σ.tasks t = .waiting w false)
      (why : σ.senderDropped t w.request.instanceId = true ∨ w.deadline ≤ σ.clock) :
      Moves σ (.resume t x) (σ.quiet t (.leaving w)) []
  | register {t s} (x : Reading) (before : (σ.tasks t).plain = true) :
      Moves σ (.call t (.registerSession s) x)
        (σ.advance t (σ.manager.registerSession s) [] .idle) [.registered s]
  | forget {t s} (x : Reading) (before : (σ.tasks t).plain = true) :
      Moves σ (.call t (.unregisterSession s) x)
        (σ.advance t (σ.manager.forgetSession s) [] (.collecting s)) [.forgotten s]
  | other {a t task out} (sec : σ.sectionOf a = .none)
      (before : (σ.tasks t).plain = true) (after : task.plain = true) (said : CheckEvents σ out) :
      Moves σ a (σ.quiet t task) out

theorem acquireMoves {σ : Sys} {a t r auto x next} (sec : σ.sectionOf a = .acquire r auto false)
    (before : (σ.tasks t).plain = true) (after : ∀ reply, (next reply).1.plain = true)
    (said : ∀ reply, AutoEvents r reply (next reply).2) {σ' out}
    (taken : σ.acquire t r auto x next = (σ',out)) : Moves σ a σ' out := by
  simp only [Sys.acquire,Prod.mk.injEq] at taken
  obtain ⟨rfl,rfl⟩ := taken
  exact .acquire x.now x.token sec before (after _) (said _)

theorem releaseMoves {σ : Sys} {a t id s token reclaim next}
    (sec : σ.sectionOf a = .release id s token reclaim)
    (before : (σ.tasks t).plain = true) (after : next.plain = true) {σ' out}
    (taken : σ.release t id s token reclaim next = (σ',out)) : Moves σ a σ' out := by
  simp only [Sys.release,Prod.mk.injEq] at taken
  obtain ⟨rfl,rfl⟩ := taken
  refine .release sec before ?_
  split
  · simpa [Task.plain] using after
  · exact after

theorem beginMoves {σ σ' : Sys} {t : CallId} {x : Reading} {c : Call} {out} (idle : σ.tasks t = .idle)
    (taken : σ.begin t x c = (σ',out)) : Moves σ (.call t c x) σ' out := by
  have before : (σ.tasks t).plain = true := by rw [idle]; rfl
  cases c with
  | acquire r =>
    simp only [Sys.begin] at taken
    exact acquireMoves rfl before (fun _ => rfl) (fun _ => .inl rfl) taken
  | acquireAuto id s lockType ttl =>
    simp only [Sys.begin] at taken
    exact acquireMoves rfl before (fun _ => rfl) (fun _ => .inl rfl) taken
  | acquireOrWait r waitTimeout =>
    simp only [Sys.begin] at taken
    refine acquireMoves rfl before ?_ ?_ taken
    · intro reply; split <;> rfl
    · intro reply; left; split <;> rfl
  | releaseWithToken id s token =>
    simp only [Sys.begin] at taken
    exact releaseMoves rfl before rfl taken
  | renewWithToken id s token ttl =>
    simp only [Sys.begin,Prod.mk.injEq] at taken
    obtain ⟨rfl,rfl⟩ := taken
    exact .renew x.now rfl before
  | reapExpired =>
    simp only [Sys.begin,Prod.mk.injEq] at taken
    obtain ⟨rfl,rfl⟩ := taken
    exact .other rfl before rfl (.inl rfl)
  | registerSession s =>
    simp only [Sys.begin,Prod.mk.injEq] at taken
    obtain ⟨rfl,rfl⟩ := taken
    exact .register x before
  | unregisterSession s =>
    simp only [Sys.begin,Prod.mk.injEq] at taken
    obtain ⟨rfl,rfl⟩ := taken
    exact .forget x before
  | releaseAllForSession s =>
    simp only [Sys.begin,Prod.mk.injEq] at taken
    obtain ⟨rfl,rfl⟩ := taken
    exact .other rfl before rfl (.inl rfl)
  | requireLock q =>
    simp only [Sys.begin] at taken
    split at taken
    · rename_i single
      obtain ⟨rfl,rfl⟩ := Prod.mk.inj taken
      exact .other rfl before rfl (.inr ⟨q,.ok (),rfl,fun _ => .inl single⟩)
    · split at taken <;> obtain ⟨rfl,rfl⟩ := Prod.mk.inj taken
      · rename_i access
        exact .other rfl before rfl (.inr ⟨q,.ok (),rfl,fun _ => .inr access⟩)
      · exact .other rfl before rfl (.inl rfl)
      · exact .other rfl before rfl (.inl rfl)

theorem quietMoves {σ σ' : Sys} {t : CallId} {x : Reading} {task next : Task} {out} (at_ : σ.tasks t = task)
    (sec : Sys.sectionOfTask task = .none) (before : task.plain = true) (after : next.plain = true)
    (taken : some (σ.quiet t next,[]) = some (σ',out)) : Moves σ (.resume t x) σ' out := by
  simp only [Option.some.injEq,Prod.mk.injEq] at taken
  obtain ⟨rfl,rfl⟩ := taken
  exact .other (by rw [Sys.sectionAt at_,sec]) (by rw [at_,before]) after (.inl rfl)

theorem autoMoves {σ σ' : Sys} {t : CallId} {x : Reading} {q : Requirement} {task failed : Task} {out}
    (at_ : σ.tasks t = task) (sec : Sys.sectionOfTask task = .acquire q.request true false)
    (before : task.plain = true) (after : failed.plain = true)
    (taken : σ.acquire t q.request true x (fun reply => match reply with
      | .ok _ => (.idle,[.required q (.ok ())])
      | .error _ => (failed,[])) = (σ',out)) : Moves σ (.resume t x) σ' out := by
  refine acquireMoves (by rw [Sys.sectionAt at_,sec]) (by rw [at_,before]) ?_ ?_ taken
  · intro reply
    split
    · rfl
    · exact after
  · intro reply
    split
    · rename_i info; exact .inr ⟨q,info,rfl,rfl,rfl⟩
    · exact .inl rfl

theorem resumeMoves {σ σ' : Sys} {t : CallId} {x : Reading} {out}
    (taken : σ.resume t x (σ.tasks t) = some (σ',out)) : Moves σ (.resume t x) σ' out := by
  have sec : σ.sectionOf (.resume t x) = Sys.sectionOfTask (σ.tasks t) := rfl
  cases task : σ.tasks t with
  | idle => simp [task,Sys.resume] at taken
  | removing id next =>
    simp only [task,Sys.resume,Option.some.injEq,Prod.mk.injEq] at taken
    obtain ⟨rfl,rfl⟩ := taken
    exact .remove x task
  | reaping now ids =>
    cases ids with
    | nil =>
      simp only [task,Sys.resume] at taken
      exact quietMoves task rfl rfl rfl taken
    | cons id ids =>
      simp only [task,Sys.resume,Option.some.injEq,Prod.mk.injEq] at taken
      obtain ⟨rfl,rfl⟩ := taken
      refine .reap x task ?_
      split <;> rfl
  | collecting s =>
    simp only [task,Sys.resume] at taken
    exact quietMoves task rfl rfl rfl taken
  | releasing s ids =>
    cases ids with
    | nil =>
      simp only [task,Sys.resume] at taken
      exact quietMoves task rfl rfl rfl taken
    | cons id ids =>
      simp only [task,Sys.resume,Option.some.injEq] at taken
      exact releaseMoves (sec.trans (by rw [task]; rfl)) (by rw [task]; rfl) rfl taken
  | purging s ids =>
    cases ids with
    | nil =>
      simp only [task,Sys.resume] at taken
      exact quietMoves task rfl rfl rfl taken
    | cons id ids =>
      simp only [task,Sys.resume,Option.some.injEq,Prod.mk.injEq] at taken
      obtain ⟨rfl,rfl⟩ := taken
      exact .purge x task
  | enqueuing r waitTimeout =>
    simp only [task,Sys.resume,Option.some.injEq,Prod.mk.injEq] at taken
    obtain ⟨rfl,rfl⟩ := taken
    exact .enqueue x task
  | waiting w notified =>
    cases notified with
    | true =>
      simp only [task,Sys.resume,Option.some.injEq,Prod.mk.injEq] at taken
      obtain ⟨rfl,rfl⟩ := taken
      exact .wake x task
    | false =>
      simp only [task,Sys.resume] at taken
      split at taken
      · rename_i dropped
        simp only [Option.some.injEq,Prod.mk.injEq] at taken
        obtain ⟨rfl,rfl⟩ := taken
        exact .giveUp x task (.inl dropped)
      · split at taken
        · rename_i passed
          simp only [Option.some.injEq,Prod.mk.injEq] at taken
          obtain ⟨rfl,rfl⟩ := taken
          exact .giveUp x task (.inr passed)
        · contradiction
  | retrying w =>
    simp only [task,Sys.resume,Option.some.injEq] at taken
    obtain ⟨rfl,rfl⟩ := taken
    exact .retry x task
  | leaving w =>
    simp only [task,Sys.resume,Option.some.injEq,Prod.mk.injEq] at taken
    obtain ⟨rfl,rfl⟩ := taken
    exact .leave x task
  | autoAcquiring q =>
    simp only [task,Sys.resume,Option.some.injEq] at taken
    exact autoMoves task rfl rfl rfl taken
  | reclaiming q =>
    simp only [task,Sys.resume] at taken
    refine quietMoves task rfl rfl ?_ taken
    split <;> rfl
  | readingStatus q =>
    simp only [task,Sys.resume] at taken
    exact quietMoves task rfl rfl rfl taken
  | sweeping q holders =>
    cases holders with
    | nil =>
      simp only [task,Sys.resume] at taken
      exact quietMoves task rfl rfl rfl taken
    | cons holder rest =>
      simp only [task,Sys.resume] at taken
      refine quietMoves task rfl rfl ?_ taken
      split <;> rfl
  | seizing q holder rest =>
    simp only [task,Sys.resume,Option.some.injEq] at taken
    exact releaseMoves (sec.trans (by rw [task]; rfl)) (by rw [task]; rfl) rfl taken
  | acquiringAgain q =>
    simp only [task,Sys.resume,Option.some.injEq] at taken
    exact autoMoves task rfl rfl rfl taken
  | rechecking q =>
    simp only [task,Sys.resume,Option.some.injEq,Prod.mk.injEq] at taken
    obtain ⟨rfl,rfl⟩ := taken
    exact .other (by rw [sec,task]; rfl) (by rw [task]; rfl) rfl
      (.inr ⟨q,_,rfl,fun access => .inr access⟩)

theorem stepMoves {σ σ' : Sys} {a out} (taken : σ.step a = some (σ',out)) : Moves σ a σ' out := by
  cases a with
  | tick passed =>
    simp only [Sys.step,Option.some.injEq,Prod.mk.injEq] at taken
    obtain ⟨rfl,rfl⟩ := taken
    exact .tick passed
  | call t c x =>
    simp only [Sys.step] at taken
    split at taken
    · rename_i idle
      exact beginMoves idle (Option.some.inj taken)
    · contradiction
  | resume t x => exact resumeMoves taken

end Vscreen.Lock
