import Vscreen.LockDecision

/-! Entries of the lock map that hold nothing. Acquire and release look an entry up
with `or_insert_with`, waiters are taken off a queue without a look at what is left;
an entry seen empty by a release or a reap is removed in a section of its own. -/
namespace Vscreen.Lock
open InstanceLockState

namespace LockManager

def statusAll (m : LockManager) : List LockStatus :=
  m.locks.entries.map (fun e => InstanceLockState.toStatus e.2 e.1)

theorem memStatusAll (m : LockManager) (id : InstanceId) :
    (∃ status ∈ m.statusAll, status.instanceId = id) ↔ (Table.get m.locks id).isSome = true := by
  rw [← Table.memKeys]
  constructor
  · rintro ⟨status,listed,rfl⟩
    obtain ⟨e,mem,rfl⟩ := List.mem_map.mp listed
    exact List.mem_keys_of_mem mem
  · intro present
    obtain ⟨st,mem⟩ := List.exists_of_mem_keys present
    exact ⟨_,List.mem_map_of_mem mem,rfl⟩

def SameMap (m m' : LockManager) : Prop := ∀ id, Table.get m'.locks id = Table.get m.locks id

theorem sameMapWrite {m : LockManager} {id : InstanceId} {st : InstanceLockState}
    (present : Table.get m.locks id = some st) : SameMap m (m.write id st) := by
  intro i
  rw [write,Table.getPut]
  split
  · rename_i same
    rw [same,present]
  · rfl

end LockManager

theorem acquiredHolds {st st' : InstanceLockState} {r auto now token reply}
    (done : Acquired st r auto now token st' reply) : st'.exclusive.isSome = true ∨ st'.observers ≠ [] := by
  cases done with
  | renewExclusive holder own => exact .inl rfl
  | renewObserver notHolder type found => exact .inr (List.ne_nil_of_mem (modifyFirstFound found))
  | grantExclusive free type alone => exact .inl rfl
  | grantObserver free type fresh => exact .inr (by simp)
  | lockedExclusive holder other => exact .inl (by rw [holder]; rfl)
  | lockedObservers free type observers shared => exact .inr (by rw [observers]; simp)

theorem holdsNotEmpty {st : InstanceLockState} (holds : st.exclusive.isSome = true ∨ st.observers ≠ []) :
    st.isEmpty = false := by
  obtain ⟨exclusive,observers,queue⟩ := st
  rcases holds with held | observed
  · cases exclusive with
    | none => cases held
    | some e => rfl
  · cases observers with
    | nil => exact absurd rfl observed
    | cons o rest => cases exclusive <;> rfl

theorem modifyFirstIsEmpty {α : Type} (p : α → Bool) (f : α → α) (xs : List α) :
    (modifyFirst p f xs).isEmpty = xs.isEmpty := by
  cases xs with
  | nil => rfl
  | cons x xs =>
    simp only [modifyFirst]
    split <;> rfl

theorem renewedIsEmpty {st st' : InstanceLockState} {id s token expires reply}
    (done : Renewed st id s token expires st' reply) : st'.isEmpty = st.isEmpty := by
  cases done with
  | exclusive holder own => simp [InstanceLockState.isEmpty,holder]
  | observer found => simp [InstanceLockState.isEmpty,modifyFirstIsEmpty]
  | notHeld => rfl

theorem renewedRefused {st st' : InstanceLockState} {id s token expires error}
    (done : Renewed st id s token expires st' (.error error)) : st' = st := by
  cases done with
  | notHeld => rfl

theorem releaseEnds (st : InstanceLockState) (id : InstanceId) (s : SessionId) (token : Option LockToken) :
    (st.release id s token).state = st ∧ (st.release id s token).result = .error (.notHeld id) ∧
      (st.release id s token).cleanup = false ∨
    (∃ promoted, (st.release id s token).result = .ok promoted) ∧
      (st.release id s token).cleanup = (st.release id s token).state.isEmpty := by
  unfold InstanceLockState.release
  dsimp only
  rw [releasedDrops]
  cases drops : st.drops (fun o => !matchesHolder s token o) with
  | false => exact .inl ⟨keepHoldersAll drops,rfl,rfl⟩
  | true => exact .inr ⟨⟨_,rfl⟩,rfl⟩

namespace LockManager

structure FailuresKeepMap (m : LockManager) : Prop where
  acquire : ∀ r auto now token error, (m.acquireInner r auto now token).2 = .error error →
    m.SameMap (m.acquireInner r auto now token).1
  renew : ∀ id s token ttl now error, (m.renewWithToken id s token ttl now).2 = .error error →
    m.SameMap (m.renewWithToken id s token ttl now).1
  release : ∀ id s token error, (m.releaseWithToken id s token).2 = .error error →
    (m.SameMap (m.releaseWithToken id s token).1 ↔ Table.get m.locks id ≠ none)

theorem acquireHolds (m : LockManager) (r auto now token) :
    ((m.entry r.instanceId).acquireInner r auto now token).1.isEmpty = false :=
  holdsNotEmpty (acquiredHolds (acquireInnerCases (m.entry r.instanceId) r auto now token))

theorem failedAcquire {m : LockManager} {r auto now token error}
    (failed : (m.acquireInner r auto now token).2 = .error error) :
    m.SameMap (m.acquireInner r auto now token).1 := by
  have done := acquireInnerCases (m.entry r.instanceId) r auto now token
  have told : ((m.entry r.instanceId).acquireInner r auto now token).2 = .error error := failed
  rw [told] at done
  have same := acquiredRefused done
  have holds := acquireHolds m r auto now token
  rw [same] at holds
  cases found : Table.get m.locks r.instanceId with
  | none =>
    rw [entryAbsent found] at holds
    cases holds
  | some st =>
    have written : (m.acquireInner r auto now token).1 = m.write r.instanceId st := by
      rw [← entryPresent found]
      exact congrArg (m.write r.instanceId) same
    rw [written]
    exact sameMapWrite found

theorem failedRenew {m : LockManager} {id s token ttl now error}
    (failed : (m.renewWithToken id s token ttl now).2 = .error error) :
    m.SameMap (m.renewWithToken id s token ttl now).1 := by
  unfold renewWithToken at failed ⊢
  cases found : Table.get m.locks id with
  | none => exact fun i => rfl
  | some st =>
    rw [found] at failed
    have done := renewWithTokenCases st id s token (expiry now ttl)
    dsimp only at failed ⊢
    rw [failed] at done
    rw [renewedRefused done]
    exact sameMapWrite found

theorem failedRelease {m : LockManager} {id s token error}
    (failed : (m.releaseWithToken id s token).2 = .error error) :
    (m.releaseWithToken id s token).1 = m.write id (m.entry id) := by
  have told : ((m.entry id).release id s token).result = .error error := failed
  rcases releaseEnds (m.entry id) id s token with ⟨state,_,cleanup⟩ | ⟨⟨promoted,ok⟩,_⟩
  · simp only [releaseWithToken,releaseSection,state,cleanup]
    rfl
  · rw [ok] at told
    cases told

theorem failuresKeepMap (m : LockManager) : m.FailuresKeepMap where
  acquire r auto now token error := failedAcquire
  renew id s token ttl now error := failedRenew
  release id s token error failed := by
    rw [failedRelease failed]
    cases found : Table.get m.locks id with
    | none =>
      refine ⟨fun same => ?_,fun present => absurd rfl present⟩
      have ghost := same id
      rw [found,write,Table.getPut,if_pos rfl] at ghost
      cases ghost
    | some st =>
      rw [entryPresent found]
      exact ⟨fun _ => Option.some_ne_none st,fun _ => sameMapWrite found⟩

end LockManager

def Removing (σ : Sys) (id : InstanceId) : Prop := ∃ t next, σ.tasks t = .removing id next

theorem beginAdvances (σ : Sys) (t : CallId) (x : Reading) (c : Call) :
    ∃ m notified task, (σ.begin t x c).1 = σ.advance t m notified task := by
  cases c with
  | acquire r => exact ⟨_,_,_,rfl⟩
  | acquireAuto id s type ttl => exact ⟨_,_,_,rfl⟩
  | acquireOrWait r waitTimeout => exact ⟨_,_,_,rfl⟩
  | releaseWithToken id s token => exact ⟨_,_,_,rfl⟩
  | renewWithToken id s token ttl => exact ⟨_,_,_,rfl⟩
  | reapExpired => exact ⟨_,_,_,rfl⟩
  | registerSession s => exact ⟨_,_,_,rfl⟩
  | unregisterSession s => exact ⟨_,_,_,rfl⟩
  | releaseAllForSession s => exact ⟨_,_,_,rfl⟩
  | requireLock q =>
    simp only [Sys.begin]
    split
    · exact ⟨_,_,_,rfl⟩
    · split <;> exact ⟨_,_,_,rfl⟩

theorem resumeAdvances {σ σ' : Sys} {t : CallId} {x : Reading} {task : Task} {out}
    (taken : σ.resume t x task = some (σ',out)) : ∃ m notified task', σ' = σ.advance t m notified task' := by
  have left := congrArg (Option.map Prod.fst) taken
  cases task with
  | idle => cases left
  | removing id next => exact ⟨_,_,_,(Option.some.inj left).symm⟩
  | reaping now ids =>
    cases ids with
    | nil => exact ⟨_,_,_,(Option.some.inj left).symm⟩
    | cons id ids => exact ⟨_,_,_,(Option.some.inj left).symm⟩
  | collecting s => exact ⟨_,_,_,(Option.some.inj left).symm⟩
  | releasing s ids =>
    cases ids with
    | nil => exact ⟨_,_,_,(Option.some.inj left).symm⟩
    | cons id ids => exact ⟨_,_,_,(Option.some.inj left).symm⟩
  | purging s ids =>
    cases ids with
    | nil => exact ⟨_,_,_,(Option.some.inj left).symm⟩
    | cons id ids => exact ⟨_,_,_,(Option.some.inj left).symm⟩
  | enqueuing r waitTimeout => exact ⟨_,_,_,(Option.some.inj left).symm⟩
  | waiting w notified =>
    cases notified with
    | true => exact ⟨_,_,_,(Option.some.inj left).symm⟩
    | false =>
      simp only [Sys.resume] at left
      split at left
      · exact ⟨_,_,_,(Option.some.inj left).symm⟩
      · split at left
        · exact ⟨_,_,_,(Option.some.inj left).symm⟩
        · cases left
  | retrying w => exact ⟨_,_,_,(Option.some.inj left).symm⟩
  | leaving w => exact ⟨_,_,_,(Option.some.inj left).symm⟩
  | autoAcquiring q => exact ⟨_,_,_,(Option.some.inj left).symm⟩
  | reclaiming q => exact ⟨_,_,_,(Option.some.inj left).symm⟩
  | readingStatus q => exact ⟨_,_,_,(Option.some.inj left).symm⟩
  | sweeping q holders =>
    cases holders with
    | nil => exact ⟨_,_,_,(Option.some.inj left).symm⟩
    | cons holder rest => exact ⟨_,_,_,(Option.some.inj left).symm⟩
  | seizing q holder rest => exact ⟨_,_,_,(Option.some.inj left).symm⟩
  | acquiringAgain q => exact ⟨_,_,_,(Option.some.inj left).symm⟩
  | rechecking q => exact ⟨_,_,_,(Option.some.inj left).symm⟩

theorem removingStays {σ : Sys} {t u : CallId} {id next} (m notified task) (other : u ≠ t)
    (at_ : σ.tasks u = .removing id next) : (σ.advance t m notified task).tasks u = .removing id next := by
  simp only [Sys.advance,if_neg other,at_]
  split <;> rfl

theorem removingKept {σ σ' : Sys} {a : Sys.Action} {out} (taken : σ.step a = some (σ',out)) {id : InstanceId}
    (pending : Removing σ id) (elsewhere : σ.sectionOf a ≠ .remove id) : Removing σ' id := by
  obtain ⟨u,next,at_⟩ := pending
  refine ⟨u,next,?_⟩
  cases a with
  | tick passed =>
    obtain ⟨rfl,_⟩ := Prod.mk.inj (Option.some.inj taken)
    exact at_
  | call t c x =>
    simp only [Sys.step] at taken
    split at taken
    · rename_i idle
      obtain ⟨m,notified,task,left⟩ := beginAdvances σ t x c
      rw [Option.some.inj taken] at left
      dsimp only at left
      rw [left]
      refine removingStays m notified task ?_ at_
      intro same
      rw [same,idle] at at_
      cases at_
    · cases taken
  | resume t x =>
    simp only [Sys.step] at taken
    obtain ⟨m,notified,task,left⟩ := resumeAdvances taken
    rw [left]
    refine removingStays m notified task ?_ at_
    intro same
    rw [same] at at_
    exact elsewhere (Sys.sectionAt at_ x)

theorem releaseRemoves {σ σ' : Sys} {t id s token reclaim next out}
    (taken : σ.release t id s token reclaim next = (σ',out))
    (empty : ((σ.manager.entry id).release id s token).cleanup = true) : Removing σ' id := by
  obtain ⟨rfl,_⟩ := Prod.mk.inj taken
  refine ⟨t,next,?_⟩
  rw [tasksSelf]
  exact if_pos empty

def Section.SeesEmpty (m : LockManager) (i : InstanceId) : Section → Prop
  | .release id s token _ => i = id ∧ ((m.entry id).release id s token).cleanup = true
  | .reap id now => i = id ∧ (m.reapSection id now).2.2 = true
  | _ => False

theorem emptiedRemoves {σ σ' : Sys} {a : Sys.Action} {out} (taken : σ.step a = some (σ',out)) {id : InstanceId}
    (seen : (σ.sectionOf a).SeesEmpty σ.manager id) : Removing σ' id := by
  cases a with
  | tick passed => cases seen
  | call t c x =>
    simp only [Sys.step] at taken
    split at taken
    · cases c with
      | releaseWithToken i s token =>
        obtain ⟨rfl,empty⟩ := seen
        exact releaseRemoves (Option.some.inj taken) empty
      | _ => cases seen
    · cases taken
  | resume t x =>
    simp only [Sys.step] at taken
    cases task : σ.tasks t with
    | releasing s ids =>
      rw [Sys.sectionAt task] at seen
      rw [task] at taken
      cases ids with
      | nil => cases seen
      | cons i ids =>
        obtain ⟨rfl,empty⟩ := seen
        exact releaseRemoves (Option.some.inj taken) empty
    | seizing q holder rest =>
      rw [Sys.sectionAt task] at seen
      rw [task] at taken
      obtain ⟨rfl,empty⟩ := seen
      exact releaseRemoves (Option.some.inj taken) empty
    | reaping now ids =>
      rw [Sys.sectionAt task] at seen
      rw [task] at taken
      cases ids with
      | nil => cases seen
      | cons i ids =>
        obtain ⟨rfl,empty⟩ := seen
        simp only [Sys.resume,empty,if_true,Option.some.injEq,Prod.mk.injEq] at taken
        obtain ⟨rfl,_⟩ := taken
        exact ⟨t,_,tasksSelf σ t _ _ _⟩
    | purging s ids =>
      rw [Sys.sectionAt task] at seen
      cases ids <;> cases seen
    | _ =>
      rw [Sys.sectionAt task] at seen
      cases seen

/-- A release finds an entry; what a removal of waiters leaves is not an empty entry,
unless another call is about to remove it. -/
structure Tidy (σ : Sys) (a : Sys.Action) : Prop where
  release : ∀ id s token reclaim, σ.sectionOf a = .release id s token reclaim →
    Table.get σ.manager.locks id ≠ none
  dequeue : ∀ id s, σ.sectionOf a = .dequeue id s → Table.get σ.manager.locks id = none ∨
    ((σ.manager.entry id).removeFromQueue s).isEmpty = false ∨ Removing σ id

def NoGhosts (σ : Sys) : Prop :=
  ∀ id, Table.get σ.manager.locks id ≠ none → (σ.manager.entry id).isEmpty = false ∨ Removing σ id

def Section.touches : Section → Option InstanceId
  | .none => Option.none
  | .acquire r _ _ => some r.instanceId
  | .release id _ _ _ => some id
  | .remove id => some id
  | .renew id _ _ _ => some id
  | .reap id _ => some id
  | .enqueue r => some r.instanceId
  | .dequeue id _ => some id

theorem getElsewhere {σ σ' : Sys} {a out} (move : Moves σ a σ' out) {i : InstanceId}
    (other : (σ.sectionOf a).touches ≠ some i) :
    Table.get σ'.manager.locks i = Table.get σ.manager.locks i := by
  have written : ∀ {id} {m : LockManager} {st}, i ≠ id → Table.get (m.write id st).locks i = Table.get m.locks i := by
    intro id m st apart
    rw [LockManager.write,Table.getPut,if_neg apart]
  have apart : ∀ {id}, (σ.sectionOf a).touches = some id → i ≠ id := by
    intro id touched same
    rw [touched,same] at other
    exact other rfl
  cases move with
  | tick passed => rfl
  | acquire now token sec before after said => exact written (apart (by rw [sec]; rfl))
  | retry x at_ => exact written (apart (by rw [Sys.sectionAt at_]; rfl))
  | release sec before after => exact written (apart (by rw [sec]; rfl))
  | @remove t id next x at_ =>
    have apart := @apart id (by rw [Sys.sectionAt at_]; rfl)
    change Table.get (Table.del σ.manager.locks id) i = _
    rw [Table.getDel,if_neg apart]
  | @renew a t id s token ttl now sec before =>
    have apart := @apart id (by rw [sec]; rfl)
    change Table.get (σ.manager.renewWithToken id s token ttl now).1.locks i = _
    unfold LockManager.renewWithToken
    split
    · rfl
    · exact written apart
  | @reap t now id ids task x at_ after =>
    have apart := @apart id (by rw [Sys.sectionAt at_]; rfl)
    change Table.get (σ.manager.reapSection id now).1.locks i = _
    unfold LockManager.reapSection
    split
    · rfl
    · exact written apart
  | enqueue x at_ => exact written (apart (by rw [Sys.sectionAt at_]; rfl))
  | @leave t w x at_ =>
    have apart := @apart w.request.instanceId (by rw [Sys.sectionAt at_]; rfl)
    change Table.get (σ.manager.removeFromQueue _ _).locks i = _
    unfold LockManager.removeFromQueue
    split
    · rfl
    · exact written apart
  | @purge t s id ids x at_ =>
    have apart := @apart id (by rw [Sys.sectionAt at_]; rfl)
    change Table.get (σ.manager.removeFromQueue id s).locks i = _
    unfold LockManager.removeFromQueue
    split
    · rfl
    · exact written apart
  | wake x at_ => rfl
  | giveUp x at_ why => rfl
  | register x before => rfl
  | forget x before => rfl
  | other sec before after said => rfl

theorem enqueueNotEmpty (st : InstanceLockState) (r now notify) : (st.enqueue r now notify).isEmpty = false := by
  simp [InstanceLockState.enqueue,InstanceLockState.isEmpty]

theorem entryOfGet {m m' : LockManager} {i : InstanceId} (same : Table.get m'.locks i = Table.get m.locks i) :
    m'.entry i = m.entry i := by
  simp only [LockManager.entry,same]

theorem presentRenew {m : LockManager} {id s token ttl now}
    (present : Table.get (m.renewWithToken id s token ttl now).1.locks id ≠ none) :
    Table.get m.locks id ≠ none := by
  unfold LockManager.renewWithToken at present
  split at present
  · exact present
  · rename_i st found
    rw [found]
    exact Option.some_ne_none st

theorem presentDequeue {m : LockManager} {id s} (present : Table.get (m.removeFromQueue id s).locks id ≠ none) :
    Table.get m.locks id ≠ none := by
  unfold LockManager.removeFromQueue at present
  split at present
  · exact present
  · rename_i st found
    rw [found]
    exact Option.some_ne_none st

theorem reapCleanup {m : LockManager} {id now} (present : Table.get (m.reapSection id now).1.locks id ≠ none) :
    (m.reapSection id now).2.2 = ((m.reapSection id now).1.entry id).isEmpty := by
  unfold LockManager.reapSection at present ⊢
  cases found : Table.get m.locks id with
  | none =>
    rw [found] at present
    exact absurd found present
  | some st =>
    dsimp only
    rw [LockManager.entryWrite,if_pos rfl]
    rfl

theorem dequeuedEntry {σ σ' : Sys} {a out} (met : Tidy σ a) (taken : σ.step a = some (σ',out)) {id s}
    (sec : σ.sectionOf a = .dequeue id s) (left : σ'.manager = σ.manager.removeFromQueue id s)
    (present : Table.get σ'.manager.locks id ≠ none) :
    (σ'.manager.entry id).isEmpty = false ∨ Removing σ' id := by
  rw [left] at present ⊢
  rw [LockManager.entryRemoveFromQueue,if_pos rfl]
  rcases met.dequeue id s sec with absent | full | pending
  · exact absurd absent (presentDequeue present)
  · exact .inl full
  · exact .inr (removingKept taken pending (by rw [sec]; intro removes; cases removes))

theorem touchedEntry {σ σ' : Sys} {a out} (tidy : NoGhosts σ) (met : Tidy σ a)
    (taken : σ.step a = some (σ',out)) {id : InstanceId} (here : (σ.sectionOf a).touches = some id)
    (present : Table.get σ'.manager.locks id ≠ none) :
    (σ'.manager.entry id).isEmpty = false ∨ Removing σ' id := by
  have untouched : σ.sectionOf a = .none → False := by
    intro sec
    rw [sec] at here
    cases here
  cases stepMoves taken with
  | tick passed => exact (untouched rfl).elim
  | @acquire a t r auto task extra now token sec before after said =>
    rw [sec] at here
    cases here
    left
    change ((σ.manager.acquireInner r auto now token).1.entry r.instanceId).isEmpty = false
    rw [LockManager.entryAcquireInner,if_pos rfl]
    exact LockManager.acquireHolds σ.manager r auto now token
  | @retry t w x at_ =>
    rw [Sys.sectionAt at_] at here
    cases here
    left
    change ((σ.manager.acquireInner w.request false x.now x.token).1.entry w.request.instanceId).isEmpty = false
    rw [LockManager.entryAcquireInner,if_pos rfl]
    exact LockManager.acquireHolds σ.manager w.request false x.now x.token
  | @release a t id s token reclaim task sec before after =>
    have found := met.release id s token reclaim sec
    have still : σ.sectionOf a ≠ .remove id := by
      rw [sec]
      intro removes
      cases removes
    rw [sec] at here
    cases here
    change ((σ.manager.releaseSection id s token).1.entry id).isEmpty = false ∨ _
    rw [LockManager.entryReleaseSection,if_pos rfl]
    rcases releaseEnds (σ.manager.entry id) id s token with ⟨state,_,_⟩ | ⟨_,cleanup⟩
    · rw [state]
      rcases tidy id found with full | pending
      · exact .inl full
      · exact .inr (removingKept taken pending still)
    · cases empty : ((σ.manager.entry id).release id s token).cleanup with
      | true => exact .inr (emptiedRemoves taken (by rw [sec]; exact ⟨rfl,empty⟩))
      | false => exact .inl (by rw [← cleanup,empty])
  | @remove t id next x at_ =>
    rw [Sys.sectionAt at_] at here
    cases here
    exact absurd (by simp [Sys.advance,LockManager.removeEntry]) present
  | @renew a t id s token ttl now sec before =>
    have still : σ.sectionOf a ≠ .remove id := by
      rw [sec]
      intro removes
      cases removes
    rw [sec] at here
    cases here
    have found := presentRenew present
    change ((σ.manager.renewWithToken id s token ttl now).1.entry id).isEmpty = false ∨ _
    rw [LockManager.entryRenewWithToken,if_pos rfl,
      renewedIsEmpty (renewWithTokenCases (σ.manager.entry id) id s token (expiry now ttl))]
    rcases tidy id found with full | pending
    · exact .inl full
    · exact .inr (removingKept taken pending still)
  | @reap t now id ids task x at_ after =>
    have sec := Sys.sectionAt at_ x
    rw [sec] at here
    cases here
    have cleanup := reapCleanup present
    cases empty : (σ.manager.reapSection id now).2.2 with
    | true => exact .inr (emptiedRemoves taken (by rw [sec]; exact ⟨rfl,empty⟩))
    | false =>
      left
      change ((σ.manager.reapSection id now).1.entry id).isEmpty = false
      rw [← cleanup,empty]
  | @enqueue t r waitTimeout x at_ =>
    rw [Sys.sectionAt at_] at here
    cases here
    left
    change ((σ.manager.enqueue r x.now t).entry r.instanceId).isEmpty = false
    rw [LockManager.entryEnqueue,if_pos rfl]
    exact enqueueNotEmpty _ _ _ _
  | @leave t w x at_ =>
    have sec := Sys.sectionAt at_ x
    rw [sec] at here
    cases here
    exact dequeuedEntry met taken sec rfl present
  | @purge t s id ids x at_ =>
    have sec := Sys.sectionAt at_ x
    rw [sec] at here
    cases here
    exact dequeuedEntry met taken sec rfl present
  | wake x at_ => exact (untouched (Sys.sectionAt at_ x)).elim
  | giveUp x at_ why => exact (untouched (Sys.sectionAt at_ x)).elim
  | register x before => exact (untouched rfl).elim
  | forget x before => exact (untouched rfl).elim
  | other sec before after said => exact (untouched sec).elim

theorem noGhostsStep {σ σ' : Sys} {a out} (tidy : NoGhosts σ) (met : Tidy σ a)
    (taken : σ.step a = some (σ',out)) : NoGhosts σ' := by
  intro id present
  by_cases here : (σ.sectionOf a).touches = some id
  · exact touchedEntry tidy met taken here present
  · have same := getElsewhere (stepMoves taken) here
    rw [same] at present
    rcases tidy id present with full | pending
    · exact .inl (by rw [entryOfGet same,full])
    · refine .inr (removingKept taken pending ?_)
      intro removes
      rw [removes] at here
      exact here rfl

structure TidyTable (σ : Sys) : Prop where
  failures : σ.manager.FailuresKeepMap
  noGhosts : NoGhosts σ
  listed : (∀ id, ¬ Removing σ id) → ∀ id,
    (∃ status ∈ σ.manager.statusAll, status.instanceId = id) ↔ (σ.manager.entry id).isEmpty = false

theorem tidyTable {mode : Bool} {σ : Sys} {trace : List Event} (run : (lockSystem mode).Run Tidy σ trace) :
    TidyTable σ := by
  have ghosts : NoGhosts σ := by
    refine Machine.runInvariant (fun σ _ => NoGhosts σ) ?_ ?_ run
    · intro id present
      exact absurd (Table.getEmpty id) present
    · intro σ _ a σ' out tidy met taken
      exact noGhostsStep tidy met taken
  refine ⟨σ.manager.failuresKeepMap,ghosts,?_⟩
  intro settled id
  rw [LockManager.memStatusAll,Option.isSome_iff_ne_none]
  constructor
  · intro present
    exact (ghosts id present).resolve_right (settled id)
  · intro full absent
    rw [LockManager.entryAbsent absent] at full
    cases full

theorem tidyTableRun : ∃ σ trace, (lockSystem false).Run Tidy σ trace ∧ TidyTable σ ∧
    Event.released instanceDev ⟨1⟩ none false ∈ trace := by
  have acquired := Machine.runStep (.start : (lockSystem false).Run Tidy _ _)
    (.call 0 (.acquire (asks ⟨1⟩)) (reads 1)) ⟨(by intro id s token reclaim sec; cases sec),
      by intro id s sec; cases sec⟩ rfl
  have released := Machine.runStep acquired (.call 1 (.releaseWithToken instanceDev ⟨1⟩ none) (reads 2))
    ⟨(by intro id s token reclaim sec; cases sec; intro absent; cases absent),by intro id s sec; cases sec⟩ rfl
  have removed := Machine.runStep released (.resume 1 (reads 3))
    ⟨(by intro id s token reclaim sec; cases sec),by intro id s sec; cases sec⟩ rfl
  exact ⟨_,_,removed,tidyTable removed,by simp⟩

theorem failedReleaseLeavesGhost : ¬ ∀ σ trace, Machine.Reaches (lockSystem false) σ trace →
    NoGhosts σ ∧ ∀ id s token error, (σ.manager.releaseWithToken id s token).2 = .error error →
      σ.manager.SameMap (σ.manager.releaseWithToken id s token).1 := by
  intro claim
  have released := Machine.runStep (.start : Machine.Reaches (lockSystem false) _ _)
    (.call 0 (.releaseWithToken instanceDev ⟨1⟩ none) (reads 1)) trivial rfl
  rcases (claim _ _ released).1 instanceDev (by intro absent; cases absent) with full | ⟨t,next,at_⟩
  · cases full
  · simp only [Sys.advance] at at_
    split at at_
    · cases at_
    · cases at_

end Vscreen.Lock
