import Vscreen.LockWakeup

/-! How an `acquire_or_wait` call that enqueued ends: with the lock, or with a
timeout at its own deadline. Three kinds of step end one otherwise: a retry that
finds the lock taken, a section that removes the entries of a whole session, and
the removal of a map entry with its queue. -/
namespace Vscreen.Lock
open InstanceLockState

def Overdue (σ : Sys) (id : InstanceId) (out : WaitEntry → Prop) : Prop :=
  ∀ en ∈ (σ.manager.entry id).waitQueue, out en → ∀ v, σ.tasks en.notify = .waiting v false →
    v.deadline ≤ σ.clock

structure WaitsOut (σ : Sys) (a : Sys.Action) : Prop where
  -- Nobody took the lock between the notification and the retry.
  retry : ∀ t x w, a = .resume t x → σ.tasks t = .retrying w →
    (σ.manager.entry w.request.instanceId).blocks w.request.sessionId w.request.lockType = false
  -- No other request of the session on the instance still has time.
  dequeue : ∀ id s, σ.sectionOf a = .dequeue id s → Overdue σ id (fun en => en.sessionId = s)
  -- Nobody enqueued since the guard was dropped.
  remove : ∀ id, σ.sectionOf a = .remove id → Overdue σ id (fun _ => True)

def EndsInTime (σ σ' : Sys) (w : Waiter) (reply : Except LockError LockInfo) : Prop :=
  (∃ info, reply = .ok info ∧ info.sessionId = w.request.sessionId ∧
    σ'.manager.checkAccess w.request.instanceId w.request.sessionId w.request.lockType = .ok ()) ∨
  reply = .error (.timeout w.request.instanceId) ∧ w.deadline ≤ σ.clock

structure Patient (σ : Sys) : Prop where
  present : ∀ t w, σ.tasks t = .waiting w false →
    (∃ en ∈ (σ.manager.entry w.request.instanceId).waitQueue, en.notify = t) ∨ w.deadline ≤ σ.clock
  late : ∀ t w, σ.tasks t = .leaving w → w.deadline ≤ σ.clock
  chained : ∀ t id next, σ.tasks t = .removing id next → next.plain = true

theorem tasksCases {σ : Sys} {t u m notified task} (other : u ≠ t) :
    (σ.advance t m notified task).tasks u = σ.tasks u ∧ (∀ en ∈ notified, en.notify ≠ u) ∨
    (σ.advance t m notified task).tasks u = (σ.tasks u).notify := by
  by_cases hit : ∃ en ∈ notified, en.notify = u
  · obtain ⟨en,mem,own⟩ := hit
    exact .inr (tasksNotified m task other mem own)
  · have none : ∀ en ∈ notified, en.notify ≠ u := fun en mem own => hit ⟨en,mem,own⟩
    exact .inl ⟨tasksAside m notified task other none,none⟩

theorem notifyWaiting {task : Task} {w : Waiter} : task.notify ≠ .waiting w false := by
  cases task <;> simp [Task.notify]

theorem notifyLeaving {task : Task} {w : Waiter} (left : task.notify = .leaving w) : task = .leaving w := by
  cases task <;> simp_all [Task.notify]

theorem notifyRemoving {task next : Task} {id} (left : task.notify = .removing id next) :
    task = .removing id next := by
  cases task <;> simp_all [Task.notify]

theorem patientAdvance {σ : Sys} {t m notified task} (patient : Patient σ)
    (taken : ∀ id, ∀ en ∈ (σ.manager.entry id).waitQueue, en ∈ (m.entry id).waitQueue ∨ en ∈ notified ∨
      ∀ v, σ.tasks en.notify = .waiting v false → v.deadline ≤ σ.clock)
    (present : ∀ w, task = .waiting w false → ∃ en ∈ (m.entry w.request.instanceId).waitQueue, en.notify = t)
    (late : ∀ w, task = .leaving w → w.deadline ≤ σ.clock)
    (chained : ∀ id next, task = .removing id next → next.plain = true) :
    Patient (σ.advance t m notified task) := by
  constructor
  · intro u w waits
    by_cases self : u = t
    · subst self
      rw [tasksSelf] at waits
      exact .inl (present w waits)
    · rcases @tasksCases σ t u m notified task self with ⟨same,unnotified⟩ | same
      · rw [same] at waits
        rcases patient.present u w waits with ⟨en,mem,rfl⟩ | overdue
        · rcases taken _ en mem with stays | out | overdue
          · exact .inl ⟨en,stays,rfl⟩
          · exact absurd rfl (unnotified en out)
          · exact .inr (overdue w waits)
        · exact .inr overdue
      · rw [same] at waits
        exact absurd waits notifyWaiting
  · intro u w leaves
    by_cases self : u = t
    · subst self
      rw [tasksSelf] at leaves
      exact late w leaves
    · rcases @tasksCases σ t u m notified task self with ⟨same,_⟩ | same
      · exact patient.late u w (same ▸ leaves)
      · exact patient.late u w (notifyLeaving (same ▸ leaves))
  · intro u id next removes
    by_cases self : u = t
    · subst self
      rw [tasksSelf] at removes
      exact chained id next removes
    · rcases @tasksCases σ t u m notified task self with ⟨same,_⟩ | same
      · exact patient.chained u id next (same ▸ removes)
      · exact patient.chained u id next (notifyRemoving (same ▸ removes))

theorem patientPlain {σ : Sys} {t m notified task} (patient : Patient σ)
    (taken : ∀ id, ∀ en ∈ (σ.manager.entry id).waitQueue, en ∈ (m.entry id).waitQueue ∨ en ∈ notified ∨
      ∀ v, σ.tasks en.notify = .waiting v false → v.deadline ≤ σ.clock) (plain : task.plain = true) :
    Patient (σ.advance t m notified task) := by
  refine patientAdvance patient taken ?_ ?_ ?_
  · rintro w rfl; contradiction
  · rintro w rfl; contradiction
  · rintro id next rfl; exact plain

theorem sameTaken {σ : Sys} {m : LockManager} {notified : List WaitEntry}
    (same : ∀ id, (m.entry id).waitQueue = (σ.manager.entry id).waitQueue) :
    ∀ id, ∀ en ∈ (σ.manager.entry id).waitQueue, en ∈ (m.entry id).waitQueue ∨ en ∈ notified ∨
      ∀ v, σ.tasks en.notify = .waiting v false → v.deadline ≤ σ.clock :=
  fun id en mem => .inl (by rw [same id]; exact mem)

theorem promotedTaken {σ : Sys} {m : LockManager} {id notified}
    (split : notified ++ (m.entry id).waitQueue = (σ.manager.entry id).waitQueue)
    (elsewhere : ∀ i, i ≠ id → m.entry i = σ.manager.entry i) :
    ∀ i, ∀ en ∈ (σ.manager.entry i).waitQueue, en ∈ (m.entry i).waitQueue ∨ en ∈ notified ∨
      ∀ v, σ.tasks en.notify = .waiting v false → v.deadline ≤ σ.clock := by
  intro i en mem
  by_cases same : i = id
  · subst same
    rw [← split] at mem
    rcases List.mem_append.mp mem with out | stays
    · exact .inr (.inl out)
    · exact .inl stays
  · rw [elsewhere i same]; exact .inl mem

theorem dequeueTaken {σ : Sys} {id s} (overdue : Overdue σ id (fun en => en.sessionId = s)) :
    ∀ i, ∀ en ∈ (σ.manager.entry i).waitQueue,
      en ∈ ((σ.manager.removeFromQueue id s).entry i).waitQueue ∨ en ∈ ([] : List WaitEntry) ∨
      ∀ v, σ.tasks en.notify = .waiting v false → v.deadline ≤ σ.clock := by
  intro i en mem
  rw [LockManager.entryRemoveFromQueue]
  split
  · rename_i same
    subst same
    by_cases own : en.sessionId = s
    · exact .inr (.inr (overdue en mem own))
    · exact .inl (List.mem_filter.mpr ⟨mem,by simpa using own⟩)
  · exact .inl mem

theorem patientMoves {σ σ' : Sys} {a out} (ex : σ.manager.Excludes) (patient : Patient σ)
    (met : WaitsOut σ a) (move : Moves σ a σ' out) : Patient σ' := by
  cases move with
  | tick passed =>
    refine ⟨?_,?_,patient.chained⟩
    · intro t w waits
      rcases patient.present t w waits with present | overdue
      · exact .inl present
      · exact .inr (Nat.le_add_right_of_le overdue)
    · intro t w leaves
      exact Nat.le_add_right_of_le (patient.late t w leaves)
  | acquire now token sec before after said =>
    exact patientPlain patient (sameTaken (fun _ => LockManager.queueAcquireInner _ _ _ _)) after
  | retry x at_ =>
    exact patientPlain patient (sameTaken (fun _ => LockManager.queueAcquireInner _ _ _ _)) rfl
  | release sec before after =>
    refine patientPlain patient (promotedTaken (LockManager.queueReleaseSection _ _) ?_) after
    intro i other
    rw [LockManager.entryReleaseSection,if_neg other]
  | @remove t id next x at_ =>
    refine patientPlain patient ?_ (patient.chained t id next at_)
    intro i en mem
    rw [LockManager.entryRemoveEntry]
    split
    · rename_i same
      subst same
      exact .inr (.inr (met.remove i (Sys.sectionAt at_ x) en mem trivial))
    · exact .inl mem
  | renew now sec before =>
    exact patientPlain patient (sameTaken (fun _ => LockManager.queueRenewWithToken _ _ _ _)) rfl
  | reap x at_ after =>
    refine patientPlain patient (promotedTaken (LockManager.queueReapSection ex _) ?_) after
    intro i other
    rw [LockManager.entryReapSection,if_neg other]
  | @enqueue t r waitTimeout x at_ =>
    refine patientAdvance patient ?_ ?_ ?_ ?_
    · intro i en mem
      rw [LockManager.entryEnqueue]
      split
      · rename_i same; subst same; exact .inl (List.mem_append_left _ mem)
      · exact .inl mem
    · intro w same
      cases same
      refine ⟨⟨r.sessionId,r.agentName,r.lockType,x.now,t⟩,?_,rfl⟩
      rw [LockManager.entryEnqueue,if_pos rfl]
      exact List.mem_append_right _ (List.mem_singleton.mpr rfl)
    · intro w same; contradiction
    · intro id next same; contradiction
  | leave x at_ =>
    exact patientPlain patient (dequeueTaken (met.dequeue _ _ (Sys.sectionAt at_ x))) rfl
  | purge x at_ =>
    exact patientPlain patient (dequeueTaken (met.dequeue _ _ (Sys.sectionAt at_ x))) rfl
  | wake x at_ =>
    refine patientAdvance patient (sameTaken (fun _ => rfl)) ?_ ?_ ?_
    · intro w same; contradiction
    · intro w same; contradiction
    · intro id next same; contradiction
  | @giveUp t w x at_ why =>
    refine patientAdvance patient (sameTaken (fun _ => rfl)) ?_ ?_ ?_
    · intro w same; contradiction
    · intro v same
      cases same
      rcases why with dropped | overdue
      · rcases patient.present t w at_ with ⟨en,mem,rfl⟩ | overdue
        · simp only [Sys.senderDropped,Bool.not_eq_true',List.any_eq_false] at dropped
          have absent := dropped en mem
          simp at absent
        · exact overdue
      · exact overdue
    · intro id next same; contradiction
  | register x before => exact patientPlain patient (sameTaken (fun _ => rfl)) rfl
  | forget x before => exact patientPlain patient (sameTaken (fun _ => rfl)) rfl
  | other sec before after said => exact patientPlain patient (sameTaken (fun _ => rfl)) after

theorem freeAccess {st st' : InstanceLockState} {r auto now token info} (id : InstanceId) (free : st.exclusive = none)
    (done : Acquired st r auto now token st' (.ok info)) :
    st'.checkAccessWithToken id r.sessionId none r.lockType = .ok () := by
  cases done with
  | renewExclusive holder own =>
    rw [free] at holder
    cases holder
  | @renewObserver obs notHolder type found =>
    have own : obs.sessionId = r.sessionId := by simpa using List.find?_some found
    have hit : (modifyFirst (·.sessionId == r.sessionId) (renewed r.agentName (expiry now r.ttl))
        st.observers).any (matchesHolder r.sessionId none) = true :=
      List.any_eq_true.mpr ⟨_,modifyFirstFound found,by simp [matchesHolder,renewed,own]⟩
    simp only [checkAccessWithToken,free,type,hit,if_true]
  | grantExclusive free type alone => simp [checkAccessWithToken,matchesHolder,LockRequest.granted]
  | grantObserver free type fresh => simp [checkAccessWithToken,free,type,matchesHolder,LockRequest.granted]

theorem grantedAccess {st st' : InstanceLockState} {r auto now token info} (id : InstanceId) (ex : Exclusion st)
    (done : Acquired st r auto now token st' (.ok info)) :
    st'.checkAccessWithToken id r.sessionId none r.lockType = .ok () := by
  cases holder : st.exclusive with
  | none => exact freeAccess id holder done
  | some e =>
    cases done with
    | renewExclusive holder own => simp [checkAccessWithToken,matchesHolder,renewed,own]
    | renewObserver notHolder type found =>
      have mem := List.mem_of_find?_eq_some found
      rw [ex.alone e holder] at mem
      cases mem
    | grantExclusive free =>
      rw [holder] at free
      cases free
    | grantObserver free =>
      rw [holder] at free
      cases free

theorem endsMoves {σ σ' : Sys} {a out w reply} (ex : σ.manager.Excludes) (patient : Patient σ)
    (met : WaitsOut σ a) (move : Moves σ a σ' out) (told : .returned w reply ∈ out) : EndsInTime σ σ' w reply := by
  cases move with
  | @retry t v x at_ =>
    rcases List.mem_append.mp told with grant | returned
    · revert grant
      cases (σ.manager.acquireInner _ _ x.now x.token).2 <;> simp [grantEvents]
    · simp only [List.mem_singleton,Event.returned.injEq] at returned
      obtain ⟨rfl,rfl⟩ := returned
      have exclusion := LockManager.excludesEntry ex w.request.instanceId
      have done := acquireInnerCases (σ.manager.entry w.request.instanceId) w.request false x.now x.token
      obtain ⟨info,ok⟩ := unblockedGranted exclusion done (met.retry t x w rfl at_)
      rw [ok] at done
      refine .inl ⟨info,ok,(recordedAcquired done).1,?_⟩
      show (σ.manager.acquireInner w.request false x.now x.token).1.checkAccess _ _ _ = _
      rw [LockManager.checkAccessEntry,LockManager.entryAcquireInner,if_pos rfl]
      exact grantedAccess _ exclusion done
  | @leave t v x at_ =>
    simp only [List.mem_singleton,Event.returned.injEq] at told
    obtain ⟨rfl,rfl⟩ := told
    exact .inr ⟨rfl,patient.late t w at_⟩
  | @acquire _ t r auto task extra now token sec before after said =>
    rcases List.mem_append.mp told with grant | returned
    · revert grant
      cases (σ.manager.acquireInner _ _ now token).2 <;> simp [grantEvents]
    · rcases said with rfl | ⟨q,info,_,_,rfl⟩
      · contradiction
      · simp at returned
  | renew now sec before =>
    revert told
    cases (σ.manager.renewWithToken _ _ _ _ now).2 <;> simp [renewEvents]
  | other sec before after said =>
    rcases said with rfl | ⟨q,answer,rfl,_⟩
    · contradiction
    · simp at told
  | _ => simp at told

theorem patientRun {mode σ trace} (run : (lockSystem mode).Run WaitsOut σ trace) :
    Patient σ ∧ σ.manager.Excludes := by
  refine Machine.runInvariant (fun σ _ => Patient σ ∧ σ.manager.Excludes) ?_ ?_ run
  · refine ⟨⟨?_,?_,?_⟩,Table.allEmpty⟩
    · intro t w waits; contradiction
    · intro t w leaves; contradiction
    · intro t id next removes; contradiction
  · intro σ _ a σ' out inv met taken
    have move := stepMoves taken
    exact ⟨patientMoves inv.2 inv.1 met move,excludesMoves inv.2 move⟩

theorem queuedRequestsEnd {mode σ trace a σ' out w reply} (run : (lockSystem mode).Run WaitsOut σ trace)
    (met : WaitsOut σ a) (taken : (lockSystem mode).step σ a = some (σ',out))
    (told : .returned w reply ∈ out) : EndsInTime σ σ' w reply :=
  endsMoves (patientRun run).2 (patientRun run).1 met (stepMoves taken) told

theorem callWaitsOut {σ : Sys} {t : CallId} {c : Call} {x : Reading} : WaitsOut σ (.call t c x) := by
  constructor
  · intro t' x' w act
    cases act
  · intro id s sec
    cases c <;> cases sec
  · intro id sec
    cases c <;> cases sec

theorem queuedRequestsEndRun : ∃ σ σ', (lockSystem false).Reaches σ
    [.granted (asks ⟨1⟩) false ((asks ⟨1⟩).granted false 0 ⟨1⟩),.released instanceDev ⟨1⟩ none false] ∧
    EndsInTime σ σ' ⟨asks ⟨2⟩,60 * 10^9,0⟩ (.ok ((asks ⟨2⟩).granted false 0 ⟨6⟩)) := by
  have acquired := @Machine.Run.step _ _ _ (lockSystem false) WaitsOut _ _
    (.call 0 (.acquire (asks ⟨1⟩)) (reads 1)) _ _ .start callWaitsOut rfl
  have refused := @Machine.Run.step _ _ _ _ _ _ _
    (.call 1 (.acquireOrWait (asks ⟨2⟩) (60 * 10^9)) (reads 2)) _ _ acquired callWaitsOut rfl
  have queued := @Machine.Run.step _ _ _ _ _ _ _ (.resume 1 (reads 3)) _ _ refused (by
      constructor
      · intro t x w act at_; cases act; cases at_
      · intro id s sec; cases sec
      · intro id sec; cases sec) rfl
  have released := @Machine.Run.step _ _ _ _ _ _ _
    (.call 2 (.releaseWithToken instanceDev ⟨1⟩ none) (reads 4)) _ _ queued callWaitsOut rfl
  have woken := @Machine.Run.step _ _ _ _ _ _ _ (.resume 1 (reads 5)) _ _ released (by
      constructor
      · intro t x w act at_; cases act; cases at_
      · intro id s sec; cases sec
      · intro id sec; cases sec) rfl
  have ended := @queuedRequestsEnd _ _ _ (.resume 1 (reads 6)) _ _ ⟨asks ⟨2⟩,60 * 10^9,0⟩
    (.ok ((asks ⟨2⟩).granted false 0 ⟨6⟩)) woken (by
      constructor
      · intro t x w act at_; cases act; cases at_; rfl
      · intro id s sec; cases sec
      · intro id sec; cases sec) rfl (List.mem_append_right _ (List.mem_singleton.mpr rfl))
  exact ⟨_,_,Machine.runReaches woken,ended⟩

theorem bargingEndsWait : ¬ ∀ σ trace a σ' out w reply, (lockSystem false).Reaches σ trace →
    (lockSystem false).step σ a = some (σ',out) → .returned w reply ∈ out → EndsInTime σ σ' w reply := by
  intro claim
  have run := @Machine.execReaches _ _ _ (lockSystem false) _ _ _ _
    [.call 0 (.acquire (asks ⟨1⟩)) (reads 1),.call 1 (.acquireOrWait (asks ⟨2⟩) (60 * 10^9)) (reads 2),
      .resume 1 (reads 3),.call 2 (.releaseWithToken instanceDev ⟨1⟩ none) (reads 4),.resume 1 (reads 5),
      .call 3 (.acquire (asks ⟨3⟩)) (reads 6)]
    .start rfl
  have ended := claim _ _ (.resume 1 (reads 7)) _ _ ⟨asks ⟨2⟩,60 * 10^9,0⟩
    (.error (.instanceLocked ⟨3⟩ none (60 * 10^9))) run rfl (List.mem_singleton.mpr rfl)
  rcases ended with ⟨info,ok,_⟩ | ⟨timeout,_⟩
  · contradiction
  · cases timeout

end Vscreen.Lock
