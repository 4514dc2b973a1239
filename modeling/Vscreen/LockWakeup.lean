import Vscreen.LockQueue

/-! Lost wakeups. A queue is served when its front request is blocked by the
holders, or a notified call of the instance is still to retry. Every section that
can leave a queue unserved is listed with the condition under which it does not. -/
namespace Vscreen.Lock
open InstanceLockState

/-- The holders that stand in the way of a request: for an exclusive lock any
holder of another session, for an observer lock an exclusive one. -/
def InstanceLockState.blocks (st : InstanceLockState) (s : SessionId) : LockType → Bool
  | .exclusive => st.exclusive.any (fun e => e.sessionId != s) || st.observers.any (fun o => o.sessionId != s)
  | .observer => st.exclusive.any (fun e => e.sessionId != s)

def Notified (σ : Sys) (id : InstanceId) : Prop :=
  ∃ t w, w.request.instanceId = id ∧ (σ.tasks t = .waiting w true ∨ σ.tasks t = .retrying w)

def Served (σ : Sys) (id : InstanceId) : Prop :=
  ∀ front rest, (σ.manager.entry id).waitQueue = front::rest →
    (σ.manager.entry id).blocks front.sessionId front.requestedLockType = true

def NoLostWakeup (σ : Sys) : Prop := ∀ id, ¬ Notified σ id → Served σ id

def observes (en : WaitEntry) : Bool := en.requestedLockType == .observer

def reached (free : Bool) (queue : List WaitEntry) : List WaitEntry :=
  queue.takeWhile observes ++ if free then (queue.dropWhile observes).take 1 else []

def unreached (free : Bool) (queue : List WaitEntry) : List WaitEntry :=
  if free then (queue.dropWhile observes).drop 1 else queue.dropWhile observes

theorem promoteLoopReaches (free : Bool) (queue : List WaitEntry) :
    promoteLoop free queue = (reached free queue,unreached free queue) := by
  induction queue with
  | nil => cases free <;> rfl
  | cons front queue ih =>
    simp only [promoteLoop]
    cases type : front.requestedLockType with
    | exclusive => cases free <;> simp [reached,unreached,observes,type]
    | observer => cases free <;> simp [ih,reached,unreached,observes,type]

theorem reachedQueue {free : Bool} {queue : List WaitEntry} {en : WaitEntry} (mem : en ∈ reached free queue) :
    en ∈ queue := by
  have split := promoteLoopSplits free queue
  rw [promoteLoopReaches] at split
  rw [← split]
  exact List.mem_append_left _ mem

theorem droppedExclusive {st : InstanceLockState} {keep : LockInfo → Bool} (ex : Exclusion st)
    (drops : st.drops keep = true) : (st.keepHolders keep).exclusive = none := by
  cases holder : st.exclusive with
  | none => simp [keepHolders,holder]
  | some e =>
    simp only [InstanceLockState.drops,holder,ex.alone e holder,Option.any_some,List.any_nil,Bool.or_false,
      Bool.not_eq_true'] at drops
    simp [keepHolders,holder,Option.filter,drops]

/-- Ending the locks `keep` refuses: the promotion reaches a call that still waits,
or the whole queue, or what it does not reach is blocked by the observers left. -/
def EndsServed (σ : Sys) (id : InstanceId) (keep : LockInfo → Bool) : Prop :=
  let st := σ.manager.entry id
  let kept := st.keepHolders keep
  st.drops keep = true → Notified σ id ∨
    (∃ en ∈ reached kept.observers.isEmpty st.waitQueue, ∃ w, σ.tasks en.notify = .waiting w false) ∨
    ∀ front rest, unreached kept.observers.isEmpty st.waitQueue = front::rest →
      kept.blocks front.sessionId front.requestedLockType = true

structure Wakes (σ : Sys) (a : Sys.Action) : Prop where
  enqueue : ∀ r, σ.sectionOf a = .enqueue r → (σ.manager.entry r.instanceId).waitQueue = [] →
    Notified σ r.instanceId ∨ (σ.manager.entry r.instanceId).blocks r.sessionId r.lockType = true
  dequeue : ∀ id s, σ.sectionOf a = .dequeue id s → Notified σ id ∨
    ∀ front, (σ.manager.entry id).waitQueue.find? (fun en => en.sessionId != s) = some front →
      (σ.manager.entry id).blocks front.sessionId front.requestedLockType = true
  -- A retry is not the last one due while the front could go ahead, unless it
  -- obtains a lock that blocks the front.
  retry : ∀ t x w, a = .resume t x → σ.tasks t = .retrying w →
    (∃ u v, u ≠ t ∧ v.request.instanceId = w.request.instanceId ∧
      (σ.tasks u = .waiting v true ∨ σ.tasks u = .retrying v)) ∨
    Served σ w.request.instanceId ∨
    (σ.manager.entry w.request.instanceId).blocks w.request.sessionId w.request.lockType = false ∧
    ∀ front rest, (σ.manager.entry w.request.instanceId).waitQueue = front::rest →
      front.sessionId ≠ w.request.sessionId ∧
      (w.request.lockType = .exclusive ∨ front.requestedLockType = .exclusive)
  release : ∀ id s token reclaim, σ.sectionOf a = .release id s token reclaim →
    EndsServed σ id (fun o => !matchesHolder s token o)
  reap : ∀ id now, σ.sectionOf a = .reap id now → EndsServed σ id (unexpired now)

theorem anyModifyFirst {α : Type} {p : α → Bool} {f : α → α} {q : α → Bool} (same : ∀ x, q (f x) = q x)
    (xs : List α) : (modifyFirst p f xs).any q = xs.any q := by
  have mapped := modifyFirstMap same xs (p := p)
  have both := congrArg (fun l : List Bool => l.any id) mapped
  simpa [List.any_map] using both

theorem blocksRewrite {st : InstanceLockState} {p : LockInfo → Bool} {f : LockInfo → LockInfo} {s type}
    (session : ∀ o, (f o).sessionId = o.sessionId) :
    blocks {st with observers := modifyFirst p f st.observers} s type = st.blocks s type := by
  have same : ∀ o, ((f o).sessionId != s) = (o.sessionId != s) := fun o => by rw [session]
  cases type with
  | exclusive => simp only [blocks]; rw [anyModifyFirst same]
  | observer => rfl

theorem blocksAcquired {st st' : InstanceLockState} {r auto now token reply s type}
    (done : Acquired st r auto now token st' reply) (blocked : st.blocks s type = true) :
    st'.blocks s type = true := by
  cases done with
  | renewExclusive holder own =>
    cases type <;> simpa [blocks,holder,renewed] using blocked
  | renewObserver notHolder _ found =>
    rw [blocksRewrite]
    · exact blocked
    · intro o; rfl
  | grantExclusive free _ alone =>
    cases type with
    | exclusive =>
      rcases alone with none | ⟨o,one,own⟩
      · simp [blocks,free,none] at blocked
      · simpa [blocks,free,one,own,LockRequest.granted] using blocked
    | observer => simp [blocks,free] at blocked
  | grantObserver free _ fresh =>
    cases type with
    | exclusive =>
      simp only [blocks,free,Option.any_none,Bool.false_or] at blocked ⊢
      rw [List.any_append,blocked,Bool.true_or]
    | observer => simp [blocks,free] at blocked
  | lockedExclusive holder other => exact blocked
  | lockedObservers free _ observers shared => exact blocked

theorem blocksRenewed {st st' : InstanceLockState} {id u token expires reply s type}
    (done : Renewed st id u token expires st' reply) (blocked : st.blocks s type = true) :
    st'.blocks s type = true := by
  cases done with
  | exclusive holder own => cases type <;> simpa [blocks,holder] using blocked
  | observer found =>
    rw [blocksRewrite]
    · exact blocked
    · intro o; rfl
  | notHeld => exact blocked

theorem refusedBlocked {st st' : InstanceLockState} {r auto now token error} (ex : Exclusion st)
    (done : Acquired st r auto now token st' (.error error)) : st.blocks r.sessionId r.lockType = true := by
  cases done with
  | lockedExclusive holder foreign => cases r.lockType <;> simp [blocks,holder,foreign]
  | @lockedObservers o rest _ exclusive observers shared =>
    by_contra free
    rw [Bool.not_eq_true,exclusive] at free
    simp only [blocks,Bool.or_eq_false_iff,List.any_eq_false] at free
    have mine : ∀ p ∈ st.observers, p.sessionId = r.sessionId := fun p mem => by simpa using free.2 p mem
    have first := mine o (by simp [observers])
    rcases shared with more | foreign
    · obtain ⟨p,tail,rfl⟩ := List.exists_cons_of_ne_nil more
      have second := mine p (by simp [observers])
      have distinct := ex.distinct
      rw [observers] at distinct
      simp [first,second] at distinct
    · exact foreign first

theorem blocksGranted {st st' : InstanceLockState} {r auto now token info s type}
    (done : Acquired st r auto now token st' (.ok info))
    (other : s ≠ r.sessionId) (conflict : r.lockType = .exclusive ∨ type = .exclusive) :
    st'.blocks s type = true := by
  have apart : (r.sessionId != s) = true := by simpa using other.symm
  cases done with
  | @renewExclusive exc holder own => cases type <;> simp [blocks,renewed,own,apart]
  | @renewObserver obs notHolder observer found =>
    rw [observer] at conflict
    obtain rfl : type = .exclusive := by simpa using conflict
    have own : obs.sessionId = r.sessionId := by simpa using List.find?_some found
    simp only [blocks,Bool.or_eq_true]
    refine .inr (List.any_eq_true.mpr ⟨_,modifyFirstFound found,?_⟩)
    simpa [renewed,own] using other.symm
  | grantExclusive _ _ alone => cases type <;> simp [blocks,LockRequest.granted,apart]
  | grantObserver _ observer fresh =>
    rw [observer] at conflict
    obtain rfl : type = .exclusive := by simpa using conflict
    simp [blocks,LockRequest.granted,apart]

theorem unblockedGranted {st st' : InstanceLockState} {r auto now token reply} (ex : Exclusion st)
    (done : Acquired st r auto now token st' reply) (free : st.blocks r.sessionId r.lockType = false) :
    ∃ info, reply = .ok info := by
  cases reply with
  | ok info => exact ⟨info,rfl⟩
  | error error => rw [refusedBlocked ex done] at free; contradiction

theorem notifiedKeeps {σ : Sys} {id t u w} (m notified task) (other : u ≠ t)
    (same : w.request.instanceId = id) (due : σ.tasks u = .waiting w true ∨ σ.tasks u = .retrying w) :
    Notified (σ.advance t m notified task) id := by
  refine ⟨u,w,same,?_⟩
  by_cases hit : ∃ en ∈ notified, en.notify = u
  · obtain ⟨en,mem,own⟩ := hit
    rw [tasksNotified m task other mem own]
    rcases due with waits | retries
    · exact .inl (by rw [waits]; rfl)
    · exact .inr (by rw [retries]; rfl)
  · rw [tasksAside m notified task other (fun en mem own => hit ⟨en,mem,own⟩)]
    exact due

def Undue (task : Task) : Prop := ∀ w, task ≠ .waiting w true ∧ task ≠ .retrying w

theorem plainUndue {task : Task} (plain : task.plain = true) : Undue task := by
  intro w
  constructor <;> (rintro rfl; contradiction)

theorem notifiedAdvance {σ : Sys} {id t} (m notified task) (undue : Undue (σ.tasks t)) (due : Notified σ id) :
    Notified (σ.advance t m notified task) id := by
  obtain ⟨u,w,same,due⟩ := due
  refine notifiedKeeps m notified task ?_ same due
  rintro rfl
  rcases due with waits | retries
  · exact (undue w).1 waits
  · exact (undue w).2 retries

theorem servedSame {σ : Sys} {id t} {m : LockManager} (notified task)
    (queue : (m.entry id).waitQueue = (σ.manager.entry id).waitQueue)
    (blocked : ∀ s type, (σ.manager.entry id).blocks s type = true → (m.entry id).blocks s type = true)
    (served : Served σ id) : Served (σ.advance t m notified task) id := by
  intro front rest at_
  exact blocked _ _ (served front rest (queue.symm.trans at_))

theorem wakeSame {σ : Sys} {t} {m : LockManager} (task) (safe : NoLostWakeup σ) (undue : Undue (σ.tasks t))
    (queue : ∀ id, (m.entry id).waitQueue = (σ.manager.entry id).waitQueue)
    (blocked : ∀ id s type, (σ.manager.entry id).blocks s type = true → (m.entry id).blocks s type = true) :
    NoLostWakeup (σ.advance t m [] task) := by
  intro id quiet
  exact servedSame [] task (queue id) (blocked id)
    (safe id (fun due => quiet (notifiedAdvance m [] task undue due)))

theorem wakeEntry {σ : Sys} {t id m} (notified task) (safe : NoLostWakeup σ) (undue : Undue (σ.tasks t))
    (elsewhere : ∀ i, i ≠ id → m.entry i = σ.manager.entry i)
    (here : ¬ Notified (σ.advance t m notified task) id → Served (σ.advance t m notified task) id) :
    NoLostWakeup (σ.advance t m notified task) := by
  intro i quiet
  by_cases same : i = id
  · subst same; exact here quiet
  · have served := safe i (fun due => quiet (notifiedAdvance m notified task undue due))
    exact servedSame notified task (by rw [elsewhere i same]) (by rw [elsewhere i same]; exact fun _ _ b => b) served

theorem blocksAcquireInner {m : LockManager} {r auto now token} (id s type)
    (blocked : (m.entry id).blocks s type = true) :
    ((m.acquireInner r auto now token).1.entry id).blocks s type = true := by
  rw [LockManager.entryAcquireInner]
  split
  · rename_i same
    rw [same] at blocked
    exact blocksAcquired (acquireInnerCases _ r auto now token) blocked
  · exact blocked

theorem blocksRenewWithToken {m : LockManager} {i u token ttl now} (id s type)
    (blocked : (m.entry id).blocks s type = true) :
    ((m.renewWithToken i u token ttl now).1.entry id).blocks s type = true := by
  rw [LockManager.entryRenewWithToken]
  split
  · rename_i same
    rw [same] at blocked
    exact blocksRenewed (renewWithTokenCases _ i u token _) blocked
  · exact blocked

theorem wakeRetry {σ : Sys} {t w now token} (ex : σ.manager.Excludes) (safe : NoLostWakeup σ)
    (at_ : σ.tasks t = .retrying w)
    (met : (∃ u v, u ≠ t ∧ v.request.instanceId = w.request.instanceId ∧
        (σ.tasks u = .waiting v true ∨ σ.tasks u = .retrying v)) ∨
      Served σ w.request.instanceId ∨
      (σ.manager.entry w.request.instanceId).blocks w.request.sessionId w.request.lockType = false ∧
      ∀ front rest, (σ.manager.entry w.request.instanceId).waitQueue = front::rest →
        front.sessionId ≠ w.request.sessionId ∧
        (w.request.lockType = .exclusive ∨ front.requestedLockType = .exclusive)) :
    NoLostWakeup (σ.advance t (σ.manager.acquireInner w.request false now token).1 [] .idle) := by
  intro id quiet
  have queue := @LockManager.queueAcquireInner σ.manager id w.request false now token
  by_cases same : id = w.request.instanceId
  · subst same
    rcases met with ⟨u,v,other,on,due⟩ | served | ⟨free,front⟩
    · exact absurd (notifiedKeeps _ _ _ other on due) quiet
    · exact servedSame [] _ queue (blocksAcquireInner _) served
    · intro first rest first_
      have conflict := front first rest (queue.symm.trans first_)
      show ((σ.manager.acquireInner w.request false now token).1.entry _).blocks _ _ = true
      rw [LockManager.entryAcquireInner,if_pos rfl]
      have done := acquireInnerCases (σ.manager.entry w.request.instanceId) w.request false now token
      obtain ⟨info,ok⟩ := unblockedGranted (LockManager.excludesEntry ex _) done free
      rw [ok] at done
      exact blocksGranted done conflict.1 conflict.2
  · refine servedSame [] _ queue (blocksAcquireInner _) (safe id ?_)
    rintro ⟨u,v,on,due⟩
    refine quiet (notifiedKeeps _ _ _ ?_ on due)
    rintro rfl
    rw [at_] at due
    rcases due with waits | retries
    · contradiction
    · exact same (by rw [← on,Task.retrying.inj retries])

theorem wakeEnds {σ : Sys} {t id m keep notified task} (ex : σ.manager.Excludes) (queued : Queued σ)
    (safe : NoLostWakeup σ) (undue : Undue (σ.tasks t)) (met : EndsServed σ id keep)
    (free : ∀ w, σ.tasks t ≠ .waiting w false ∧ σ.tasks t ≠ .leaving w)
    (ends : (m.entry id,notified) = (σ.manager.entry id).dropHolders keep)
    (elsewhere : ∀ i, i ≠ id → m.entry i = σ.manager.entry i) :
    NoLostWakeup (σ.advance t m notified task) := by
  refine wakeEntry notified task safe undue elsewhere ?_
  intro quiet
  have was : ¬ Notified σ id := fun due => quiet (notifiedAdvance m notified task undue due)
  simp only [dropHolders] at ends
  split at ends
  · rename_i drops
    have exclusive : ((σ.manager.entry id).keepHolders keep).exclusive = none :=
      droppedExclusive (LockManager.excludesEntry ex id) drops
    simp only [tryPromote,exclusive,Option.isSome_none,Bool.false_eq_true,if_false,
      promoteLoopReaches,Prod.mk.injEq] at ends
    obtain ⟨entry,rfl⟩ := ends
    rcases met drops with due | ⟨en,mem,w,waits⟩ | blocked
    · exact absurd due was
    · refine absurd ⟨en.notify,w,?_,.inl ?_⟩ quiet
      · obtain ⟨v,own,vid,_⟩ := queued.owner id en (reachedQueue mem)
        rw [waits] at own
        rcases own with waits | leaves
        · rw [(Task.waiting.inj waits).1]; exact vid
        · contradiction
      · have other : en.notify ≠ t := noEntry queued free (reachedQueue mem)
        refine (tasksNotified m task other mem rfl).trans ?_
        rw [waits]
        rfl
    · intro front rest first
      change (m.entry id).waitQueue = _ at first
      show (m.entry id).blocks _ _ = true
      rw [entry] at first ⊢
      have blocked := blocked front rest first
      revert blocked
      cases front.requestedLockType <;> simp [blocks,exclusive]
  · obtain ⟨entry,rfl⟩ := Prod.mk.inj ends
    exact servedSame [] task (by rw [entry]) (by rw [entry]; exact fun _ _ b => b) (safe id was)

theorem wakeEnqueue {σ : Sys} {t r now task} (safe : NoLostWakeup σ) (undue : Undue (σ.tasks t))
    (met : (σ.manager.entry r.instanceId).waitQueue = [] → Notified σ r.instanceId ∨
      (σ.manager.entry r.instanceId).blocks r.sessionId r.lockType = true) :
    NoLostWakeup (σ.advance t (σ.manager.enqueue r now t) [] task) := by
  refine wakeEntry [] task safe undue (fun i other => by rw [LockManager.entryEnqueue,if_neg other]) ?_
  intro quiet
  have was : ¬ Notified σ r.instanceId := fun due => quiet (notifiedAdvance _ [] task undue due)
  intro front rest first
  change ((σ.manager.enqueue r now t).entry r.instanceId).waitQueue = _ at first
  show ((σ.manager.enqueue r now t).entry r.instanceId).blocks _ _ = true
  rw [LockManager.entryEnqueue,if_pos rfl] at first ⊢
  have holders : ∀ s type, ((σ.manager.entry r.instanceId).enqueue r now t).blocks s type =
      (σ.manager.entry r.instanceId).blocks s type := by
    intro s type; cases type <;> rfl
  rw [holders]
  simp only [InstanceLockState.enqueue] at first
  cases queue : (σ.manager.entry r.instanceId).waitQueue with
  | nil =>
    rw [queue] at first
    obtain ⟨rfl,_⟩ := List.cons.inj first
    rcases met queue with due | blocked
    · exact absurd due was
    · exact blocked
  | cons old more =>
    rw [queue] at first
    obtain ⟨rfl,_⟩ := List.cons.inj first
    exact safe _ was old more queue

theorem wakeDequeue {σ : Sys} {t id s task} (safe : NoLostWakeup σ) (undue : Undue (σ.tasks t))
    (met : Notified σ id ∨
      ∀ front, (σ.manager.entry id).waitQueue.find? (fun en => en.sessionId != s) = some front →
        (σ.manager.entry id).blocks front.sessionId front.requestedLockType = true) :
    NoLostWakeup (σ.advance t (σ.manager.removeFromQueue id s) [] task) := by
  refine wakeEntry [] task safe undue (fun i other => by rw [LockManager.entryRemoveFromQueue,if_neg other]) ?_
  intro quiet front rest first
  change ((σ.manager.removeFromQueue id s).entry id).waitQueue = _ at first
  show ((σ.manager.removeFromQueue id s).entry id).blocks _ _ = true
  rw [LockManager.entryRemoveFromQueue,if_pos rfl] at first ⊢
  have holders : ∀ u type, ((σ.manager.entry id).removeFromQueue s).blocks u type =
      (σ.manager.entry id).blocks u type := by
    intro u type; cases type <;> rfl
  rw [holders]
  rcases met with due | blocked
  · exact absurd (notifiedAdvance _ [] task undue due) quiet
  · refine blocked front ?_
    rw [← List.head?_filter]
    exact congrArg List.head? first

theorem wakeMoves {σ σ' : Sys} {a out} (ex : σ.manager.Excludes) (queued : Queued σ)
    (safe : NoLostWakeup σ) (met : Wakes σ a) (move : Moves σ a σ' out) : NoLostWakeup σ' := by
  cases move with
  | tick passed => exact safe
  | acquire now token sec before after said =>
    exact wakeSame _ safe (plainUndue before) (fun _ => LockManager.queueAcquireInner _ _ _ _)
      (fun id => blocksAcquireInner id)
  | retry x at_ => exact wakeRetry ex safe at_ (met.retry _ x _ rfl at_)
  | @release _ t id s token reclaim task sec before after =>
    refine wakeEnds ex queued safe (plainUndue before) (met.release id s token reclaim sec)
      (plainFree before) ?_ ?_
    · rw [LockManager.entryReleaseSection,if_pos rfl]
      exact releaseDrops _ id s token
    · intro i other
      rw [LockManager.entryReleaseSection,if_neg other]
  | @remove t id next x at_ =>
    have elsewhere : ∀ i, i ≠ id → (σ.manager.removeEntry id).entry i = σ.manager.entry i := by
      intro i other
      rw [LockManager.entryRemoveEntry,if_neg other]
    refine wakeEntry [] next safe (by simp [Undue,at_]) elsewhere ?_
    · intro _ front rest first
      change ((σ.manager.removeEntry _).entry _).waitQueue = _ at first
      rw [LockManager.entryRemoveEntry,if_pos rfl] at first
      contradiction
  | renew now sec before =>
    exact wakeSame _ safe (plainUndue before) (fun _ => LockManager.queueRenewWithToken _ _ _ _)
      (fun id => blocksRenewWithToken id)
  | @reap t now id ids task x at_ after =>
    refine wakeEnds ex queued safe (by simp [Undue,at_]) (met.reap id now (Sys.sectionAt at_ x))
      (by simp [at_]) ?_ ?_
    · rw [LockManager.entryReapSection,if_pos rfl,LockManager.notifiedReapSection]
      exact reapDrops (LockManager.excludesEntry ex id) now
    · intro i other
      rw [LockManager.entryReapSection,if_neg other]
  | enqueue x at_ =>
    exact wakeEnqueue safe (by simp [Undue,at_]) (met.enqueue _ (Sys.sectionAt at_ x))
  | leave x at_ => exact wakeDequeue safe (by simp [Undue,at_]) (met.dequeue _ _ (Sys.sectionAt at_ x))
  | purge x at_ => exact wakeDequeue safe (by simp [Undue,at_]) (met.dequeue _ _ (Sys.sectionAt at_ x))
  | @wake t w x at_ =>
    intro id quiet
    refine servedSame [] _ rfl (fun _ _ b => b) (safe id ?_)
    rintro ⟨u,v,on,due⟩
    by_cases self : u = t
    · subst self
      rw [at_] at due
      rcases due with waits | retries
      · rw [(Task.waiting.inj waits).1] at quiet
        exact quiet ⟨u,v,on,.inr (tasksSelf σ _ _ _ _)⟩
      · contradiction
    · exact quiet (notifiedKeeps _ _ _ self on due)
  | giveUp x at_ why =>
    exact wakeSame _ safe (by simp [Undue,at_]) (fun _ => rfl) (fun _ _ _ b => b)
  | register x before => exact wakeSame _ safe (plainUndue before) (fun _ => rfl) (fun _ _ _ b => b)
  | forget x before => exact wakeSame _ safe (plainUndue before) (fun _ => rfl) (fun _ _ _ b => b)
  | other sec before after said =>
    exact wakeSame _ safe (plainUndue before) (fun _ => rfl) (fun _ _ _ b => b)

theorem noLostWakeup {mode σ trace} (run : (lockSystem mode).Run Wakes σ trace) : NoLostWakeup σ := by
  have all := Machine.runInvariant (fun σ _ => NoLostWakeup σ ∧ Queued σ ∧ σ.manager.Excludes) ?_ ?_ run
  · exact all.1
  · refine ⟨?_,queuedStart mode,Table.allEmpty⟩
    intro id _ front rest first
    contradiction
  · intro σ _ a σ' out inv met taken
    have move := stepMoves taken
    exact ⟨wakeMoves inv.2.2 inv.2.1 inv.1 met move,queuedMoves inv.2.2 inv.2.1 move,
      excludesMoves inv.2.2 move⟩

theorem askingWakes {σ : Sys} {t : CallId} {c : Call} {x : Reading} {r : LockRequest} {auto retry : Bool}
    (asks : σ.sectionOf (.call t c x) = .acquire r auto retry) : Wakes σ (.call t c x) := by
  constructor
  · intro r' sec
    rw [asks] at sec
    cases sec
  · intro id s sec
    rw [asks] at sec
    cases sec
  · intro t' x' w act
    cases act
  · intro id s token reclaim sec
    rw [asks] at sec
    cases sec
  · intro id now sec
    rw [asks] at sec
    cases sec

theorem noLostWakeupRun : ∃ σ, (lockSystem false).Reaches σ
    [.granted (asks ⟨1⟩) false ((asks ⟨1⟩).granted false 0 ⟨1⟩)] ∧
    (σ.manager.entry instanceDev).waitQueue.length = 1 ∧ NoLostWakeup σ := by
  have acquired := @Machine.Run.step _ _ _ (lockSystem false) Wakes _ _
    (.call 0 (.acquire (asks ⟨1⟩)) (reads 1)) _ _ .start (askingWakes rfl) rfl
  have refused := @Machine.Run.step _ _ _ _ _ _ _
    (.call 1 (.acquireOrWait (asks ⟨2⟩) (60 * 10^9)) (reads 2)) _ _ acquired (askingWakes rfl) rfl
  have queued := @Machine.Run.step _ _ _ _ _ _ _ (.resume 1 (reads 3)) _ _ refused (by
      constructor
      · intro r sec _; cases sec; exact .inr rfl
      · intro id s sec; cases sec
      · intro t x w act at_; cases act; cases at_
      · intro id s token reclaim sec; cases sec
      · intro id now sec; cases sec) rfl
  exact ⟨_,Machine.runReaches queued,rfl,noLostWakeup queued⟩

theorem enqueueMissesRelease :
    ¬ ∀ σ trace, (lockSystem false).Reaches σ trace → NoLostWakeup σ := by
  intro claim
  have run := @Machine.execReaches _ _ _ (lockSystem false) _ _ _ _
    [.call 0 (.acquire (asks ⟨1⟩)) (reads 1),.call 1 (.acquireOrWait (asks ⟨2⟩) (60 * 10^9)) (reads 2),
      .call 2 (.releaseWithToken instanceDev ⟨1⟩ none) (reads 3),.resume 2 (reads 4),.resume 1 (reads 5)]
    .start rfl
  have free := claim _ _ run instanceDev ?_ _ _ rfl
  · contradiction
  · rintro ⟨t,w,_,due⟩
    rcases t with _ | _ | _ | t <;> rcases due with due | due <;> cases due

end Vscreen.Lock
