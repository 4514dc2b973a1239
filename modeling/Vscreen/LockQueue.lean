import Vscreen.LockLedger

/-! The wait queues and the calls that wait in them: every entry belongs to one
call that waits unnotified or is leaving. The sections that end locks are one
operation, `dropHolders`, with the promotion it runs. -/
namespace Vscreen.Lock
open InstanceLockState

theorem acquiredQueue {st st' : InstanceLockState} {r auto now token reply}
    (done : Acquired st r auto now token st' reply) : st'.waitQueue = st.waitQueue := by
  cases done <;> rfl

theorem renewedQueue {st st' : InstanceLockState} {id s token expires reply}
    (done : Renewed st id s token expires st' reply) : st'.waitQueue = st.waitQueue := by
  cases done <;> rfl

def InstanceLockState.drops (st : InstanceLockState) (keep : LockInfo → Bool) : Bool :=
  st.exclusive.any (fun e => !keep e) || st.observers.any (fun o => !keep o)

/-- What ending locks comes to: the holders `keep` refuses go, and if there were
any, one promotion runs. -/
def InstanceLockState.dropHolders (st : InstanceLockState) (keep : LockInfo → Bool) :
    InstanceLockState × List WaitEntry :=
  if st.drops keep then (st.keepHolders keep).tryPromote.2 else (st,[])

theorem keepHoldersAll {st : InstanceLockState} {keep : LockInfo → Bool} (none : st.drops keep = false) :
    st.keepHolders keep = st := by
  simp only [drops,Bool.or_eq_false_iff,Option.any_eq_false,List.any_eq_false] at none
  have exclusive : st.exclusive.filter keep = st.exclusive := by
    cases held : st.exclusive with
    | none => rfl
    | some e => have kept := none.1 e held; simp at kept; simp [Option.filter,kept]
  have observers : st.observers.filter keep = st.observers := by
    refine List.filter_eq_self.mpr ?_
    intro o mem
    simpa using none.2 o mem
  simp only [keepHolders,exclusive,observers]

theorem releasedDrops (st : InstanceLockState) (s : SessionId) (token : Option LockToken) :
    (st.exclusive.any (matchesHolder s token) || decide ((st.keepHolders
      (fun o => !matchesHolder s token o)).observers.length < st.observers.length)) =
    st.drops (fun o => !matchesHolder s token o) := by
  simp only [drops,Bool.not_not,keepHolders]
  congr 1
  rw [Bool.eq_iff_iff]
  simp [List.length_filter_lt_length_iff_exists]

theorem releaseDrops (st : InstanceLockState) (id : InstanceId) (s : SessionId) (token : Option LockToken) :
    ((st.release id s token).state,(st.release id s token).notified) =
      st.dropHolders (fun o => !matchesHolder s token o) := by
  simp only [InstanceLockState.release,dropHolders]
  rw [releasedDrops]
  cases drops : st.drops (fun o => !matchesHolder s token o) with
  | false => simp [keepHoldersAll drops]
  | true => rfl

theorem reapDrops {st : InstanceLockState} (ex : Exclusion st) (now : Time) :
    ((st.reap now).1,(st.reap now).2.1) = st.dropHolders (unexpired now) := by
  obtain ⟨exclusive,observers,queue⟩ := st
  cases exclusive with
  | some e =>
    have alone : observers = [] := ex.alone e rfl
    subst alone
    have after := tryPromoteHolders ⟨none,[],queue⟩
    cases live : unexpired now e with
    | true =>
      have expired : decide (e.expiresAt ≤ now) = false := by simpa [unexpired] using live
      simp [InstanceLockState.reap,dropHolders,drops,live,expired]
    | false =>
      have expired : decide (e.expiresAt ≤ now) = true := by simpa [unexpired] using live
      simp only [InstanceLockState.reap,dropHolders,drops,keepHolders,live,expired,Option.any_some,
        Bool.not_true,Bool.not_false,if_true,Bool.true_or,Option.filter,after.2,List.filter_nil,
        Nat.lt_irrefl,if_false,List.append_nil,Bool.false_eq_true]
      generalize InstanceLockState.tryPromote ⟨none,[],queue⟩ = promoted at after ⊢
      obtain ⟨_,⟨_,left,_⟩,_⟩ := promoted
      have same : left = [] := after.2
      rw [same]
  | none =>
    have dropped : decide ((observers.filter (unexpired now)).length < observers.length) =
        observers.any (fun o => !unexpired now o) := by
      rw [Bool.eq_iff_iff]
      simp [List.length_filter_lt_length_iff_exists]
    cases dead : observers.any (fun o => !unexpired now o) with
    | true =>
      rw [dead,decide_eq_true_eq] at dropped
      have dropped' : (observers.filter (fun o => !decide (o.expiresAt ≤ now))).length < observers.length :=
        dropped
      simp only [InstanceLockState.reap,dropHolders,drops,keepHolders,dead,Option.any_none,
        Bool.false_or,if_true,Option.filter_none,List.nil_append,Bool.false_eq_true,if_false,dropped']
      rfl
    | false =>
      rw [dead,decide_eq_false_iff_not] at dropped
      have dropped' : ¬ (observers.filter (fun o => !decide (o.expiresAt ≤ now))).length < observers.length :=
        dropped
      have all : observers.filter (fun o => !decide (o.expiresAt ≤ now)) = observers := by
        refine List.filter_eq_self.mpr ?_
        intro o mem
        have kept := List.any_eq_false.mp dead o mem
        simpa [unexpired] using kept
      simp only [InstanceLockState.reap,dropHolders,drops,dead,Option.any_none,
        Bool.false_or,if_false,List.nil_append,Bool.false_eq_true,dropped']
      rw [all]

theorem dropHoldersQueue (st : InstanceLockState) (keep : LockInfo → Bool) :
    (st.dropHolders keep).2 ++ (st.dropHolders keep).1.waitQueue = st.waitQueue := by
  unfold dropHolders
  split
  · exact tryPromoteQueue (st.keepHolders keep)
  · rfl

namespace LockManager
variable {m : LockManager} {id i : InstanceId}

theorem queueAcquireInner (r auto now token) :
    ((m.acquireInner r auto now token).1.entry i).waitQueue = (m.entry i).waitQueue := by
  rw [entryAcquireInner]
  split
  · rename_i same
    rw [same]
    exact acquiredQueue (acquireInnerCases (m.entry r.instanceId) r auto now token)
  · rfl

theorem queueRenewWithToken (s token ttl now) :
    ((m.renewWithToken id s token ttl now).1.entry i).waitQueue = (m.entry i).waitQueue := by
  rw [entryRenewWithToken]
  split
  · rename_i same
    rw [same]
    exact renewedQueue (renewWithTokenCases (m.entry id) id s token (expiry now ttl))
  · rfl

theorem queueReleaseSection (s token) : (m.releaseSection id s token).2.notified ++
    ((m.releaseSection id s token).1.entry id).waitQueue = (m.entry id).waitQueue := by
  rw [entryReleaseSection,if_pos rfl]
  exact releaseQueue (m.entry id) id s token

theorem queueReapSection (ex : m.Excludes) (now) : (m.reapSection id now).2.1 ++
    ((m.reapSection id now).1.entry id).waitQueue = (m.entry id).waitQueue := by
  have drops := reapDrops (excludesEntry ex id) now
  rw [entryReapSection,if_pos rfl,notifiedReapSection]
  have split := dropHoldersQueue (m.entry id) (unexpired now)
  rw [← drops] at split
  exact split

end LockManager

structure Queued (σ : Sys) : Prop where
  owner : ∀ id, ∀ en ∈ (σ.manager.entry id).waitQueue, ∃ w : Waiter,
    (σ.tasks en.notify = .waiting w false ∨ σ.tasks en.notify = .leaving w) ∧
    w.request.instanceId = id ∧ w.request.sessionId = en.sessionId
  once : ∀ id, ((σ.manager.entry id).waitQueue.map WaitEntry.notify).Nodup

theorem queuedStart (mode : Bool) : Queued (Sys.start mode) := by
  constructor
  · intro id en mem; cases mem
  · intro id; exact List.nodup_nil

theorem tasksSelf (σ : Sys) (t : CallId) (m notified task) : (σ.advance t m notified task).tasks t = task := by
  simp [Sys.advance]

theorem tasksAside {σ : Sys} {t u : CallId} (m notified task) (other : u ≠ t)
    (unnotified : ∀ w ∈ notified, w.notify ≠ u) : (σ.advance t m notified task).tasks u = σ.tasks u := by
  have quiet : notified.any (fun w => w.notify == u) = false := by
    rw [List.any_eq_false]
    intro w mem
    simpa using unnotified w mem
  simp only [Sys.advance,if_neg other,quiet,Bool.false_eq_true,if_false]

theorem tasksNotified {σ : Sys} {t u : CallId} (m : LockManager) {notified : List WaitEntry} (task : Task)
    (other : u ≠ t) {en : WaitEntry} (mem : en ∈ notified) (own : en.notify = u) :
    (σ.advance t m notified task).tasks u = (σ.tasks u).notify := by
  have hit : notified.any (fun w => w.notify == u) = true :=
    List.any_eq_true.mpr ⟨en,mem,beq_iff_eq.mpr own⟩
  simp only [Sys.advance,if_neg other,hit,if_true]

theorem noEntry {σ : Sys} (queued : Queued σ) {t : CallId}
    (free : ∀ w, σ.tasks t ≠ .waiting w false ∧ σ.tasks t ≠ .leaving w) {id} {en : WaitEntry}
    (mem : en ∈ (σ.manager.entry id).waitQueue) : en.notify ≠ t := by
  rintro rfl
  obtain ⟨w,at_,_⟩ := queued.owner id en mem
  rcases at_ with waits | leaves
  · exact (free w).1 waits
  · exact (free w).2 leaves

theorem plainFree {task : Task} (plain : task.plain = true) (w : Waiter) :
    task ≠ .waiting w false ∧ task ≠ .leaving w := by
  constructor <;> (rintro rfl; contradiction)

theorem queuedAdvance {σ : Sys} {t m notified task} (queued : Queued σ)
    (fewer : ∀ id, (m.entry id).waitQueue.Sublist (σ.manager.entry id).waitQueue)
    (aside : ∀ id, ∀ en ∈ (m.entry id).waitQueue, en.notify ≠ t)
    (unnotified : ∀ id, ∀ en ∈ (m.entry id).waitQueue, ∀ w ∈ notified, w.notify ≠ en.notify) :
    Queued (σ.advance t m notified task) where
  owner id en mem := by
    obtain ⟨w,at_,same⟩ := queued.owner id en ((fewer id).subset mem)
    have kept := @tasksAside σ t en.notify m notified task (aside id en mem) (unnotified id en mem)
    exact ⟨w,by rw [kept]; exact at_,same⟩
  once id := (queued.once id).sublist ((fewer id).map _)

theorem queuedQuiet {σ : Sys} {t m task} (queued : Queued σ)
    (same : ∀ id, (m.entry id).waitQueue = (σ.manager.entry id).waitQueue)
    (free : ∀ w, σ.tasks t ≠ .waiting w false ∧ σ.tasks t ≠ .leaving w) :
    Queued (σ.advance t m [] task) := by
  refine queuedAdvance queued (fun id => by rw [same id]) ?_ (by simp)
  intro id en mem
  rw [same id] at mem
  exact noEntry queued free mem

theorem queuedPromote {σ : Sys} {t id m notified task} (queued : Queued σ)
    (split : notified ++ (m.entry id).waitQueue = (σ.manager.entry id).waitQueue)
    (elsewhere : ∀ i, i ≠ id → m.entry i = σ.manager.entry i)
    (free : ∀ w, σ.tasks t ≠ .waiting w false ∧ σ.tasks t ≠ .leaving w) :
    Queued (σ.advance t m notified task) := by
  have fewer : ∀ i, (m.entry i).waitQueue.Sublist (σ.manager.entry i).waitQueue := by
    intro i
    by_cases same : i = id
    · subst same; rw [← split]; exact List.sublist_append_right _ _
    · rw [elsewhere i same]
  refine queuedAdvance queued fewer ?_ ?_
  · intro i en mem
    exact noEntry queued free ((fewer i).subset mem)
  · intro i en mem w taken same
    have here : w ∈ (σ.manager.entry id).waitQueue := by rw [← split]; exact List.mem_append_left _ taken
    have once := queued.once id
    rw [← split,List.map_append,List.nodup_append] at once
    by_cases at_ : i = id
    · subst at_
      exact once.2.2 _ (List.mem_map_of_mem taken) _ (List.mem_map_of_mem mem) same
    · obtain ⟨v,hv,vid,_⟩ := queued.owner id w here
      obtain ⟨v',hv',vid',_⟩ := queued.owner i en ((fewer i).subset mem)
      rw [same] at hv
      have one : v = v' := by
        rcases hv with hv | hv <;> rcases hv' with hv' | hv' <;> rw [hv] at hv'
        · exact (Task.waiting.inj hv').1
        · contradiction
        · contradiction
        · exact Task.leaving.inj hv'
      exact at_ (by rw [← vid',← one,vid])

theorem fewerRemoveFromQueue (m : LockManager) (id : InstanceId) (s : SessionId) (i : InstanceId) :
    ((m.removeFromQueue id s).entry i).waitQueue.Sublist (m.entry i).waitQueue := by
  rw [LockManager.entryRemoveFromQueue]
  split
  · rename_i same; subst same; exact List.filter_sublist
  · exact List.Sublist.refl _

theorem queuedEnqueue {σ : Sys} {t r waitTimeout} (queued : Queued σ)
    (at_ : σ.tasks t = .enqueuing r waitTimeout) (now : Time) : Queued
      (σ.advance t (σ.manager.enqueue r now t) [] (.waiting ⟨r,waitTimeout,σ.clock⟩ false)) := by
  have free : ∀ w, σ.tasks t ≠ .waiting w false ∧ σ.tasks t ≠ .leaving w := by simp [at_]
  constructor
  · intro i en mem
    change en ∈ ((σ.manager.enqueue r now t).entry i).waitQueue at mem
    rw [LockManager.entryEnqueue] at mem
    split at mem
    · rename_i same
      rcases List.mem_append.mp mem with old | new
      · obtain ⟨w,own,wid,session⟩ := queued.owner _ en old
        refine ⟨w,?_,wid.trans same.symm,session⟩
        rw [tasksAside _ _ _ (noEntry queued free old) (by simp)]
        exact own
      · cases List.mem_singleton.mp new
        exact ⟨_,.inl (tasksSelf σ t _ _ _),same.symm,rfl⟩
    · obtain ⟨w,own,same⟩ := queued.owner _ en mem
      refine ⟨w,?_,same⟩
      rw [tasksAside _ _ _ (noEntry queued free mem) (by simp)]
      exact own
  · intro i
    change (((σ.manager.enqueue r now t).entry i).waitQueue.map WaitEntry.notify).Nodup
    rw [LockManager.entryEnqueue]
    split
    · simp only [InstanceLockState.enqueue,List.map_append,List.map_cons,List.map_nil]
      rw [List.nodup_append]
      refine ⟨queued.once _,by simp,?_⟩
      intro a old b new same
      obtain ⟨en,mem,rfl⟩ := List.mem_map.mp old
      exact noEntry queued free mem (same.trans (List.mem_singleton.mp new))
    · exact queued.once i

theorem queuedLeave {σ : Sys} {t w} (queued : Queued σ) (at_ : σ.tasks t = .leaving w) (task : Task) :
    Queued (σ.advance t (σ.manager.removeFromQueue w.request.instanceId w.request.sessionId) [] task) := by
  refine queuedAdvance queued (fewerRemoveFromQueue σ.manager _ _) ?_ (by simp)
  rintro i en mem rfl
  obtain ⟨v,own,vid,session⟩ := queued.owner i en ((fewerRemoveFromQueue σ.manager _ _ i).subset mem)
  rw [at_] at own
  rcases own with waits | leaves
  · contradiction
  · cases Task.leaving.inj leaves
    rw [LockManager.entryRemoveFromQueue,if_pos vid.symm] at mem
    have other := (List.mem_filter.mp mem).2
    rw [session] at other
    simp at other

theorem queuedGiveUp {σ : Sys} {t w} (queued : Queued σ) (at_ : σ.tasks t = .waiting w false) :
    Queued (σ.quiet t (.leaving w)) := by
  refine ⟨?_,queued.once⟩
  intro i en mem
  obtain ⟨v,own,same⟩ := queued.owner i en mem
  refine ⟨v,?_,same⟩
  by_cases self : en.notify = t
  · subst self
    rw [at_] at own
    rcases own with waits | leaves
    · rw [← (Task.waiting.inj waits).1]
      exact .inr (tasksSelf σ _ _ _ _)
    · contradiction
  · rw [Sys.quiet,tasksAside _ _ _ self (by simp)]
    exact own

theorem queuedMoves {σ σ' : Sys} {a out} (ex : σ.manager.Excludes) (queued : Queued σ)
    (move : Moves σ a σ' out) : Queued σ' := by
  cases move with
  | tick passed => exact ⟨queued.owner,queued.once⟩
  | acquire now token sec before after said =>
    exact queuedQuiet queued (fun _ => LockManager.queueAcquireInner _ _ _ _) (plainFree before)
  | retry x at_ =>
    exact queuedQuiet queued (fun _ => LockManager.queueAcquireInner _ _ _ _) (by simp [at_])
  | release sec before after =>
    refine queuedPromote queued (LockManager.queueReleaseSection _ _) ?_ (plainFree before)
    intro i other
    rw [LockManager.entryReleaseSection,if_neg other]
  | @remove t id next x at_ =>
    refine queuedAdvance queued ?_ ?_ (by simp)
    · intro i
      rw [LockManager.entryRemoveEntry]
      split
      · exact List.nil_sublist _
      · exact List.Sublist.refl _
    · intro i en mem
      rw [LockManager.entryRemoveEntry] at mem
      split at mem
      · contradiction
      · exact noEntry queued (by simp [at_]) mem
  | renew now sec before =>
    exact queuedQuiet queued (fun _ => LockManager.queueRenewWithToken _ _ _ _) (plainFree before)
  | reap x at_ after =>
    refine queuedPromote queued (LockManager.queueReapSection ex _) ?_ (by simp [at_])
    intro i other
    rw [LockManager.entryReapSection,if_neg other]
  | enqueue x at_ => exact queuedEnqueue queued at_ x.now
  | leave x at_ => exact queuedLeave queued at_ _
  | purge x at_ =>
    refine queuedAdvance queued (fewerRemoveFromQueue σ.manager _ _) ?_ (by simp)
    intro i en mem
    exact noEntry queued (by simp [at_]) ((fewerRemoveFromQueue σ.manager _ _ i).subset mem)
  | wake x at_ => exact queuedQuiet queued (fun _ => rfl) (by simp [at_])
  | giveUp x at_ why => exact queuedGiveUp queued at_
  | register x before => exact queuedQuiet queued (fun _ => rfl) (plainFree before)
  | forget x before => exact queuedQuiet queued (fun _ => rfl) (plainFree before)
  | other sec before after said => exact queuedQuiet queued (fun _ => rfl) (plainFree before)

end Vscreen.Lock
