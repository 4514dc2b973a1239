import Vscreen.LockSections

/-! Mutual exclusion on every instance, for every sequence of method calls. The
invariant is kept by each critical section, hence by the methods built of them. -/
namespace Vscreen.Lock
open InstanceLockState

structure Exclusion (st : InstanceLockState) : Prop where
  alone : ∀ e, st.exclusive = some e → st.observers = []
  distinct : (st.observers.map LockInfo.sessionId).Nodup
  exclusiveType : ∀ e, st.exclusive = some e → e.lockType = .exclusive
  observerType : ∀ o ∈ st.observers, o.lockType = .observer

theorem exclusionNew : Exclusion .new :=
  ⟨by simp [InstanceLockState.new],List.nodup_nil,by simp [InstanceLockState.new],by simp [InstanceLockState.new]⟩

theorem exclusionSameHolders {st st' : InstanceLockState} (ex : Exclusion st)
    (exclusive : st'.exclusive = st.exclusive) (observers : st'.observers = st.observers) : Exclusion st' := by
  obtain ⟨alone,distinct,exclusiveType,observerType⟩ := ex
  exact ⟨by rw [exclusive,observers]; exact alone,by rw [observers]; exact distinct,
    by rw [exclusive]; exact exclusiveType,by rw [observers]; exact observerType⟩

theorem exclusionKeep {st st' : InstanceLockState} {keep : LockInfo → Bool} (ex : Exclusion st)
    (exclusive : st'.exclusive = st.exclusive.filter keep)
    (observers : st'.observers = st.observers.filter keep) : Exclusion st' where
  alone := by
    intro e he
    rw [exclusive] at he
    rw [observers,ex.alone e (Option.filter_eq_some_iff.mp he).1,List.filter_nil]
  distinct := by rw [observers]; exact ex.distinct.sublist (List.filter_sublist.map _)
  exclusiveType := by
    intro e he
    rw [exclusive] at he
    exact ex.exclusiveType e (Option.filter_eq_some_iff.mp he).1
  observerType := by
    intro o mem
    rw [observers] at mem
    exact ex.observerType o (List.mem_filter.mp mem).1

theorem exclusionRewrite {st : InstanceLockState} {p : LockInfo → Bool} {f : LockInfo → LockInfo}
    (ex : Exclusion st) (session : ∀ o, (f o).sessionId = o.sessionId)
    (type : ∀ o, (f o).lockType = o.lockType) :
    Exclusion {st with observers := modifyFirst p f st.observers} where
  alone := by
    intro e he
    simp only [ex.alone e he,modifyFirst]
  distinct := by simp only [modifyFirstMap session]; exact ex.distinct
  exclusiveType := ex.exclusiveType
  observerType := by
    intro o mem
    rcases memModifyFirst mem with old | ⟨x,old,_,rfl⟩
    · exact ex.observerType o old
    · rw [type]; exact ex.observerType x old

theorem exclusionRewriteExclusive {st : InstanceLockState} {exc new : LockInfo} (ex : Exclusion st)
    (holder : st.exclusive = some exc) (type : new.lockType = exc.lockType) :
    Exclusion {st with exclusive := some new} where
  alone := by intro e _; exact ex.alone exc holder
  distinct := ex.distinct
  exclusiveType := by
    intro e he
    cases Option.some.inj he
    rw [type]; exact ex.exclusiveType exc holder
  observerType := ex.observerType

theorem exclusionAcquired {st st' : InstanceLockState} {r auto now token reply} (ex : Exclusion st)
    (done : Acquired st r auto now token st' reply) : Exclusion st' := by
  cases done with
  | renewExclusive holder own => exact exclusionRewriteExclusive ex holder rfl
  | renewObserver notHolder type found => exact exclusionRewrite ex (fun _ => rfl) (fun _ => rfl)
  | grantExclusive free type alone =>
    exact ⟨fun _ _ => rfl,List.nodup_nil,by intro e he; cases Option.some.inj he; exact type,by simp⟩
  | grantObserver free type fresh =>
    refine ⟨by intro e he; simp [free] at he,?_,by intro e he; simp [free] at he,?_⟩
    · rw [List.map_append,List.nodup_append]
      refine ⟨ex.distinct,by simp,?_⟩
      intro a ha b hb same
      obtain ⟨o,mem,rfl⟩ := List.mem_map.mp ha
      simp only [List.map_cons,List.map_nil,List.mem_singleton] at hb
      exact fresh o mem (same.trans hb)
    · intro o mem
      rcases List.mem_append.mp mem with old | new
      · exact ex.observerType o old
      · rw [List.mem_singleton.mp new]; exact type
  | lockedExclusive holder other => exact ex
  | lockedObservers free type observers shared => exact ex

theorem exclusionRenewed {st st' : InstanceLockState} {id s token expires reply} (ex : Exclusion st)
    (done : Renewed st id s token expires st' reply) : Exclusion st' := by
  cases done with
  | exclusive holder own => exact exclusionRewriteExclusive ex holder rfl
  | observer found => exact exclusionRewrite ex (fun _ => rfl) (fun _ => rfl)
  | notHeld => exact ex

namespace LockManager

def Excludes (m : LockManager) : Prop := Table.All (fun _ => Exclusion) m.locks

theorem excludesEntry {m : LockManager} (ex : m.Excludes) (id : InstanceId) : Exclusion (m.entry id) := by
  unfold entry
  cases found : Table.get m.locks id with
  | none => exact exclusionNew
  | some st => exact ex id st found

theorem excludesAcquireInner {m : LockManager} (ex : m.Excludes) (r auto now token) :
    (m.acquireInner r auto now token).1.Excludes :=
  Table.allPut ex (exclusionAcquired (excludesEntry ex _) (acquireInnerCases _ r auto now token))

theorem excludesEnqueue {m : LockManager} (ex : m.Excludes) (r now notify) :
    (m.enqueue r now notify).Excludes :=
  Table.allPut ex (exclusionSameHolders (excludesEntry ex _) rfl rfl)

theorem excludesReleaseSection {m : LockManager} (ex : m.Excludes) (id s token) :
    (m.releaseSection id s token).1.Excludes :=
  have kept := releaseHolders (m.entry id) id s token
  Table.allPut ex (exclusionKeep (excludesEntry ex id) kept.1 kept.2)

theorem excludesRemoveEntry {m : LockManager} (ex : m.Excludes) (id) : (m.removeEntry id).Excludes :=
  Table.allDel ex

theorem excludesRenewWithToken {m : LockManager} (ex : m.Excludes) (id s token ttl now) :
    (m.renewWithToken id s token ttl now).1.Excludes := by
  unfold renewWithToken
  split
  · exact ex
  · rename_i st found
    exact Table.allPut ex (exclusionRenewed (ex id st found) (renewWithTokenCases st id s token _))

theorem excludesReapSection {m : LockManager} (ex : m.Excludes) (id now) :
    (m.reapSection id now).1.Excludes := by
  unfold reapSection
  split
  · exact ex
  · rename_i st found
    have kept := reapHolders st now
    exact Table.allPut ex (exclusionKeep (ex id st found) kept.1 kept.2)

theorem excludesRemoveFromQueue {m : LockManager} (ex : m.Excludes) (id s) :
    (m.removeFromQueue id s).Excludes := by
  unfold removeFromQueue
  split
  · exact ex
  · rename_i st found
    exact Table.allPut ex (exclusionSameHolders (ex id st found) rfl rfl)

theorem excludesReleaseWithToken {m : LockManager} (ex : m.Excludes) (id s token) :
    (m.releaseWithToken id s token).1.Excludes := by
  have guarded := excludesReleaseSection ex id s token
  unfold releaseWithToken
  dsimp only
  split
  · exact excludesRemoveEntry guarded id
  · exact guarded

theorem excludesReapOne {m : LockManager} (ex : m.Excludes) (id now) : (reapOne now m id).Excludes := by
  have guarded := excludesReapSection ex id now
  unfold reapOne
  dsimp only
  split
  · exact excludesRemoveEntry guarded id
  · exact guarded

theorem excludesReleaseAllForSession {m : LockManager} (ex : m.Excludes) (s) :
    (m.releaseAllForSession s).Excludes := by
  have released : (m.locks.keys.foldl (fun m id => (m.release id s).1) m).Excludes :=
    List.foldlRecOn _ _ ex (fun _ keep id _ => excludesReleaseWithToken keep id s none)
  exact List.foldlRecOn _ _ released (fun _ keep id _ => excludesRemoveFromQueue keep id s)

theorem excludesAcquireOrEnqueue {m : LockManager} (ex : m.Excludes) (r now token notify) :
    (m.acquireOrEnqueue r now token notify).1.Excludes := by
  have tried := excludesAcquireInner ex r false now token
  unfold acquireOrEnqueue acquire
  split
  · rename_i m' s a e attempt
    rw [attempt] at tried
    exact excludesEnqueue tried r now notify
  · rename_i m' reply _ attempt
    rw [attempt] at tried
    exact tried

inductive Op where
  | registerSession (s : SessionId)
  | unregisterSession (s : SessionId)
  | acquire (r : LockRequest) (now : Time) (token : LockToken)
  | acquireAuto (id : InstanceId) (s : SessionId) (lockType : LockType) (ttl : Duration) (now : Time)
      (token : LockToken)
  | acquireOrEnqueue (r : LockRequest) (now : Time) (token : LockToken) (notify : CallId)
  | removeFromQueue (id : InstanceId) (s : SessionId)
  | release (id : InstanceId) (s : SessionId)
  | releaseWithToken (id : InstanceId) (s : SessionId) (token : Option LockToken)
  | renew (id : InstanceId) (s : SessionId) (ttl : Duration) (now : Time)
  | renewWithToken (id : InstanceId) (s : SessionId) (token : Option LockToken) (ttl : Duration) (now : Time)
  | reapExpired (now : Time)
  | releaseAllForSession (s : SessionId)

def apply (m : LockManager) : Op → LockManager
  | .registerSession s => m.registerSession s
  | .unregisterSession s => m.unregisterSession s
  | .acquire r now token => (m.acquire r now token).1
  | .acquireAuto id s lockType ttl now token => (m.acquireAuto id s lockType ttl now token).1
  | .acquireOrEnqueue r now token notify => (m.acquireOrEnqueue r now token notify).1
  | .removeFromQueue id s => m.removeFromQueue id s
  | .release id s => (m.release id s).1
  | .releaseWithToken id s token => (m.releaseWithToken id s token).1
  | .renew id s ttl now => (m.renew id s ttl now).1
  | .renewWithToken id s token ttl now => (m.renewWithToken id s token ttl now).1
  | .reapExpired now => m.reapExpired now
  | .releaseAllForSession s => m.releaseAllForSession s

def runOps (ops : List Op) : LockManager := ops.foldl apply new

theorem applyExcludes {m : LockManager} (ex : m.Excludes) (op : Op) : (m.apply op).Excludes := by
  cases op with
  | registerSession s => exact ex
  | unregisterSession s => exact excludesReleaseAllForSession (m := m.forgetSession s) ex s
  | acquire r now token => exact excludesAcquireInner ex r false now token
  | acquireAuto id s lockType ttl now token => exact excludesAcquireInner ex _ true now token
  | acquireOrEnqueue r now token notify => exact excludesAcquireOrEnqueue ex r now token notify
  | removeFromQueue id s => exact excludesRemoveFromQueue ex id s
  | release id s => exact excludesReleaseWithToken ex id s none
  | releaseWithToken id s token => exact excludesReleaseWithToken ex id s token
  | renew id s ttl now => exact excludesRenewWithToken ex id s none ttl now
  | renewWithToken id s token ttl now => exact excludesRenewWithToken ex id s token ttl now
  | reapExpired now => exact List.foldlRecOn _ _ ex (fun _ keep id _ => excludesReapOne keep id now)
  | releaseAllForSession s => exact excludesReleaseAllForSession ex s

theorem runOpsExcludes (ops : List Op) : (runOps ops).Excludes :=
  List.foldlRecOn ops apply Table.allEmpty (fun _ ex op _ => applyExcludes ex op)

theorem mutualExclusion (ops : List Op) : Table.All (fun _ => Exclusion) (runOps ops).locks :=
  runOpsExcludes ops

end LockManager
end Vscreen.Lock
