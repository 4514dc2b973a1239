import Vscreen.LockDecision

/-! `require_lock` of the tool layer (mcp/mod.rs), run without interleaving, and
what it may take from other sessions. The clock and the fresh token of its two
`auto_acquire` calls are given as two readings. -/
namespace Vscreen.Lock
open InstanceLockState

namespace LockManager

def autoAcquire (m : LockManager) (q : Requirement) (x : Reading) : LockManager × Except LockError LockInfo :=
  m.acquireAuto q.instanceId q.sessionId q.required (120 * 10^9) x.now x.token

def reclaimExclusive (m : LockManager) (id : InstanceId) (status : LockStatus) : LockManager :=
  match status.exclusiveHolder with
  | some exc => if exc.autoAcquired then (m.release id exc.sessionId).1 else m
  | none => m

def reclaimObserver (id : InstanceId) (m : LockManager) (obs : LockInfo) : LockManager :=
  if obs.autoAcquired || !m.isSessionActive obs.sessionId then (m.release id obs.sessionId).1 else m

def reclaim (m : LockManager) (id : InstanceId) : LockManager :=
  let status := m.status id
  status.observers.foldl (reclaimObserver id) (m.reclaimExclusive id status)

def recheck (m : LockManager) (q : Requirement) : LockManager × Except LockError Unit :=
  (m,m.checkAccess q.instanceId q.sessionId q.required)

def requireAgain (m : LockManager) (q : Requirement) (x : Reading) : LockManager × Except LockError Unit :=
  if m.isAutoAcquired q.instanceId then
    match (m.reclaim q.instanceId).autoAcquire q x with
    | (m',.ok _) => (m',.ok ())
    | (m',.error _) => m'.recheck q
  else m.recheck q

def requireLock (m : LockManager) (singleAgentMode : Bool) (q : Requirement) (x y : Reading) :
    LockManager × Except LockError Unit :=
  if singleAgentMode then (m,.ok ())
  else match m.checkAccess q.instanceId q.sessionId q.required with
    | .ok () => (m,.ok ())
    | .error (.notHeld _) => match m.autoAcquire q x with
        | (m',.ok _) => (m',.ok ())
        -- observers of other sessions are in the way
        | (m',.error _) => m'.requireAgain q y
    | .error _ => m.requireAgain q y

end LockManager

def InstanceLockState.HolderOrObservers (st : InstanceLockState) : Prop :=
  st.exclusive = none ∨ st.observers = []

theorem exclusionHolderOrObservers {st : InstanceLockState} (ex : Exclusion st) : st.HolderOrObservers := by
  cases holder : st.exclusive with
  | none => exact .inl holder
  | some e => exact .inr (ex.alone e holder)

inductive Unblocked (st : InstanceLockState) (q : Requirement) : Prop where
  | holder {e} (held : st.exclusive = some e) (own : e.sessionId = q.sessionId)
  | observer (free : st.exclusive = none) (type : q.required = .observer)
  | unobserved (free : st.exclusive = none) (none : st.observers = [])
  | upgrade {o} (free : st.exclusive = none) (only : st.observers = [o]) (own : o.sessionId = q.sessionId)

section
variable {st : InstanceLockState} {id : InstanceId}

theorem deniedCases {s : SessionId} {required : LockType} {error : LockError}
    (denied : st.checkAccessWithToken id s none required = .error error) :
    st.exclusive = none ∧ error = .notHeld id ∨
    ∃ e, st.exclusive = some e ∧ e.sessionId ≠ s ∧ error = lockedBy e := by
  cases held : st.exclusive with
  | some e =>
    simp only [InstanceLockState.checkAccessWithToken,held] at denied
    split at denied
    · cases denied
    · rename_i other
      exact .inr ⟨e,rfl,by simpa [matchesHolder] using other,(Except.error.inj denied).symm⟩
  | none =>
    left
    simp only [InstanceLockState.checkAccessWithToken,held] at denied
    cases required with
    | exclusive => exact ⟨rfl,(Except.error.inj denied).symm⟩
    | observer =>
      simp only at denied
      split at denied
      · cases denied
      · exact ⟨rfl,(Except.error.inj denied).symm⟩

theorem notHeldFree {s : SessionId} {required : LockType} {id' : InstanceId}
    (denied : st.checkAccessWithToken id s none required = .error (.notHeld id')) : st.exclusive = none := by
  rcases deniedCases denied with ⟨free,_⟩ | ⟨e,_,_,locked⟩
  · exact free
  · cases locked

theorem accessUnblocked {q : Requirement}
    (access : st.checkAccessWithToken id q.sessionId none q.required = .ok ()) : Unblocked st q := by
  cases held : st.exclusive with
  | some e =>
    simp only [InstanceLockState.checkAccessWithToken,held] at access
    split at access
    · rename_i own
      exact .holder held (by simpa [matchesHolder] using own)
    · cases access
  | none =>
    simp only [InstanceLockState.checkAccessWithToken,held] at access
    cases type : q.required with
    | exclusive =>
      rw [type] at access
      cases access
    | observer => exact .observer held type

theorem autoRecorded (alone : st.HolderOrObservers) (auto : st.isAutoAcquired = true) {info : LockInfo}
    (recorded : Recorded st info) : info.autoAcquired = true := by
  cases holder : st.exclusive with
  | some e =>
    have unobserved : st.observers = [] := by
      rcases alone with free | unobserved
      · rw [holder] at free
        cases free
      · exact unobserved
    simp only [InstanceLockState.isAutoAcquired,holder] at auto
    rcases recorded with held | mem
    · rw [holder] at held
      rw [← Option.some.inj held,auto]
    · rw [unobserved] at mem
      cases mem
  | none =>
    simp only [InstanceLockState.isAutoAcquired,holder,Bool.and_eq_true,List.all_eq_true] at auto
    rcases recorded with held | mem
    · rw [holder] at held
      cases held
    · exact auto.1 info mem

end

namespace LockManager
variable {m : LockManager} {q : Requirement} {x y : Reading} {id : InstanceId}

theorem isAutoAcquiredEntry (m : LockManager) (id : InstanceId) :
    m.isAutoAcquired id = (m.entry id).isAutoAcquired := by
  unfold isAutoAcquired
  cases found : Table.get m.locks id with
  | none => rw [entryAbsent found]; rfl
  | some st => rw [entryPresent found]; rfl

theorem statusEntry (m : LockManager) (id : InstanceId) : m.status id = (m.entry id).toStatus id := by
  unfold status
  cases found : Table.get m.locks id with
  | none => rw [entryAbsent found]; rfl
  | some st => rw [entryPresent found]

theorem getAutoAcquire (other : id ≠ q.instanceId) :
    Table.get (m.autoAcquire q x).1.locks id = Table.get m.locks id := by
  simp [autoAcquire,acquireAuto,acquireInner,write,other]

theorem autoAcquired (m : LockManager) (q : Requirement) (x : Reading) :
    Acquired (m.entry q.instanceId) q.request true x.now x.token
      ((m.autoAcquire q x).1.entry q.instanceId) (m.autoAcquire q x).2 := by
  have done := acquireInnerCases (m.entry q.instanceId) q.request true x.now x.token
  rw [autoAcquire,acquireAuto,entryAcquireInner,if_pos rfl]
  exact done

theorem getReclaimObserver (other : id ≠ q.instanceId) (obs : LockInfo) (m : LockManager) :
    Table.get (reclaimObserver q.instanceId m obs).locks id = Table.get m.locks id := by
  unfold reclaimObserver
  split
  · exact getReleaseWithToken _ _ _ _ _ other
  · rfl

theorem getReclaim (other : id ≠ q.instanceId) :
    Table.get (m.reclaim q.instanceId).locks id = Table.get m.locks id := by
  have first : Table.get (m.reclaimExclusive q.instanceId (m.status q.instanceId)).locks id =
      Table.get m.locks id := by
    unfold reclaimExclusive
    split
    · split
      · exact getReleaseWithToken _ _ _ _ _ other
      · rfl
    · rfl
  unfold reclaim
  dsimp only
  generalize m.reclaimExclusive q.instanceId (m.status q.instanceId) = m' at first
  rw [← first]
  generalize (m.status q.instanceId).observers = observers
  induction observers generalizing m' with
  | nil => rfl
  | cons obs rest ih =>
    rw [List.foldl_cons,ih _ ((getReclaimObserver other obs m').trans first)]
    exact getReclaimObserver other obs m'

theorem reclaimedObservers (observers : List LockInfo) (auto : ∀ o ∈ observers, o.autoAcquired = true)
    (m : LockManager) (free : (m.entry id).exclusive = none) :
    ((observers.foldl (reclaimObserver id) m).entry id).exclusive = none ∧
    ∀ o ∈ ((observers.foldl (reclaimObserver id) m).entry id).observers,
      o ∈ (m.entry id).observers ∧ ∀ p ∈ observers, o.sessionId ≠ p.sessionId := by
  induction observers generalizing m with
  | nil => exact ⟨free,fun o mem => ⟨mem,fun p absent => by cases absent⟩⟩
  | cons obs rest ih =>
    have released : reclaimObserver id m obs = (m.release id obs.sessionId).1 := by
      rw [reclaimObserver,auto obs List.mem_cons_self,Bool.true_or,if_pos rfl]
    have left := releaseHolders (m.entry id) id obs.sessionId none
    have at_ : (m.release id obs.sessionId).1.entry id = ((m.entry id).release id obs.sessionId none).state := by
      rw [release,entryReleaseWithToken,if_pos rfl]
    have stillFree : ((m.release id obs.sessionId).1.entry id).exclusive = none := by
      rw [at_,left.1,free]
      rfl
    obtain ⟨freed,gone⟩ := ih (fun o mem => auto o (List.mem_cons_of_mem _ mem)) _ stillFree
    rw [List.foldl_cons,released]
    refine ⟨freed,?_⟩
    intro o mem
    obtain ⟨kept,others⟩ := gone o mem
    rw [at_,left.2] at kept
    obtain ⟨old,unmatched⟩ := List.mem_filter.mp kept
    refine ⟨old,?_⟩
    intro p listed
    rcases List.mem_cons.mp listed with rfl | later
    · simpa [matchesHolder] using unmatched
    · exact others p later

theorem reclaimedAll (alone : (m.entry id).HolderOrObservers) (auto : m.isAutoAcquired id = true) :
    ((m.reclaim id).entry id).exclusive = none ∧ ((m.reclaim id).entry id).observers = [] := by
  rw [isAutoAcquiredEntry] at auto
  have every : ∀ o ∈ (m.entry id).observers, o.autoAcquired = true :=
    fun o mem => autoRecorded alone auto (.inr mem)
  unfold reclaim
  rw [statusEntry]
  dsimp only [toStatus]
  cases holder : (m.entry id).exclusive with
  | some e =>
    have taken := autoRecorded alone auto (.inl holder)
    have unobserved : (m.entry id).observers = [] := by
      rcases alone with free | unobserved
      · rw [holder] at free
        cases free
      · exact unobserved
    have left := releaseHolders (m.entry id) id e.sessionId none
    rw [unobserved,List.foldl_nil,reclaimExclusive]
    simp only [taken,if_true]
    rw [release,entryReleaseWithToken,if_pos rfl,left.1,left.2,holder,unobserved]
    simp [Option.filter,matchesHolder]
  | none =>
    obtain ⟨freed,gone⟩ := reclaimedObservers (m.entry id).observers every m holder
    rw [reclaimExclusive]
    refine ⟨freed,List.eq_nil_iff_forall_not_mem.mpr ?_⟩
    intro o mem
    obtain ⟨old,others⟩ := gone o mem
    exact others o old rfl

structure Grants (m m' : LockManager) (q : Requirement) (reply : Except LockError Unit) : Prop where
  access : reply = .ok () → m'.checkAccess q.instanceId q.sessionId q.required = .ok ()
  reclaims : ∀ info, info.sessionId ≠ q.sessionId → Recorded (m.entry q.instanceId) info →
    ¬ Recorded (m'.entry q.instanceId) info →
    info.autoAcquired = true ∨ m.isSessionActive info.sessionId = false
  elsewhere : ∀ id, id ≠ q.instanceId → Table.get m'.locks id = Table.get m.locks id

theorem grantsRecheck (m : LockManager) (q : Requirement) : Grants m (m.recheck q).1 q (m.recheck q).2 where
  access := id
  reclaims := by
    intro info other recorded gone
    exact absurd recorded gone
  elsewhere := fun id other => rfl

theorem grantsAutoAcquire (free : (m.entry q.instanceId).exclusive = none) {info : LockInfo}
    (ok : (m.autoAcquire q x).2 = .ok info) : Grants m (m.autoAcquire q x).1 q (.ok ()) where
  access := by
    intro _
    have done := autoAcquired m q x
    rw [ok] at done
    rw [checkAccessEntry]
    exact freeAccess q.instanceId free done
  reclaims := by
    intro info other recorded gone
    exact absurd (recordedAside (autoAcquired m q x) other recorded) gone
  elsewhere := fun id other => getAutoAcquire other

theorem autoAcquireRefused {m' : LockManager} {error : LockError} (refused : m.autoAcquire q x = (m',.error error)) :
    m'.entry q.instanceId = m.entry q.instanceId ∧ m'.activeSessions = m.activeSessions ∧
    ∀ id, id ≠ q.instanceId → Table.get m'.locks id = Table.get m.locks id := by
  have left : (m.autoAcquire q x).1 = m' := congrArg Prod.fst refused
  have told : (m.autoAcquire q x).2 = .error error := congrArg Prod.snd refused
  have done := autoAcquired m q x
  rw [told,left] at done
  refine ⟨acquiredRefused done,by rw [← left]; rfl,?_⟩
  intro i other
  rw [← left]
  exact getAutoAcquire other

theorem grantsRequireAgain (alone : (m.entry q.instanceId).HolderOrObservers) :
    Grants m (m.requireAgain q x).1 q (m.requireAgain q x).2 := by
  unfold requireAgain
  split
  · rename_i auto
    have free := (reclaimedAll alone auto).1
    rw [isAutoAcquiredEntry] at auto
    have taken : ∀ m' : LockManager, ∀ info, info.sessionId ≠ q.sessionId →
        Recorded (m.entry q.instanceId) info → ¬ Recorded (m'.entry q.instanceId) info →
        info.autoAcquired = true ∨ m.isSessionActive info.sessionId = false :=
      fun m' info other recorded gone => .inl (autoRecorded alone auto recorded)
    split
    · rename_i m' info granted
      have told : ((m.reclaim q.instanceId).autoAcquire q x).2 = .ok info := congrArg Prod.snd granted
      have left : ((m.reclaim q.instanceId).autoAcquire q x).1 = m' := congrArg Prod.fst granted
      have grants := grantsAutoAcquire free told
      rw [left] at grants
      exact ⟨grants.access,taken m',fun id other => (grants.elsewhere id other).trans (getReclaim other)⟩
    · rename_i m' error refused
      have elsewhere := (autoAcquireRefused refused).2.2
      exact ⟨id,taken m',fun id other => (elsewhere id other).trans (getReclaim other)⟩
  · exact grantsRecheck m q

theorem requireLockGrants (m : LockManager) (q : Requirement) (x y : Reading)
    (alone : (m.entry q.instanceId).HolderOrObservers) :
    Grants m (m.requireLock false q x y).1 q (m.requireLock false q x y).2 := by
  unfold requireLock
  rw [if_neg (by decide)]
  split
  · rename_i access
    refine ⟨fun _ => access,?_,fun _ _ => rfl⟩
    intro info other recorded gone
    exact absurd recorded gone
  · rename_i denied
    rw [checkAccessEntry] at denied
    have free := notHeldFree denied
    split
    · rename_i m' info granted
      have told : (m.autoAcquire q x).2 = .ok info := congrArg Prod.snd granted
      have left : (m.autoAcquire q x).1 = m' := congrArg Prod.fst granted
      have grants := grantsAutoAcquire free told
      rw [left] at grants
      exact grants
    · rename_i m' error refused
      obtain ⟨same,sessions,elsewhere⟩ := autoAcquireRefused refused
      have again := @grantsRequireAgain m' q y (by rw [same]; exact alone)
      refine ⟨again.access,?_,fun id other => (again.elsewhere id other).trans (elsewhere id other)⟩
      intro info other recorded gone
      have lost := again.reclaims info other (by rw [same]; exact recorded) gone
      rw [isSessionActive,sessions] at lost
      exact lost
  · exact grantsRequireAgain alone

/-- Every lock of another session in the way is auto-acquired or its session is not active. -/
def Reclaimable (m : LockManager) (q : Requirement) : Prop :=
  ∀ info, (m.entry q.instanceId).BlockedBy q.request info →
    info.autoAcquired = true ∨ m.isSessionActive info.sessionId = false

theorem freeUnblocked (free : (m.entry q.instanceId).exclusive = none) :
    (∃ info, (m.autoAcquire q x).2 = .ok info) ↔ Unblocked (m.entry q.instanceId) q := by
  have done := autoAcquired m q x
  constructor
  · intro ⟨info,ok⟩
    rw [ok] at done
    generalize (m.autoAcquire q x).1.entry q.instanceId = st' at done
    cases done with
    | renewExclusive held own => exact .holder held own
    | renewObserver notHolder type found => exact .observer free type
    | grantExclusive _ type alone =>
      rcases alone with none | ⟨o,only,own⟩
      · exact .unobserved free none
      · exact .upgrade free only own
    | grantObserver _ type fresh => exact .observer free type
  · intro unblocked
    cases reply : (m.autoAcquire q x).2 with
    | ok info => exact ⟨info,rfl⟩
    | error error =>
      rw [reply] at done
      generalize (m.autoAcquire q x).1.entry q.instanceId = st' at done
      cases done with
      | lockedExclusive held other =>
        rw [free] at held
        cases held
      | @lockedObservers o rest _ type observers shared =>
        cases unblocked with
        | holder held own =>
          rw [free] at held
          cases held
        | observer _ observer =>
          have exclusive : q.required = .exclusive := type
          rw [observer] at exclusive
          cases exclusive
        | unobserved _ none =>
          rw [none] at observers
          cases observers
        | upgrade _ only own =>
          obtain ⟨rfl,rfl⟩ := List.cons.inj (only.symm.trans observers)
          rcases shared with more | other
          · exact absurd rfl more
          · exact absurd own other

theorem requireAgainOk (alone : (m.entry q.instanceId).HolderOrObservers)
    (denied : m.checkAccess q.instanceId q.sessionId q.required ≠ .ok ()) :
    (m.requireAgain q x).2 = .ok () ↔ m.isAutoAcquired q.instanceId = true := by
  unfold requireAgain
  split
  · rename_i auto
    obtain ⟨free,none⟩ := reclaimedAll alone auto
    obtain ⟨info,granted⟩ := (freeUnblocked (x := x) free).mpr (.unobserved free none)
    split
    · exact ⟨fun _ => auto,fun _ => rfl⟩
    · rename_i m' error refused
      rw [refused] at granted
      cases granted
  · rename_i explicit
    exact ⟨fun ok => absurd ok denied,fun auto => absurd auto explicit⟩

theorem requireLockOk (m : LockManager) (q : Requirement) (x y : Reading)
    (alone : (m.entry q.instanceId).HolderOrObservers) :
    (m.requireLock false q x y).2 = .ok () ↔
      Unblocked (m.entry q.instanceId) q ∨ m.isAutoAcquired q.instanceId = true := by
  unfold requireLock
  rw [if_neg (by decide)]
  split
  · rename_i access
    rw [checkAccessEntry] at access
    exact ⟨fun _ => .inl (accessUnblocked access),fun _ => rfl⟩
  · rename_i denied
    have refusal : m.checkAccess q.instanceId q.sessionId q.required ≠ .ok () := by simp [denied]
    rw [checkAccessEntry] at denied
    have free := notHeldFree denied
    split
    · rename_i m' info granted
      have told : (m.autoAcquire q x).2 = .ok info := congrArg Prod.snd granted
      exact ⟨fun _ => .inl ((freeUnblocked free).mp ⟨info,told⟩),fun _ => rfl⟩
    · rename_i m' error refused
      obtain ⟨same,_,_⟩ := autoAcquireRefused refused
      have blocked : ¬ Unblocked (m.entry q.instanceId) q := by
        intro unblocked
        obtain ⟨info,granted⟩ := (freeUnblocked (x := x) free).mpr unblocked
        rw [refused] at granted
        cases granted
      have auto : m'.isAutoAcquired q.instanceId = m.isAutoAcquired q.instanceId := by
        rw [isAutoAcquiredEntry,isAutoAcquiredEntry,same]
      rw [requireAgainOk (by rw [same]; exact alone) (by rw [checkAccessEntry,same,denied]; simp),auto]
      exact ⟨.inr,fun either => either.resolve_left blocked⟩
  · rename_i error locked denied
    have refusal : m.checkAccess q.instanceId q.sessionId q.required ≠ .ok () := by simp [denied]
    rw [requireAgainOk alone refusal]
    refine ⟨.inr,fun either => either.resolve_left ?_⟩
    rw [checkAccessEntry] at denied
    rcases deniedCases denied with ⟨_,notHeld⟩ | ⟨e,held,other,_⟩
    · exact absurd notHeld (locked _)
    · intro unblocked
      cases unblocked with
      | holder held' own =>
        cases Option.some.inj (held.symm.trans held')
        exact other own
      | observer free type => rw [held] at free; cases free
      | unobserved free none => rw [held] at free; cases free
      | upgrade free only own => rw [held] at free; cases free

/-- The promise of a reclaim: a call that only dead or auto-acquired locks block is granted. -/
def ReclaimsBlockers (m : LockManager) (q : Requirement) (x y : Reading) : Prop :=
  m.Reclaimable q → (m.requireLock false q x y).2 = .ok () ∧
    (m.requireLock false q x y).1.checkAccess q.instanceId q.sessionId q.required = .ok ()

theorem requireLockReclaims (m : LockManager) (q : Requirement) (x y : Reading)
    (alone : (m.entry q.instanceId).HolderOrObservers) : m.ReclaimsBlockers q x y ↔
      (m.Reclaimable q → Unblocked (m.entry q.instanceId) q ∨ m.isAutoAcquired q.instanceId = true) := by
  have granted := requireLockOk m q x y alone
  constructor
  · intro promise reclaimable
    exact granted.mp (promise reclaimable).1
  · intro met reclaimable
    have ok := granted.mpr (met reclaimable)
    exact ⟨ok,(requireLockGrants m q x y alone).access ok⟩

end LockManager

theorem reachedHolderOrObservers {mode guard σ trace} (run : (lockSystem mode).Run guard σ trace)
    (id : InstanceId) : (σ.manager.entry id).HolderOrObservers :=
  exclusionHolderOrObservers (LockManager.excludesEntry (systemExcludes run) id)

def requires (s : SessionId) : Requirement := ⟨instanceDev,s,.exclusive⟩

theorem autoLockTaken : ∃ m : LockManager, LockManager.Grants m
    (m.requireLock false (requires ⟨2⟩) (reads 2) (reads 3)).1 (requires ⟨2⟩) (.ok ()) ∧
    (m.entry instanceDev).exclusive.map LockInfo.sessionId = some ⟨1⟩ :=
  ⟨(LockManager.new.autoAcquire (requires ⟨1⟩) (reads 1)).1,
    LockManager.requireLockGrants _ (requires ⟨2⟩) (reads 2) (reads 3) (.inr rfl),rfl⟩

theorem autoLockReclaimed : ∃ m : LockManager,
    m.ReclaimsBlockers (requires ⟨2⟩) (reads 2) (reads 3) ∧ m.Reclaimable (requires ⟨2⟩) :=
  ⟨(LockManager.new.autoAcquire (requires ⟨1⟩) (reads 1)).1,
    (LockManager.requireLockReclaims _ (requires ⟨2⟩) (reads 2) (reads 3) (.inr rfl)).mpr
      (fun _ => .inr rfl),fun _ _ => .inr rfl⟩

theorem deadSessionKeepsLock : ¬ ∀ m q x y, (m.entry q.instanceId).HolderOrObservers →
    LockManager.ReclaimsBlockers m q x y := by
  intro claim
  let m := LockManager.runOps [.registerSession ⟨2⟩,.acquire (asks ⟨1⟩) 0 ⟨1⟩]
  have dead : m.Reclaimable (requires ⟨2⟩) := by
    intro info blocked
    rcases blocked.2 with held | ⟨_,mem⟩
    · cases Option.some.inj held
      exact .inr rfl
    · cases mem
  have granted := (claim m (requires ⟨2⟩) (reads 2) (reads 3) (.inr rfl) dead).1
  cases granted

end Vscreen.Lock
