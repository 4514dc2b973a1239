import Vscreen.LockManager

/-! What each critical section can do to the state of one instance, said once.
`Acquired` lists the five outcomes of an acquire; the sections that end locks
keep a filtered set of holders and take a prefix of the queue. -/
namespace Vscreen.Lock
open InstanceLockState

theorem modifyFirstMap {α β : Type} {p : α → Bool} {f : α → α} {g : α → β}
    (same : ∀ x, g (f x) = g x) (xs : List α) : (modifyFirst p f xs).map g = xs.map g := by
  induction xs with
  | nil => rfl
  | cons x xs ih =>
    simp only [modifyFirst]
    split
    · simp [same]
    · simp [ih]

theorem memModifyFirst {α : Type} {p : α → Bool} {f : α → α} {xs : List α} {y : α}
    (mem : y ∈ modifyFirst p f xs) : y ∈ xs ∨ ∃ x ∈ xs, p x = true ∧ y = f x := by
  induction xs with
  | nil => simp [modifyFirst] at mem
  | cons x xs ih =>
    simp only [modifyFirst] at mem
    split at mem
    · rename_i hit
      rcases List.mem_cons.mp mem with rfl | tail
      · exact .inr ⟨x,by simp,hit,rfl⟩
      · exact .inl (List.mem_cons_of_mem _ tail)
    · rcases List.mem_cons.mp mem with rfl | tail
      · exact .inl (by simp)
      · rcases ih tail with old | ⟨z,hz,hp,rfl⟩
        · exact .inl (List.mem_cons_of_mem _ old)
        · exact .inr ⟨z,List.mem_cons_of_mem _ hz,hp,rfl⟩

theorem modifyFirstFound {α : Type} {p : α → Bool} {f : α → α} {xs : List α} {x : α}
    (found : xs.find? p = some x) : f x ∈ modifyFirst p f xs := by
  induction xs with
  | nil => simp at found
  | cons a xs ih =>
    cases hp : p a with
    | true => simp [hp] at found; subst found; simp [modifyFirst,hp]
    | false => simp [hp] at found; simp [modifyFirst,hp,ih found]

theorem modifyFirstOther {α : Type} {p : α → Bool} {f : α → α} {xs : List α} {y : α}
    (mem : y ∈ xs) (other : xs.find? p ≠ some y) : y ∈ modifyFirst p f xs := by
  induction xs with
  | nil => simp at mem
  | cons a xs ih =>
    cases hp : p a with
    | true =>
      simp only [modifyFirst,hp,if_true]
      rcases List.mem_cons.mp mem with rfl | tail
      · simp [hp] at other
      · exact List.mem_cons_of_mem _ tail
    | false =>
      simp only [modifyFirst,hp]
      rcases List.mem_cons.mp mem with rfl | tail
      · simp
      · exact List.mem_cons_of_mem _ (ih tail (by simpa [hp] using other))

def LockRequest.granted (r : LockRequest) (auto : Bool) (now : Time) (token : LockToken) : LockInfo :=
  ⟨r.sessionId,r.agentName,r.lockType,token,now,expiry now r.ttl,auto⟩

inductive Acquired (st : InstanceLockState) (r : LockRequest) (auto : Bool) (now : Time) (token : LockToken) :
    InstanceLockState → Except LockError LockInfo → Prop where
  | renewExclusive {exc} (holder : st.exclusive = some exc) (own : exc.sessionId = r.sessionId) :
      Acquired st r auto now token
        {st with exclusive := some (renewed r.agentName (expiry now r.ttl) exc)}
        (.ok (renewed r.agentName (expiry now r.ttl) exc))
  | renewObserver {obs} (notHolder : ∀ e, st.exclusive = some e → e.sessionId ≠ r.sessionId)
      (type : r.lockType = .observer)
      (found : st.observers.find? (·.sessionId == r.sessionId) = some obs) :
      Acquired st r auto now token
        {st with
          observers := modifyFirst (·.sessionId == r.sessionId) (renewed r.agentName (expiry now r.ttl)) st.observers}
        (.ok (renewed r.agentName (expiry now r.ttl) obs))
  | grantExclusive (free : st.exclusive = none) (type : r.lockType = .exclusive)
      (alone : st.observers = [] ∨ ∃ o, st.observers = [o] ∧ o.sessionId = r.sessionId) :
      Acquired st r auto now token
        {st with exclusive := some (r.granted auto now token), observers := []}
        (.ok (r.granted auto now token))
  | grantObserver (free : st.exclusive = none) (type : r.lockType = .observer)
      (fresh : ∀ o ∈ st.observers, o.sessionId ≠ r.sessionId) :
      Acquired st r auto now token
        {st with observers := st.observers ++ [r.granted auto now token]}
        (.ok (r.granted auto now token))
  | lockedExclusive {exc} (holder : st.exclusive = some exc) (other : exc.sessionId ≠ r.sessionId) :
      Acquired st r auto now token st (.error (lockedBy exc))
  | lockedObservers {o rest} (free : st.exclusive = none) (type : r.lockType = .exclusive)
      (observers : st.observers = o::rest) (shared : rest ≠ [] ∨ o.sessionId ≠ r.sessionId) :
      Acquired st r auto now token st (.error (lockedBy o))

theorem acquireInnerCases (st : InstanceLockState) (r : LockRequest) (auto : Bool) (now : Time)
    (token : LockToken) : Acquired st r auto now token
      (st.acquireInner r auto now token).1 (st.acquireInner r auto now token).2 := by
  unfold InstanceLockState.acquireInner
  dsimp only
  split
  · rename_i exc held
    obtain ⟨holder,own⟩ := Option.filter_eq_some_iff.mp held
    exact .renewExclusive holder (by simpa using own)
  · rename_i notMine
    have other : ∀ e, st.exclusive = some e → e.sessionId ≠ r.sessionId := by
      intro e he own
      simp [he,own] at notMine
    split
    · rename_i type
      split
      · rename_i own found
        exact .renewObserver other type found
      · rename_i absent
        split
        · rename_i exc holder; exact .lockedExclusive holder (other exc holder)
        · rename_i free
          refine .grantObserver free type ?_
          intro o mem same
          have := List.find?_eq_none.mp absent o mem
          simp [same] at this
    · rename_i type
      split
      · rename_i exc holder; exact .lockedExclusive holder (other exc holder)
      · rename_i free observers
        simpa only [observers,LockRequest.granted] using
          @Acquired.grantExclusive st r auto now token free type (.inl observers)
      · rename_i o rest free observers
        split
        · rename_i self
          simp only [Bool.and_eq_true,List.isEmpty_iff,beq_iff_eq] at self
          exact .grantExclusive free type (.inr ⟨o,by rw [observers,self.1],self.2⟩)
        · rename_i notSelf
          refine .lockedObservers free type observers ?_
          simp only [Bool.and_eq_true,List.isEmpty_iff,beq_iff_eq,not_and] at notSelf
          by_cases last : rest = []
          · exact .inr (notSelf last)
          · exact .inl last

inductive Renewed (st : InstanceLockState) (id : InstanceId) (s : SessionId) (token : Option LockToken)
    (expires : Time) : InstanceLockState → Except LockError LockInfo → Prop where
  | exclusive {exc} (holder : st.exclusive = some exc) (own : matchesHolder s token exc = true) :
      Renewed st id s token expires {st with exclusive := some {exc with expiresAt := expires}}
        (.ok {exc with expiresAt := expires})
  | observer {obs} (found : st.observers.find? (matchesHolder s token) = some obs) :
      Renewed st id s token expires
        {st with
          observers := modifyFirst (matchesHolder s token) (fun o => {o with expiresAt := expires}) st.observers}
        (.ok {obs with expiresAt := expires})
  | notHeld : Renewed st id s token expires st (.error (.notHeld id))

theorem renewWithTokenCases (st : InstanceLockState) (id : InstanceId) (s : SessionId)
    (token : Option LockToken) (expires : Time) : Renewed st id s token expires
      (st.renewWithToken id s token expires).1 (st.renewWithToken id s token expires).2 := by
  unfold InstanceLockState.renewWithToken
  dsimp only
  split
  · rename_i exc held
    obtain ⟨holder,own⟩ := Option.filter_eq_some_iff.mp held
    exact .exclusive holder own
  · split
    · rename_i obs found; exact .observer found
    · exact .notHeld

theorem promoteLoopSplits (free : Bool) (queue : List WaitEntry) :
    (promoteLoop free queue).1 ++ (promoteLoop free queue).2 = queue := by
  induction queue with
  | nil => rfl
  | cons front queue ih =>
    simp only [promoteLoop]
    cases front.requestedLockType with
    | exclusive => cases free <;> rfl
    | observer => simp [ih]

theorem tryPromoteHolders (st : InstanceLockState) :
    st.tryPromote.2.1.exclusive = st.exclusive ∧ st.tryPromote.2.1.observers = st.observers := by
  unfold tryPromote
  split <;> exact ⟨rfl,rfl⟩

theorem tryPromoteQueue (st : InstanceLockState) :
    st.tryPromote.2.2 ++ st.tryPromote.2.1.waitQueue = st.waitQueue := by
  unfold tryPromote
  split
  · rfl
  · exact promoteLoopSplits _ _

theorem releaseHolders (st : InstanceLockState) (id : InstanceId) (s : SessionId) (token : Option LockToken) :
    (st.release id s token).state.exclusive = st.exclusive.filter (fun o => !matchesHolder s token o) ∧
    (st.release id s token).state.observers = st.observers.filter (fun o => !matchesHolder s token o) := by
  unfold InstanceLockState.release
  dsimp only
  split
  · exact ⟨rfl,rfl⟩
  · exact tryPromoteHolders (st.keepHolders (fun o => !matchesHolder s token o))

theorem releaseQueue (st : InstanceLockState) (id : InstanceId) (s : SessionId) (token : Option LockToken) :
    (st.release id s token).notified ++ (st.release id s token).state.waitQueue = st.waitQueue := by
  unfold InstanceLockState.release
  dsimp only
  split
  · rfl
  · exact tryPromoteQueue (st.keepHolders (fun o => !matchesHolder s token o))

theorem isEmptyNew {st : InstanceLockState} (empty : st.isEmpty = true) : st = .new := by
  obtain ⟨exclusive,observers,queue⟩ := st
  simp only [InstanceLockState.isEmpty,Bool.and_eq_true,Option.isNone_iff_eq_none,List.isEmpty_iff] at empty
  obtain ⟨⟨rfl,rfl⟩,rfl⟩ := empty
  rfl

theorem releaseCleanup {st : InstanceLockState} {id : InstanceId} {s : SessionId} {token : Option LockToken}
    (cleanup : (st.release id s token).cleanup = true) : (st.release id s token).state = .new := by
  unfold InstanceLockState.release at cleanup ⊢
  dsimp only at cleanup ⊢
  split at cleanup
  · cases cleanup
  · rename_i released
    rw [if_neg released]
    exact isEmptyNew cleanup

def unexpired (now : Time) (o : LockInfo) : Bool := !decide (o.expiresAt ≤ now)

theorem reapHolders (st : InstanceLockState) (now : Time) :
    (st.reap now).1.exclusive = st.exclusive.filter (unexpired now) ∧
    (st.reap now).1.observers = st.observers.filter (unexpired now) := by
  have exclusive : ∀ e, st.exclusive = some e → ¬ unexpired now e = true →
      st.exclusive.filter (unexpired now) = none := by
    intro e he dead; simp [he,Option.filter,dead]
  unfold InstanceLockState.reap
  cases he : st.exclusive with
  | none =>
    simp only [Option.any_none,Bool.false_eq_true,if_false,Option.filter_none]
    split
    · exact ⟨by rw [(tryPromoteHolders _).1]; exact he,by rw [(tryPromoteHolders _).2]; rfl⟩
    · exact ⟨he,rfl⟩
  | some e =>
    simp only [Option.any_some]
    by_cases live : unexpired now e = true
    · have keep : (!(!decide (e.expiresAt ≤ now))) = false := by simpa [unexpired] using live
      simp only [keep,Bool.false_eq_true,if_false]
      have held : (some e).filter (unexpired now) = some e := by simp [Option.filter,live]
      rw [held]
      split
      · exact ⟨by rw [(tryPromoteHolders _).1]; exact he,by rw [(tryPromoteHolders _).2]; rfl⟩
      · exact ⟨he,rfl⟩
    · have drop : (!(!decide (e.expiresAt ≤ now))) = true := by simpa [unexpired] using live
      have gone : (some e).filter (unexpired now) = none := by simp [Option.filter,live]
      simp only [drop,if_true,gone]
      have first := tryPromoteHolders {st with exclusive := none}
      split
      · exact ⟨by rw [(tryPromoteHolders _).1]; exact first.1,
          by rw [(tryPromoteHolders _).2]; exact congrArg (List.filter _) first.2⟩
      · exact ⟨first.1,congrArg (List.filter _) first.2⟩

namespace LockManager
variable (m : LockManager) (id id' : InstanceId)

@[simp] theorem entryWrite (st : InstanceLockState) :
    (m.write id st).entry id' = if id' = id then st else m.entry id' := by
  simp only [entry,write,Table.getPut]
  split <;> rfl

@[simp] theorem entryRemoveEntry :
    (m.removeEntry id).entry id' = if id' = id then .new else m.entry id' := by
  simp only [entry,removeEntry,Table.getDel]
  split <;> rfl

@[simp] theorem entryAcquireInner (r auto now token) :
    (m.acquireInner r auto now token).1.entry id' =
      if id' = r.instanceId then ((m.entry r.instanceId).acquireInner r auto now token).1 else m.entry id' :=
  entryWrite m _ _ _

@[simp] theorem entryEnqueue (r now notify) : (m.enqueue r now notify).entry id' =
    if id' = r.instanceId then (m.entry r.instanceId).enqueue r now notify else m.entry id' :=
  entryWrite m _ _ _

@[simp] theorem entryReleaseSection (s token) : (m.releaseSection id s token).1.entry id' =
    if id' = id then ((m.entry id).release id s token).state else m.entry id' :=
  entryWrite m _ _ _

@[simp] theorem entryReleaseWithToken (s token) : (m.releaseWithToken id s token).1.entry id' =
    if id' = id then ((m.entry id).release id s token).state else m.entry id' := by
  simp only [releaseWithToken]
  split
  · rename_i cleanup
    rw [entryRemoveEntry,entryReleaseSection]
    split
    · exact (releaseCleanup cleanup).symm
    · rfl
  · exact entryReleaseSection m id id' s token

theorem getReleaseWithToken (s token) (other : id' ≠ id) :
    Table.get (m.releaseWithToken id s token).1.locks id' = Table.get m.locks id' := by
  simp only [releaseWithToken]
  split <;> simp [releaseSection,write,removeEntry,other]

theorem sessionsReleaseWithToken (s token) :
    (m.releaseWithToken id s token).1.activeSessions = m.activeSessions := by
  simp only [releaseWithToken]
  split <;> rfl

theorem entryAbsent {m : LockManager} {id : InstanceId} (absent : Table.get m.locks id = none) :
    m.entry id = .new := by simp [entry,absent]

theorem entryPresent {m : LockManager} {id : InstanceId} {st} (present : Table.get m.locks id = some st) :
    m.entry id = st := by simp [entry,present]

theorem entryStays {m : LockManager} {id id' : InstanceId} {st : InstanceLockState}
    (absent : Table.get m.locks id = none) (empty : st = .new) : m.entry id' = if id' = id then st else m.entry id' := by
  split
  · rename_i same; rw [same,entryAbsent absent,empty]
  · rfl

@[simp] theorem entryRenewWithToken (s token ttl now) : (m.renewWithToken id s token ttl now).1.entry id' =
    if id' = id then ((m.entry id).renewWithToken id s token (expiry now ttl)).1 else m.entry id' := by
  unfold renewWithToken
  split
  · rename_i absent
    rw [entryAbsent absent]
    exact entryStays absent rfl
  · rename_i st present
    rw [entryPresent present,entryWrite]

theorem replyRenewWithToken (s token ttl now) : (m.renewWithToken id s token ttl now).2 =
    ((m.entry id).renewWithToken id s token (expiry now ttl)).2 := by
  unfold renewWithToken
  split
  · rename_i absent; rw [entryAbsent absent]; rfl
  · rename_i st present; rw [entryPresent present]

@[simp] theorem entryReapSection (now) : (m.reapSection id now).1.entry id' =
    if id' = id then ((m.entry id).reap now).1 else m.entry id' := by
  unfold reapSection
  split
  · rename_i absent
    rw [entryAbsent absent]
    exact entryStays absent rfl
  · rename_i st present
    rw [entryPresent present,entryWrite]

theorem notifiedReapSection (now) : (m.reapSection id now).2.1 = ((m.entry id).reap now).2.1 := by
  unfold reapSection
  split
  · rename_i absent; rw [entryAbsent absent]; rfl
  · rename_i st present; rw [entryPresent present]

@[simp] theorem entryRemoveFromQueue (s) : (m.removeFromQueue id s).entry id' =
    if id' = id then (m.entry id).removeFromQueue s else m.entry id' := by
  unfold removeFromQueue
  split
  · rename_i absent
    rw [entryAbsent absent]
    exact entryStays absent rfl
  · rename_i st present
    rw [entryPresent present,entryWrite]

theorem checkAccessEntry (s required) :
    m.checkAccess id s required = (m.entry id).checkAccessWithToken id s none required := by
  unfold checkAccess checkAccessWithToken
  split
  · rename_i absent
    rw [entryAbsent absent]
    cases required <;> rfl
  · rename_i st present; rw [entryPresent present]

theorem sessionsRenewWithToken (s token ttl now) :
    (m.renewWithToken id s token ttl now).1.activeSessions = m.activeSessions := by
  unfold renewWithToken
  split <;> rfl

theorem sessionsReapSection (now) : (m.reapSection id now).1.activeSessions = m.activeSessions := by
  unfold reapSection
  split <;> rfl

theorem sessionsRemoveFromQueue (s) : (m.removeFromQueue id s).activeSessions = m.activeSessions := by
  unfold removeFromQueue
  split <;> rfl

theorem memRegisterSession (s u : SessionId) :
    u ∈ (m.registerSession s).activeSessions ↔ u = s ∨ u ∈ m.activeSessions := by
  simp only [registerSession]
  split
  · rename_i present
    constructor
    · exact .inr
    · rintro (rfl | old)
      · exact present
      · exact old
  · exact List.mem_cons

theorem memForgetSession (s u : SessionId) :
    u ∈ (m.forgetSession s).activeSessions ↔ u ≠ s ∧ u ∈ m.activeSessions := by
  simp [forgetSession,and_comm]

end LockManager
end Vscreen.Lock
