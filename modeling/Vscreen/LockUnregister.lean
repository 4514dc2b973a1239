import Vscreen.LockSections

/-! `unregister_session` run without interleaving: the session's locks go on every
instance, with a promotion wherever one went, then its requests; nothing else goes. -/
namespace Vscreen.Lock
open InstanceLockState

theorem unmatched (s : SessionId) : (fun o => !matchesHolder s none o) = (fun o => o.sessionId != s) := by
  funext o
  simp [matchesHolder,bne]

namespace LockManager

section
variable {update : LockManager → InstanceId → LockManager} {f : InstanceId → InstanceLockState → InstanceLockState}

theorem foldEntries (at_ : ∀ m id i, (update m id).entry i = if i = id then f id (m.entry id) else m.entry i)
    (ids : List InstanceId) (distinct : ids.Nodup) (m : LockManager) (i : InstanceId) :
    (ids.foldl update m).entry i = if i ∈ ids then f i (m.entry i) else m.entry i := by
  induction ids generalizing m with
  | nil => simp
  | cons id ids ih =>
    obtain ⟨fresh,rest⟩ := List.nodup_cons.mp distinct
    rw [List.foldl_cons,ih rest,at_]
    by_cases same : i = id
    · subst same
      simp [fresh]
    · simp [same]

theorem foldAllEntries (at_ : ∀ m id i, (update m id).entry i = if i = id then f id (m.entry id) else m.entry i)
    (new : ∀ id, f id .new = .new) (m : LockManager) (i : InstanceId) :
    (m.locks.keys.foldl update m).entry i = f i (m.entry i) := by
  rw [foldEntries at_ _ (AList.keys_nodup m.locks)]
  split
  · rfl
  · rename_i absent
    have none : Table.get m.locks i = none := by
      rw [Table.memKeys] at absent
      simpa using absent
    rw [entryAbsent none,new]

theorem foldSessions (same : ∀ m id, (update m id).activeSessions = m.activeSessions) (ids : List InstanceId)
    (m : LockManager) : (ids.foldl update m).activeSessions = m.activeSessions := by
  induction ids generalizing m with
  | nil => rfl
  | cons id ids ih => rw [List.foldl_cons,ih,same]

end

theorem entryReleaseAllForSession (m : LockManager) (s : SessionId) (i : InstanceId) :
    (m.releaseAllForSession s).entry i = ((m.entry i).release i s none).state.removeFromQueue s := by
  have purged := @foldAllEntries (fun m id => m.removeFromQueue id s) (fun _ st => st.removeFromQueue s)
    (fun m id i => entryRemoveFromQueue m id i s) (fun _ => rfl)
  have released := @foldAllEntries (fun m id => (m.release id s).1) (fun id st => (st.release id s none).state)
    (fun m id i => entryReleaseWithToken m id i s none) (fun _ => rfl)
  unfold releaseAllForSession
  dsimp only
  rw [purged,released]

theorem sessionsReleaseAllForSession (m : LockManager) (s : SessionId) :
    (m.releaseAllForSession s).activeSessions = m.activeSessions := by
  unfold releaseAllForSession
  dsimp only
  rw [foldSessions (fun m id => sessionsRemoveFromQueue m id s)]
  exact foldSessions (fun m id => sessionsReleaseWithToken m id s none) _ m

/-- What unregistering `s` does to the records of `m`. -/
structure CleansUp (m m' : LockManager) (s : SessionId) : Prop where
  inactive : m'.isSessionActive s = false
  forgotten : ∀ id, (∀ e, (m'.entry id).exclusive = some e → e.sessionId ≠ s) ∧
    (∀ o ∈ (m'.entry id).observers, o.sessionId ≠ s) ∧ ∀ w ∈ (m'.entry id).waitQueue, w.sessionId ≠ s
  exclusive : ∀ id, (m'.entry id).exclusive = (m.entry id).exclusive.filter (fun e => e.sessionId != s)
  observers : ∀ id, (m'.entry id).observers = (m.entry id).observers.filter (fun o => o.sessionId != s)
  waiters : ∀ id, ∃ rest, (m.entry id).waitQueue = ((m.entry id).release id s none).notified ++ rest ∧
    (m'.entry id).waitQueue = rest.filter (fun w => w.sessionId != s)
  sessions : ∀ u, u ≠ s → m'.isSessionActive u = m.isSessionActive u

theorem unregisterCleansUp (m : LockManager) (s : SessionId) : m.CleansUp (m.unregisterSession s) s := by
  have entry_ : ∀ id, (m.unregisterSession s).entry id = ((m.entry id).release id s none).state.removeFromQueue s :=
    fun id => entryReleaseAllForSession (m.forgetSession s) s id
  have sessions : (m.unregisterSession s).activeSessions = (m.forgetSession s).activeSessions :=
    sessionsReleaseAllForSession (m.forgetSession s) s
  have exclusive : ∀ id, ((m.unregisterSession s).entry id).exclusive =
      (m.entry id).exclusive.filter (fun e => e.sessionId != s) := by
    intro id
    rw [entry_,← unmatched s]
    exact (releaseHolders (m.entry id) id s none).1
  have observers : ∀ id, ((m.unregisterSession s).entry id).observers =
      (m.entry id).observers.filter (fun o => o.sessionId != s) := by
    intro id
    rw [entry_,← unmatched s]
    exact (releaseHolders (m.entry id) id s none).2
  refine ⟨?_,?_,exclusive,observers,?_,?_⟩
  · rw [isSessionActive,sessions,← Bool.not_eq_true,List.contains_iff_mem,memForgetSession]
    exact fun active => active.1 rfl
  · intro id
    refine ⟨?_,?_,?_⟩
    · intro e held
      rw [exclusive] at held
      simpa using (Option.filter_eq_some_iff.mp held).2
    · intro o mem
      rw [observers] at mem
      simpa using (List.mem_filter.mp mem).2
    · intro w mem
      rw [entry_] at mem
      simpa using (List.mem_filter.mp mem).2
  · intro id
    refine ⟨((m.entry id).release id s none).state.waitQueue,(releaseQueue (m.entry id) id s none).symm,?_⟩
    rw [entry_]
    rfl
  · intro u other
    rw [isSessionActive,isSessionActive,sessions,Bool.eq_iff_iff,List.contains_iff_mem,List.contains_iff_mem,
      memForgetSession]
    exact ⟨And.right,fun active => ⟨other,active⟩⟩

end LockManager
end Vscreen.Lock
