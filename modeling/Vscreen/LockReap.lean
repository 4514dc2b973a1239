import Vscreen.LockQueue

/-! `reap_expired` run without interleaving: which records go, which requests it
notifies, and which entries are left in the table. -/
namespace Vscreen.Lock
open InstanceLockState

theorem reapQueue (st : InstanceLockState) (now : Time) :
    (st.reap now).2.1 ++ (st.reap now).1.waitQueue = st.waitQueue := by
  unfold InstanceLockState.reap
  by_cases dead : st.exclusive.any (fun e => decide (e.expiresAt ≤ now)) = true
  · simp only [Bool.not_not,dead,if_true]
    have first := tryPromoteQueue {st with exclusive := none}
    split
    · rw [List.append_assoc,tryPromoteQueue]
      exact first
    · rw [List.append_nil]
      exact first
  · simp only [Bool.not_not,if_neg dead]
    split
    · rw [List.nil_append]
      exact tryPromoteQueue _
    · rfl

theorem reapQuiet {st : InstanceLockState} {now : Time} (quiet : st.drops (unexpired now) = false) :
    (st.reap now).2.1 = [] := by
  rw [drops,Bool.or_eq_false_iff] at quiet
  obtain ⟨exclusive,observers⟩ := quiet
  have live : st.exclusive.any (fun e => decide (e.expiresAt ≤ now)) = false := by
    simpa [unexpired] using exclusive
  have all : st.observers.filter (fun o => !decide (o.expiresAt ≤ now)) = st.observers := by
    refine List.filter_eq_self.mpr fun o member => ?_
    simpa [unexpired] using List.any_eq_false.mp observers o member
  simp [InstanceLockState.reap,live,all]

theorem reapEmptied (st : InstanceLockState) (now : Time) : (st.reap now).2.2 = (st.reap now).1.isEmpty := rfl

namespace LockManager

def reapedEntry (now : Time) (st : InstanceLockState) : Option InstanceLockState :=
  if (st.reap now).1.isEmpty then none else some (st.reap now).1

theorem getReapOne (m : LockManager) (id i : InstanceId) (now : Time) : Table.get (reapOne now m id).locks i =
    if i = id then (Table.get m.locks id).bind (reapedEntry now) else Table.get m.locks i := by
  cases found : Table.get m.locks id with
  | none =>
    have same : reapOne now m id = m := by simp only [reapOne,reapSection,found,Bool.false_eq_true,if_false]
    rw [same]
    split
    · rename_i here
      rw [here,found]
      rfl
    · rfl
  | some st =>
    simp only [reapOne,reapSection,found,reapEmptied,Option.bind_some,reapedEntry]
    split
    · rw [removeEntry,Table.getDel]
      split
      · rfl
      · rename_i other
        rw [write,Table.getPut,if_neg other]
    · rw [write,Table.getPut]

def reapNoting (now : Time) (s : LockManager × List (InstanceId × WaitEntry)) (id : InstanceId) :
    LockManager × List (InstanceId × WaitEntry) :=
  (reapOne now s.1 id,s.2 ++ (s.1.reapSection id now).2.1.map fun w => (id,w))

def reapNotified (m : LockManager) (now : Time) : List (InstanceId × WaitEntry) :=
  (m.locks.keys.foldl (reapNoting now) (m,[])).2

def notifiedOn (id : InstanceId) (notified : List (InstanceId × WaitEntry)) : List WaitEntry :=
  (notified.filter fun n => n.1 = id).map Prod.snd

theorem notingReaps (now : Time) (ids : List InstanceId) (s : LockManager × List (InstanceId × WaitEntry)) :
    (ids.foldl (reapNoting now) s).1 = ids.foldl (reapOne now) s.1 := by
  induction ids generalizing s with
  | nil => rfl
  | cons id ids ih => exact ih (reapNoting now s id)

theorem notifiedOnAppend (id : InstanceId) (before after : List (InstanceId × WaitEntry)) :
    notifiedOn id (before ++ after) = notifiedOn id before ++ notifiedOn id after := by
  rw [notifiedOn,List.filter_append,List.map_append]
  rfl

theorem notifiedHere (id i : InstanceId) (ws : List WaitEntry) :
    notifiedOn i (ws.map fun w => (id,w)) = if i = id then ws else [] := by
  induction ws with
  | nil => split <;> rfl
  | cons w ws ih =>
    rw [List.map_cons,notifiedOn,List.filter_cons]
    by_cases same : i = id
    · subst same
      rw [if_pos rfl] at ih ⊢
      simp only [decide_true,if_true,List.map_cons]
      exact congrArg (w::·) ih
    · rw [if_neg same] at ih ⊢
      rw [if_neg (by simpa using Ne.symm same)]
      exact ih

def sectionNotified (m : LockManager) (id : InstanceId) (now : Time) : List WaitEntry :=
  (Table.get m.locks id).elim [] fun st => (st.reap now).2.1

theorem reapSectionNotified (m : LockManager) (id : InstanceId) (now : Time) :
    (m.reapSection id now).2.1 = m.sectionNotified id now := by
  rw [reapSection,sectionNotified]
  cases Table.get m.locks id <;> rfl

theorem reapRounds (now : Time) {ids : List InstanceId} (distinct : ids.Nodup)
    (s : LockManager × List (InstanceId × WaitEntry)) (i : InstanceId) :
    Table.get (ids.foldl (reapNoting now) s).1.locks i =
        (if i ∈ ids then (Table.get s.1.locks i).bind (reapedEntry now) else Table.get s.1.locks i) ∧
      notifiedOn i (ids.foldl (reapNoting now) s).2 =
        notifiedOn i s.2 ++ if i ∈ ids then s.1.sectionNotified i now else [] := by
  induction ids generalizing s with
  | nil => exact ⟨rfl,(List.append_nil _).symm⟩
  | cons id ids ih =>
    obtain ⟨fresh,rest⟩ := List.nodup_cons.mp distinct
    obtain ⟨entries,notified⟩ := ih rest (reapNoting now s id)
    have here : (reapNoting now s id).1 = reapOne now s.1 id := rfl
    have told : notifiedOn i (reapNoting now s id).2 =
        notifiedOn i s.2 ++ if i = id then s.1.sectionNotified id now else [] := by
      rw [reapNoting,notifiedOnAppend,notifiedHere,reapSectionNotified]
    rw [List.foldl_cons,entries,notified,told,here,getReapOne]
    by_cases same : i = id
    · subst same
      simp [fresh]
    · simp [same,sectionNotified,getReapOne]

theorem reapedGet (m : LockManager) (now : Time) (i : InstanceId) :
    Table.get (m.reapExpired now).locks i = (Table.get m.locks i).bind (reapedEntry now) ∧
      notifiedOn i (m.reapNotified now) = m.sectionNotified i now := by
  obtain ⟨entries,notified⟩ := reapRounds now (AList.keys_nodup m.locks) (m,[]) i
  rw [notingReaps] at entries
  rw [reapExpired,entries,reapNotified,notified]
  by_cases there : i ∈ m.locks.keys
  · rw [if_pos there,if_pos there]
    exact ⟨rfl,rfl⟩
  · have none : Table.get m.locks i = none := by
      rw [Table.memKeys] at there
      simpa using there
    rw [if_neg there,if_neg there,none,sectionNotified,none]
    exact ⟨rfl,rfl⟩

theorem emptyNew {st : InstanceLockState} (empty : st.isEmpty = true) : st = .new := by
  obtain ⟨exclusive,observers,queue⟩ := st
  simp only [isEmpty,Bool.and_eq_true,Option.isNone_iff_eq_none,List.isEmpty_iff] at empty
  obtain ⟨⟨rfl,rfl⟩,rfl⟩ := empty
  rfl

theorem entryReaped (m : LockManager) (now : Time) (i : InstanceId) :
    (m.reapExpired now).entry i = ((m.entry i).reap now).1 := by
  rw [entry,entry,(reapedGet m now i).1]
  cases Table.get m.locks i with
  | none => rfl
  | some st =>
    rw [Option.bind_some,reapedEntry]
    split
    · rename_i empty
      exact (emptyNew empty).symm
    · rfl

theorem sessionsReapOne (now : Time) (m : LockManager) (id : InstanceId) :
    (reapOne now m id).activeSessions = m.activeSessions := by
  cases found : Table.get m.locks id with
  | none => simp only [reapOne,reapSection,found,Bool.false_eq_true,if_false]
  | some st =>
    simp only [reapOne,reapSection,found]
    split <;> rfl

structure Reaped (m m' : LockManager) (now : Time) (notified : List (InstanceId × WaitEntry)) : Prop where
  exclusive : ∀ id, (m'.entry id).exclusive = (m.entry id).exclusive.filter (unexpired now)
  observers : ∀ id, (m'.entry id).observers = (m.entry id).observers.filter (unexpired now)
  queue : ∀ id, (m.entry id).waitQueue = notifiedOn id notified ++ (m'.entry id).waitQueue
  quiet : ∀ id, (∀ e ∈ (m.entry id).exclusive, now < e.expiresAt) →
    (∀ o ∈ (m.entry id).observers, now < o.expiresAt) → notifiedOn id notified = []
  entries : ∀ id, (Table.get m'.locks id).isSome ↔
    (Table.get m.locks id).isSome ∧ ¬ (m'.entry id).isEmpty
  sessions : m'.activeSessions = m.activeSessions

theorem reapedQueue (m : LockManager) (now : Time) (id : InstanceId) :
    (m.entry id).waitQueue = notifiedOn id (m.reapNotified now) ++ ((m.reapExpired now).entry id).waitQueue := by
  rw [entryReaped,(reapedGet m now id).2,sectionNotified]
  cases found : Table.get m.locks id with
  | none =>
    rw [entryAbsent found]
    rfl
  | some st =>
    rw [entryPresent found]
    exact (reapQueue st now).symm

theorem reapedQuiet {m : LockManager} {now : Time} {id : InstanceId}
    (exclusive : ∀ e ∈ (m.entry id).exclusive, now < e.expiresAt)
    (observers : ∀ o ∈ (m.entry id).observers, now < o.expiresAt) : notifiedOn id (m.reapNotified now) = [] := by
  rw [(reapedGet m now id).2,sectionNotified]
  cases found : Table.get m.locks id with
  | none => rfl
  | some st =>
    rw [entryPresent found] at exclusive observers
    refine reapQuiet (Bool.or_eq_false_iff.mpr ⟨?_,?_⟩)
    · cases held : st.exclusive with
      | none => rfl
      | some e =>
        have later := exclusive e held
        simpa [unexpired] using later
    · refine List.any_eq_false.mpr fun o member => ?_
      have later := observers o member
      simpa [unexpired] using later

theorem reapedPresent (m : LockManager) (now : Time) (id : InstanceId) :
    (Table.get (m.reapExpired now).locks id).isSome ↔
      (Table.get m.locks id).isSome ∧ ¬ ((m.reapExpired now).entry id).isEmpty := by
  rw [entryReaped,(reapedGet m now id).1]
  cases found : Table.get m.locks id with
  | none => simp
  | some st =>
    rw [entryPresent found,Option.bind_some,reapedEntry]
    split
    · rename_i empty
      simp [empty]
    · rename_i kept
      simp [kept]

theorem expiredExactly (m : LockManager) (now : Time) : Reaped m (m.reapExpired now) now (m.reapNotified now) where
  exclusive id := by
    rw [entryReaped]
    exact (reapHolders (m.entry id) now).1
  observers id := by
    rw [entryReaped]
    exact (reapHolders (m.entry id) now).2
  queue := reapedQueue m now
  quiet _ exclusive observers := reapedQuiet exclusive observers
  entries := reapedPresent m now
  sessions := List.foldlRecOn m.locks.keys (reapOne now) (motive := fun m' => m'.activeSessions = m.activeSessions) rfl
    (fun m' same id _ => (sessionsReapOne now m' id).trans same)

end LockManager
end Vscreen.Lock
