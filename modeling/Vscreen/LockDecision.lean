import Vscreen.LockWaiting

/-! What an acquire decides, and what it says. A refusal names the holder found
first; for an exclusive request among observers that can be the caller itself. -/
namespace Vscreen.Lock
open InstanceLockState

def InstanceLockState.others (st : InstanceLockState) (s : SessionId) : InstanceLockState :=
  st.keepHolders (fun o => o.sessionId != s)

def InstanceLockState.BlockedBy (st : InstanceLockState) (r : LockRequest) (info : LockInfo) : Prop :=
  info.sessionId ≠ r.sessionId ∧
    (st.exclusive = some info ∨ r.lockType = .exclusive ∧ info ∈ st.observers)

structure DecidesExactly (m : LockManager) (r : LockRequest) (auto : Bool) (now : Time) (token : LockToken) :
    Prop where
  decides : (∃ info, (m.acquireInner r auto now token).2 = .ok info) ↔
    (m.entry r.instanceId).blocks r.sessionId r.lockType = false
  access : ∀ info, (m.acquireInner r auto now token).2 = .ok info →
    (m.acquireInner r auto now token).1.checkAccess r.instanceId r.sessionId r.lockType = .ok ()
  others : ∀ id, ((m.acquireInner r auto now token).1.entry id).others r.sessionId =
    (m.entry id).others r.sessionId
  refused : ∀ error, (m.acquireInner r auto now token).2 = .error error →
    ∀ id, (m.acquireInner r auto now token).1.entry id = m.entry id
  blocker : ∀ error, (m.acquireInner r auto now token).2 = .error error →
    ∃ info, error = lockedBy info ∧ (m.entry r.instanceId).BlockedBy r info

/-- An exclusive request of the first of at least two observers, with no exclusive holder. -/
structure NamesItself (st : InstanceLockState) (r : LockRequest) : Prop where
  type : r.lockType = .exclusive
  free : st.exclusive = none
  first : ∃ own other rest, st.observers = own::other::rest ∧ own.sessionId = r.sessionId

section
variable {st st' : InstanceLockState} {r : LockRequest} {auto : Bool} {now : Time} {token : LockToken}

theorem grantedUnblocked {info} (ex : Exclusion st) (done : Acquired st r auto now token st' (.ok info)) :
    st.blocks r.sessionId r.lockType = false := by
  cases done with
  | @renewExclusive exc holder own =>
    have alone := ex.alone exc holder
    cases r.lockType <;> simp [blocks,holder,alone,own]
  | @renewObserver obs notHolder type found =>
    have none : st.exclusive = none := by
      cases holder : st.exclusive with
      | none => rfl
      | some e =>
        have mem := List.mem_of_find?_eq_some found
        rw [ex.alone e holder] at mem
        cases mem
    simp [blocks,none,type]
  | grantExclusive free type alone =>
    rcases alone with none | ⟨o,one,own⟩
    · simp [blocks,free,type,none]
    · simp [blocks,free,type,one,own]
  | grantObserver free type fresh => simp [blocks,free,type]

theorem modifyFirstFilter {α : Type} {p q : α → Bool} {f : α → α} (drops : ∀ x, p x = true → q x = false)
    (still : ∀ x, p x = true → q (f x) = false) (xs : List α) :
    (modifyFirst p f xs).filter q = xs.filter q := by
  induction xs with
  | nil => rfl
  | cons x xs ih =>
    simp only [modifyFirst]
    split
    · rename_i hit
      rw [List.filter_cons_of_neg (by rw [still x hit]; decide),
        List.filter_cons_of_neg (by rw [drops x hit]; decide)]
    · rw [List.filter_cons,List.filter_cons,ih]

theorem acquiredOthers {reply} (done : Acquired st r auto now token st' reply) :
    st'.others r.sessionId = st.others r.sessionId := by
  cases done with
  | renewExclusive holder own => simp [others,keepHolders,holder,renewed,own,Option.filter]
  | renewObserver notHolder type found =>
    have same := modifyFirstFilter (p := (·.sessionId == r.sessionId)) (q := (·.sessionId != r.sessionId))
      (f := renewed r.agentName (expiry now r.ttl)) (by simp) (by simp [renewed]) st.observers
    simp only [others,keepHolders,same]
  | grantExclusive free type alone =>
    rcases alone with none | ⟨o,one,own⟩
    · simp [others,keepHolders,free,none,LockRequest.granted,Option.filter]
    · simp [others,keepHolders,free,one,own,LockRequest.granted,Option.filter]
  | grantObserver free type fresh => simp [others,keepHolders,LockRequest.granted]
  | lockedExclusive holder other => rfl
  | lockedObservers free type observers shared => rfl

theorem acquiredRefused {error} (done : Acquired st r auto now token st' (.error error)) : st' = st := by
  cases done with
  | lockedExclusive holder other => rfl
  | lockedObservers free type observers shared => rfl

theorem refusedNames {error} (done : Acquired st r auto now token st' (.error error))
    (fine : ¬ NamesItself st r) : ∃ info, error = lockedBy info ∧ st.BlockedBy r info := by
  cases done with
  | @lockedExclusive exc holder other => exact ⟨exc,rfl,other,.inl holder⟩
  | @lockedObservers o rest free type observers shared =>
    refine ⟨o,rfl,?_,.inr ⟨type,by rw [observers]; exact List.mem_cons_self⟩⟩
    intro own
    rcases shared with more | other
    · obtain ⟨second,tail,split⟩ := List.exists_cons_of_ne_nil more
      exact fine ⟨type,free,o,second,tail,by rw [observers,split],own⟩
    · exact other own

end

theorem namesItselfReply {st : InstanceLockState} {r : LockRequest} (names : NamesItself st r) (auto now token) :
    ∃ own, (st.acquireInner r auto now token).2 = .error (lockedBy own) ∧ own.sessionId = r.sessionId := by
  obtain ⟨type,free,own,other,rest,observers,same⟩ := names
  refine ⟨own,?_,same⟩
  simp [InstanceLockState.acquireInner,free,type,observers]

theorem namesItselfInexact {m : LockManager} {r : LockRequest} (names : NamesItself (m.entry r.instanceId) r)
    (auto now token) : ¬ DecidesExactly m r auto now token := by
  intro exact_
  obtain ⟨own,reply,same⟩ := namesItselfReply names auto now token
  obtain ⟨info,named,other,_⟩ := exact_.blocker _ reply
  have session := (LockError.instanceLocked.inj named).1
  exact other (session.symm.trans same)

theorem acquireDecides {mode : Bool} {σ : Sys} {trace : List Event}
    (run : Machine.Reaches (lockSystem mode) σ trace) (r : LockRequest) (auto : Bool) (now : Time)
    (token : LockToken) : DecidesExactly σ.manager r auto now token ↔
      ¬ NamesItself (σ.manager.entry r.instanceId) r := by
  have ex := LockManager.excludesEntry (systemExcludes run) r.instanceId
  have done := acquireInnerCases (σ.manager.entry r.instanceId) r auto now token
  constructor
  · intro exact_ names
    exact namesItselfInexact names auto now token exact_
  · intro fine
    refine ⟨⟨?_,unblockedGranted ex done⟩,?_,?_,?_,?_⟩
    · intro ⟨info,ok⟩
      change (InstanceLockState.acquireInner _ r auto now token).2 = .ok info at ok
      rw [ok] at done
      exact grantedUnblocked ex done
    · intro info ok
      change (InstanceLockState.acquireInner _ r auto now token).2 = .ok info at ok
      rw [ok] at done
      rw [LockManager.checkAccessEntry,LockManager.entryAcquireInner,if_pos rfl]
      exact grantedAccess _ ex done
    · intro id
      rw [LockManager.entryAcquireInner]
      split
      · rename_i same
        rw [same]
        exact acquiredOthers done
      · rfl
    · intro error refused id
      change (InstanceLockState.acquireInner _ r auto now token).2 = .error error at refused
      rw [refused] at done
      rw [LockManager.entryAcquireInner]
      split
      · rename_i same
        rw [same]
        exact acquiredRefused done
      · rfl
    · intro error refused
      change (InstanceLockState.acquireInner _ r auto now token).2 = .error error at refused
      rw [refused] at done
      exact refusedNames done fine

def observing (s : SessionId) : LockRequest := {asks s with lockType := .observer}

theorem twoObservers : ∃ σ trace, Machine.Reaches (lockSystem false) σ trace ∧ ∃ first second,
    (σ.manager.entry instanceDev).exclusive = none ∧
    (σ.manager.entry instanceDev).observers = [first,second] ∧
    first.sessionId = ⟨1⟩ ∧ second.sessionId = ⟨2⟩ := by
  have one := Machine.runStep (.start : Machine.Reaches (lockSystem false) _ _)
    (.call 0 (.acquire (observing ⟨1⟩)) (reads 1)) trivial rfl
  have two := Machine.runStep one (.call 1 (.acquire (observing ⟨2⟩)) (reads 2)) trivial rfl
  exact ⟨_,_,two,_,_,rfl,rfl,rfl,rfl⟩

theorem acquireDecidesSecond : ∃ σ trace, Machine.Reaches (lockSystem false) σ trace ∧
    DecidesExactly σ.manager (asks ⟨2⟩) false 0 ⟨9⟩ := by
  obtain ⟨σ,trace,run,first,second,free,observers,one,two⟩ := twoObservers
  refine ⟨σ,trace,run,(acquireDecides run (asks ⟨2⟩) false 0 ⟨9⟩).mpr ?_⟩
  intro names
  obtain ⟨own,other,rest,split,same⟩ := names.first
  have heads := (List.cons.inj (observers.symm.trans split)).1
  rw [← heads,one] at same
  cases same

theorem firstObserverNamed : ¬ ∀ σ trace, Machine.Reaches (lockSystem false) σ trace →
    ∀ r now token, DecidesExactly σ.manager r false now token := by
  intro claim
  obtain ⟨σ,trace,run,first,second,free,observers,one,two⟩ := twoObservers
  have names : NamesItself (σ.manager.entry instanceDev) (asks ⟨1⟩) :=
    ⟨rfl,free,first,second,[],observers,one⟩
  exact namesItselfInexact names false 0 ⟨9⟩ (claim σ trace run (asks ⟨1⟩) 0 ⟨9⟩)

end Vscreen.Lock
