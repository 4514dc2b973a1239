import Mathlib.Data.List.TakeWhile
import Vscreen.LockWakeup

/-! One call of `try_promote` (lock_manager.rs) as a batch of grants. The requests
it notifies are a prefix of the queue. They can be granted together with the
holders there are, unless the loop walks over observer requests into an exclusive
one: it looks at the observers recorded, not at those it has just notified. -/
namespace Vscreen.Lock
open InstanceLockState

inductive Compatible (st : InstanceLockState) : List WaitEntry → Prop where
  | empty : Compatible st []
  | exclusive {e} (type : e.requestedLockType = .exclusive) (free : st.exclusive = none)
      (unobserved : st.observers = []) : Compatible st [e]
  | observers {es} (types : ∀ e ∈ es, e.requestedLockType = .observer) (free : st.exclusive = none) :
      Compatible st es

/-- The queue begins with observer requests, then an exclusive one, and nobody holds a lock. -/
structure ObserversThenExclusive (st : InstanceLockState) : Prop where
  free : st.exclusive = none
  unobserved : st.observers = []
  queued : ∃ first front e rest, st.waitQueue = first::(front ++ e::rest) ∧
    (∀ o ∈ first::front, o.requestedLockType = .observer) ∧ e.requestedLockType = .exclusive

theorem leadingObservers (queue : List WaitEntry) :
    ∀ e ∈ queue.takeWhile observes, e.requestedLockType = .observer := by
  intro e mem
  have observer := List.mem_takeWhile_imp mem
  simpa [observes] using observer

theorem behindObservers {queue rest : List WaitEntry} {e : WaitEntry}
    (behind : queue.dropWhile observes = e::rest) : e.requestedLockType = .exclusive := by
  have stops := List.head?_dropWhile_not observes queue
  rw [behind] at stops
  cases type : e.requestedLockType with
  | exclusive => rfl
  | observer => simp [observes,type] at stops

theorem notifiedFree {st : InstanceLockState} (free : st.exclusive = none) :
    st.tryPromote.2.2 = reached st.observers.isEmpty st.waitQueue := by
  simp only [tryPromote,free,Option.isSome_none,Bool.false_eq_true,if_false,promoteLoopReaches]

theorem notifiedHeld {st : InstanceLockState} (held : st.exclusive ≠ none) : st.tryPromote.2.2 = [] := by
  have some := Option.isSome_iff_ne_none.mpr held
  simp only [tryPromote,some,if_true]

theorem compatibleUnless {st : InstanceLockState} (fine : ¬ ObserversThenExclusive st) :
    Compatible st st.tryPromote.2.2 := by
  by_cases free : st.exclusive = none
  · rw [notifiedFree free,reached]
    have front := leadingObservers st.waitQueue
    have split := List.takeWhile_append_dropWhile (p := observes) (l := st.waitQueue)
    cases behind : st.waitQueue.dropWhile observes with
    | nil =>
      simp only [List.take_nil,ite_self,List.append_nil]
      exact .observers front free
    | cons e rest =>
      have exclusive := behindObservers behind
      split
      · rename_i unobserved
        have none : st.observers = [] := List.isEmpty_iff.mp unobserved
        cases observers : st.waitQueue.takeWhile observes with
        | nil => exact .exclusive exclusive free none
        | cons first later =>
          rw [observers] at front
          rw [observers,behind] at split
          exact absurd ⟨free,none,first,later,e,rest,split.symm,front,exclusive⟩ fine
      · rw [List.append_nil]
        exact .observers front free
  · rw [notifiedHeld free]
    exact .empty

theorem reachedThrough {front rest : List WaitEntry} {e : WaitEntry}
    (observers : ∀ o ∈ front, o.requestedLockType = .observer) (type : e.requestedLockType = .exclusive) :
    reached true (front ++ e::rest) = front ++ [e] := by
  have all : ∀ o ∈ front, observes o = true := by
    intro o mem
    simp [observes,observers o mem]
  have stops : observes e = false := by simp [observes,type]
  simp [reached,List.takeWhile_append_of_pos all,List.dropWhile_append_of_pos all,stops]

theorem incompatible {st : InstanceLockState} (bad : ObserversThenExclusive st) :
    ¬ Compatible st st.tryPromote.2.2 := by
  obtain ⟨free,unobserved,first,front,e,rest,split,observers,exclusive⟩ := bad
  have taken := @reachedThrough _ rest _ observers exclusive
  rw [notifiedFree free,unobserved,split,List.isEmpty_nil,← List.cons_append,taken]
  intro fine
  generalize batch : first::front ++ [e] = notified at fine
  cases fine with
  | empty => cases batch
  | exclusive type free unobserved =>
    have two := congrArg List.length batch
    simp at two
  | observers types free =>
    have observer := types e (by rw [← batch]; simp)
    rw [exclusive] at observer
    cases observer

structure JointlyGrantable (st : InstanceLockState) : Prop where
  fifo : st.tryPromote.2.2 ++ st.tryPromote.2.1.waitQueue = st.waitQueue
  compatible : Compatible st st.tryPromote.2.2

theorem promotionGrantable (st : InstanceLockState) : JointlyGrantable st ↔ ¬ ObserversThenExclusive st := by
  constructor
  · intro grantable bad
    exact incompatible bad grantable.compatible
  · intro fine
    exact ⟨tryPromoteQueue st,compatibleUnless fine⟩

theorem observerAndExclusiveNotified : ∃ st : InstanceLockState,
    st = ⟨none,[],[⟨⟨1⟩,none,.observer,0,1⟩,⟨⟨2⟩,none,.exclusive,0,2⟩]⟩ ∧
    st.tryPromote.2.2.map WaitEntry.requestedLockType = [.observer,.exclusive] ∧ ¬ JointlyGrantable st := by
  refine ⟨_,rfl,rfl,?_⟩
  intro grantable
  refine incompatible ?_ grantable.compatible
  exact ⟨rfl,rfl,_,[],_,[],rfl,by simp,rfl⟩

end Vscreen.Lock
