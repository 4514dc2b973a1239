import Mathlib.Data.List.Basic
import Vscreen.Machine

/-! Broadcast channels and those that listen to one, each at its own pace. The channel comes
from outside: `Channel` are its operations, `Documented` is what their documentation says. A
receiver is handed what was sent since it subscribed, in order, or told how much it missed. -/
namespace Vscreen.Broadcast
variable {α : Type}

inductive Received (α : Type) where
  | value (x : α)
  | lagged (missed : Nat)
  deriving DecidableEq

-- `send` says whether anyone listens, and `recv` gives nothing while it has to wait
structure Channel (α : Type) where
  Sender : Type
  Receiver : Type
  channel : Sender
  subscribe : Sender → Sender × Receiver
  send : Sender → α → Sender × Bool
  recv : Sender → Receiver → Option (Received α × Sender × Receiver)
  drop : Sender → Receiver → Sender

/-- `Holds s sent n`: of the values sent to `s` these were heard by somebody, and it has `n`
receivers now. `position` is the place among them of the value that a receiver is to get next. -/
structure Documented (c : Channel α) where
  Holds : c.Sender → List α → Nat → Prop
  position : c.Receiver → Nat
  channel : Holds c.channel [] 0
  subscribe {s sent n} (holds : Holds s sent n) :
    Holds (c.subscribe s).1 sent (n + 1) ∧ position (c.subscribe s).2 = sent.length
  send {s sent n} (holds : Holds s sent (n + 1)) (x : α) : (c.send s x).2 = true ∧ Holds (c.send s x).1 (sent ++ [x]) (n + 1)
  unheard {s sent} (holds : Holds s sent 0) (x : α) : (c.send s x).2 = false ∧ Holds (c.send s x).1 sent 0
  value {s sent n r x s' r'} (holds : Holds s sent n) (own : position r ≤ sent.length)
    (taken : c.recv s r = some (.value x,s',r')) : sent[position r]? = some x ∧ position r' = position r + 1 ∧ Holds s' sent n
  lagged {s sent n r missed s' r'} (holds : Holds s sent n) (own : position r ≤ sent.length)
    (taken : c.recv s r = some (.lagged missed,s',r')) :
    position r' = position r + missed ∧ position r' ≤ sent.length ∧ Holds s' sent n
  drop {s sent n} (holds : Holds s sent (n + 1)) (r : c.Receiver) : Holds (c.drop s r) sent n

structure Fanout (c : Channel α) where
  sender : c.Sender
  listeners : List (Option c.Receiver)

inductive Event (α : Type) where
  | send (x : α)
  | join
  | take (listener : Nat)
  | leave (listener : Nat)

inductive Note (α : Type) where
  | sent (x : α) (heard : Bool)
  | given (listener position : Nat) (x : α)
  | lagged (listener start missed : Nat)
  deriving DecidableEq

namespace Fanout
variable {c : Channel α}

def new (c : Channel α) : Fanout c := ⟨c.channel,[]⟩

def live (f : Fanout c) : Nat := f.listeners.countP Option.isSome

def send (f : Fanout c) (x : α) : Fanout c × List (Note α) :=
  let sent := c.send f.sender x
  ({f with sender := sent.1},[.sent x sent.2])

def join (f : Fanout c) : Fanout c :=
  let joined := c.subscribe f.sender
  ⟨joined.1,f.listeners ++ [some joined.2]⟩

end Fanout

namespace Documented
variable {c : Channel α} (doc : Documented c)

def take (f : Fanout c) (i : Nat) (r : c.Receiver) : Option (Fanout c × List (Note α)) := match c.recv f.sender r with
  | none => none
  | some (.value x,s,r') => some (⟨s,f.listeners.set i (some r')⟩,[.given i (doc.position r) x])
  | some (.lagged missed,s,r') => some (⟨s,f.listeners.set i (some r')⟩,[.lagged i (doc.position r) missed])

def step (f : Fanout c) : Event α → Option (Fanout c × List (Note α))
  | .send x => some (f.send x)
  | .join => some (f.join,[])
  | .take i => match f.listeners[i]? with
    | some (some r) => doc.take f i r
    | _ => none
  | .leave i => match f.listeners[i]? with
    | some (some r) => some (⟨c.drop f.sender r,f.listeners.set i none⟩,[])
    | _ => none

def next (f : Fanout c) (i : Nat) : Option Nat := match f.listeners[i]? with
  | some (some r) => some (doc.position r)
  | _ => none

variable {doc} {f : Fanout c} {i j k : Nat} {r : c.Receiver}

theorem nextIff : doc.next f i = some k ↔ ∃ r, f.listeners[i]? = some (some r) ∧ doc.position r = k := by
  unfold next
  split
  · rename_i r there
    constructor
    · intro same
      exact ⟨r,there,Option.some.inj same⟩
    · rintro ⟨r',same,rfl⟩
      cases there.symm.trans same
      rfl
  · rename_i absent
    constructor
    · intro absurd
      cases absurd
    · rintro ⟨r,there,-⟩
      exact absurd there (absent r)

theorem nextKnown (there : doc.next f i = some k) : i < f.listeners.length := by
  obtain ⟨r,at_,-⟩ := nextIff.mp there
  exact (List.getElem?_eq_some_iff.mp at_).1

theorem nextSet (s : c.Sender) (o : Option c.Receiver) (known : i < f.listeners.length) (j : Nat) :
    doc.next ⟨s,f.listeners.set i o⟩ j = if j = i then o.map doc.position else doc.next f j := by
  unfold next
  by_cases same : j = i
  · subst same
    rw [if_pos rfl]
    simp only [List.getElem?_set_self known]
    cases o <;> rfl
  · rw [if_neg same]
    simp only [List.getElem?_set_ne (Ne.symm same)]

theorem liveSet {o : Option c.Receiver} (there : f.listeners[i]? = some (some r)) (s : c.Sender) :
    (⟨s,f.listeners.set i o⟩ : Fanout c).live = f.live - 1 + if o.isSome then 1 else 0 := by
  obtain ⟨inside,at_⟩ := List.getElem?_eq_some_iff.mp there
  rw [Fanout.live,List.countP_set inside,at_]
  rfl

theorem livePositive (there : f.listeners[i]? = some (some r)) : 0 < f.live :=
  List.countP_pos_iff.mpr ⟨_,List.mem_of_getElem? there,rfl⟩

end Documented

def heardOf : Note α → Option α
  | .sent x true => some x
  | _ => none

def stream (trace : List (Note α)) : List α := trace.filterMap heardOf

theorem streamAppend (trace out : List (Note α)) : stream (trace ++ out) = stream trace ++ stream out := List.filterMap_append

structure Told {c : Channel α} (doc : Documented c) (f : Fanout c) (trace : List (Note α)) : Prop where
  holds : doc.Holds f.sender (stream trace) f.live
  reached : ∀ i next, doc.next f i = some next → next ≤ (stream trace).length

section
variable {c : Channel α} {doc : Documented c} {f f' : Fanout c} {trace out : List (Note α)} {i next : Nat}

theorem sentHeard (told : Told doc f trace) (there : doc.next f i = some next) (x : α) : (f.send x).2 = [.sent x true] := by
  obtain ⟨r,at_,-⟩ := Documented.nextIff.mp there
  obtain ⟨n,count⟩ := Nat.exists_eq_succ_of_ne_zero (Nat.pos_iff_ne_zero.mp (Documented.livePositive at_))
  have holds := told.holds
  rw [count] at holds
  rw [Fanout.send,(doc.send holds x).1]

theorem toldSend (told : Told doc f trace) (x : α) : Told doc (f.send x).1 (trace ++ (f.send x).2) := by
  have holds := told.holds
  have longer : ∀ i next, doc.next f i = some next → next ≤ (stream (trace ++ (f.send x).2)).length := by
    intro i next there
    have reached := told.reached i next there
    rw [streamAppend,List.length_append]
    omega
  refine ⟨?_,longer⟩
  change doc.Holds (c.send f.sender x).1 (stream (trace ++ [.sent x (c.send f.sender x).2])) f.live
  rw [streamAppend]
  cases count : f.live with
  | zero =>
    rw [count] at holds
    obtain ⟨heard,kept⟩ := doc.unheard holds x
    rw [heard]
    exact (List.append_nil (stream trace)).symm ▸ kept
  | succ n =>
    rw [count] at holds
    obtain ⟨heard,kept⟩ := doc.send holds x
    rw [heard]
    exact kept

theorem joinNext (told : Told doc f trace) (i : Nat) :
    doc.next f.join i = if i = f.listeners.length then some (stream trace).length else doc.next f i := by
  simp only [Documented.next,Fanout.join]
  rcases Nat.lt_trichotomy i f.listeners.length with old | rfl | new
  · rw [if_neg (Nat.ne_of_lt old),List.getElem?_append_left old]
  · rw [if_pos rfl,List.getElem?_concat_length]
    exact congrArg some (doc.subscribe told.holds).2
  · rw [if_neg (Nat.ne_of_gt new),List.getElem?_eq_none (by rw [List.length_append,List.length_singleton]; omega),
      List.getElem?_eq_none (Nat.le_of_lt new)]

theorem toldJoin (told : Told doc f trace) : Told doc f.join trace := by
  refine ⟨?_,fun i next there => ?_⟩
  · have count : f.join.live = f.live + 1 := by
      rw [Fanout.live,Fanout.join,List.countP_append]
      rfl
    rw [count]
    exact (doc.subscribe told.holds).1
  · rw [joinNext told] at there
    split at there
    · cases there
      exact Nat.le_refl _
    · exact told.reached i next there

theorem toldLeave {r : c.Receiver} (told : Told doc f trace) (there : f.listeners[i]? = some (some r)) :
    Told doc ⟨c.drop f.sender r,f.listeners.set i none⟩ trace := by
  have known : i < f.listeners.length := (List.getElem?_eq_some_iff.mp there).1
  obtain ⟨n,count⟩ := Nat.exists_eq_succ_of_ne_zero (Nat.pos_iff_ne_zero.mp (Documented.livePositive there))
  refine ⟨?_,fun j next at_ => ?_⟩
  · have holds := told.holds
    rw [count] at holds
    rw [Documented.liveSet there,count]
    exact doc.drop holds r
  · rw [Documented.nextSet _ _ known] at at_
    split at at_
    · cases at_
    · exact told.reached j next at_

structure Taken (doc : Documented c) (f f' : Fanout c) (i next next' : Nat) : Prop where
  here : doc.next f i = some next
  length : f'.listeners.length = f.listeners.length
  moved : ∀ j, doc.next f' j = if j = i then some next' else doc.next f j

theorem takeCases (told : Told doc f trace) (taken : doc.step f (.take i) = some (f',out)) :
    ∃ next next', Taken doc f f' i next next' ∧ Told doc f' (trace ++ out) ∧
      ((∃ x, out = [.given i next x] ∧ (stream trace)[next]? = some x ∧ next' = next + 1) ∨
        ∃ missed, out = [.lagged i next missed]) := by
  simp only [Documented.step] at taken
  split at taken
  · rename_i r there
    have known : i < f.listeners.length := (List.getElem?_eq_some_iff.mp there).1
    have here : doc.next f i = some (doc.position r) := Documented.nextIff.mpr ⟨r,there,rfl⟩
    have reached := told.reached i _ here
    have on : ∀ (note : Note α) {s : c.Sender} {r' : c.Receiver}, stream [note] = [] → doc.Holds s (stream trace) f.live →
        doc.position r' ≤ (stream trace).length →
        Taken doc f ⟨s,f.listeners.set i (some r')⟩ i (doc.position r) (doc.position r') ∧
          Told doc ⟨s,f.listeners.set i (some r')⟩ (trace ++ [note]) := by
      intro note s r' silent holds within
      have same : stream (trace ++ [note]) = stream trace := by rw [streamAppend,silent,List.append_nil]
      have moved := @Documented.nextSet _ _ doc _ _ s (some r') known
      refine ⟨⟨here,List.length_set ..,moved⟩,?_,fun j next at_ => ?_⟩
      · have positive := Documented.livePositive there
        have count : (⟨s,f.listeners.set i (some r')⟩ : Fanout c).live = f.live := by
          rw [Documented.liveSet there,Option.isSome_some,if_pos rfl]
          omega
        rw [same,count]
        exact holds
      · rw [moved] at at_
        rw [same]
        split at at_
        · cases at_
          exact within
        · exact told.reached j next at_
    simp only [Documented.take] at taken
    split at taken
    · cases taken
    · rename_i x s r' received
      cases taken
      obtain ⟨found,onward,holds⟩ := doc.value told.holds reached received
      have within : doc.position r' ≤ (stream trace).length := by
        rw [onward]
        exact (List.getElem?_eq_some_iff.mp found).1
      obtain ⟨taken,told'⟩ := on (.given i (doc.position r) x) rfl holds within
      exact ⟨_,_,taken,told',.inl ⟨x,rfl,found,onward⟩⟩
    · rename_i missed s r' received
      cases taken
      obtain ⟨-,within,holds⟩ := doc.lagged told.holds reached received
      obtain ⟨taken,told'⟩ := on (.lagged i (doc.position r) missed) rfl holds within
      exact ⟨_,_,taken,told',.inr ⟨missed,rfl⟩⟩
  · cases taken

end

end Vscreen.Broadcast
