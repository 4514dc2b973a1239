import Mathlib.Algebra.Group.Nat.Defs
import Mathlib.Data.List.Basic
import Mathlib.Data.List.Count
import Mathlib.Data.Nat.Basic
import Mathlib.Order.Basic
import Vscreen.Machine

/-! The connection of the viewer (client.ts): its WebSockets, the timer of `scheduleReconnect`
and the two buttons. A socket that was closed reports it later, and what it then does depends
on what was pressed in between. -/
namespace Vscreen.Viewer

def maxReconnectAttempts : Nat := 20
def reconnectBaseMs : Nat := 1000
def reconnectMaxMs : Nat := 15000

inductive ReadyState where
  | connecting
  | opened
  | closing
  | closed
  deriving DecidableEq

namespace ReadyState

def live : ReadyState → Bool
  | closed => false
  | _ => true

def close : ReadyState → ReadyState
  | connecting | opened => closing
  | closing => closing
  | closed => closed

end ReadyState

structure Connection where
  sockets : List ReadyState
  ws : Option Nat
  pc : Bool
  intentionalDisconnect : Bool
  reconnectAttempt : Nat
  timers : List Nat
  nextTimer : Nat
  reconnectTimer : Option Nat
  connectDisabled : Bool
  disconnectDisabled : Bool
  deriving DecidableEq

namespace Connection

inductive Event where
  | connectClick (valid : Bool)
  | disconnectClick
  | opens (socket : Nat)
  | closes (socket : Nat)
  | fires (timer : Nat) (valid : Bool)
  | peerFails

inductive Output where
  | clicked (left : Nat)
  | disconnected
  | created
  | refused
  | opened
  | scheduled (attempt : Nat) (delay : Nat)
  | gaveUp
  | fired
  deriving DecidableEq

def init : Connection := ⟨[],none,false,false,0,[],0,none,false,true⟩

def underWay (s : Connection) : Nat := s.sockets.countP ReadyState.live + s.timers.length

-- What `setTimeout` makes of the delay: it drops the fraction of a millisecond.
def delay (attempt : Nat) : Nat :=
  min (reconnectBaseMs * 3 ^ (attempt - 1) / 2 ^ (attempt - 1)) reconnectMaxMs

def scheduleReconnect (s : Connection) : Connection × List Output :=
  if s.intentionalDisconnect || decide (maxReconnectAttempts ≤ s.reconnectAttempt) then
    (s,if maxReconnectAttempts ≤ s.reconnectAttempt then [.gaveUp] else [])
  else
    let attempt := s.reconnectAttempt + 1
    ({s with
        reconnectAttempt := attempt
        timers := s.timers ++ [s.nextTimer]
        nextTimer := s.nextTimer + 1
        reconnectTimer := some s.nextTimer},[.scheduled attempt (delay attempt)])

def cancelReconnect (s : Connection) : Connection :=
  {s with
    timers := match s.reconnectTimer with
      | none => s.timers
      | some timer => s.timers.erase timer
    reconnectTimer := none
    reconnectAttempt := 0}

def connect (s : Connection) (valid : Bool) : Connection × List Output :=
  if valid then
    ({s with
        intentionalDisconnect := false
        sockets := s.sockets ++ [.connecting]
        ws := some s.sockets.length
        connectDisabled := true},[.created])
  else ({s with intentionalDisconnect := false},[.refused])

def closePeer (s : Connection) : Connection :=
  {s with
    sockets := match s.ws with
      | none => s.sockets
      | some socket => s.sockets.modify socket ReadyState.close
    ws := none
    pc := false}

def disconnect (s : Connection) : Connection :=
  {closePeer (cancelReconnect {s with intentionalDisconnect := true}) with
    connectDisabled := false
    disconnectDisabled := true}

def onopen (s : Connection) : Connection := {s with reconnectAttempt := 0, disconnectDisabled := false, pc := true}

def onclose (s : Connection) : Connection × List Output :=
  let s : Connection := {s with disconnectDisabled := true}
  if !s.intentionalDisconnect then s.scheduleReconnect else ({s with connectDisabled := false},[])

def step (s : Connection) : Event → Option (Connection × List Output)
  | .connectClick valid =>
    if s.connectDisabled then none
    else some ((s.connect valid).1,.clicked s.underWay::(s.connect valid).2)
  | .disconnectClick => if s.disconnectDisabled then none else some (s.disconnect,[.disconnected])
  | .opens socket =>
    if s.sockets[socket]? = some .connecting then
      some ({s with sockets := s.sockets.set socket .opened}.onopen,[.opened])
    else none
  | .closes socket =>
    if (s.sockets[socket]?).any ReadyState.live then some {s with sockets := s.sockets.set socket .closed}.onclose
    else none
  | .fires timer valid =>
    if timer ∈ s.timers then
      let s : Connection := {s with timers := s.timers.erase timer, reconnectTimer := none}
      some ((s.connect valid).1,.fired::(s.connect valid).2)
    else none
  | .peerFails => if s.pc then some (s.closePeer,[]) else none

end Connection

def reconnecting : Machine Connection Connection.Event Connection.Output where
  init := .init
  step := Connection.step

def early : Connection.Output → Bool
  | .clicked left => decide (0 < left)
  | _ => false

def Numbered (attempts : Nat) : List Connection.Output → Prop
  | [] => True
  | .scheduled attempt delay::rest =>
    attempt = attempts + 1 ∧ attempt ≤ maxReconnectAttempts ∧ delay = Connection.delay attempt ∧ Numbered attempt rest
  | .opened::rest | .disconnected::rest => Numbered 0 rest
  | _::rest => Numbered attempts rest

def attemptsAfter (attempts : Nat) : List Connection.Output → Nat
  | [] => attempts
  | .scheduled attempt _::rest => attemptsAfter attempt rest
  | .opened::rest | .disconnected::rest => attemptsAfter 0 rest
  | _::rest => attemptsAfter attempts rest

/-- The trace ends where the viewer stops trying: after the last attempt, or at a URL that the
constructor refuses. -/
def Ended (trace : List Connection.Output) : Prop := [.gaveUp] <:+ trace ∨ [.fired,.refused] <:+ trace

namespace Connection
variable {s : Connection} {trace : List Output}

def Resting (s : Connection) : Prop := ∀ p ∈ s.sockets, p = .closed

def Newest (s : Connection) (p : ReadyState) : Prop := ∃ earlier, s.sockets = earlier ++ [p] ∧ ∀ q ∈ earlier, q = .closed

theorem closedCount {sockets : List ReadyState} (closed : ∀ p ∈ sockets, p = .closed) : sockets.countP ReadyState.live = 0 := by
  rw [List.countP_eq_zero]
  intro p mem
  rw [closed p mem]
  decide

theorem newestCount {p : ReadyState} (newest : s.Newest p) (live : p.live = true) : s.sockets.countP ReadyState.live = 1 := by
  obtain ⟨earlier,sockets,closed⟩ := newest
  rw [sockets,List.countP_append,closedCount closed,List.countP_singleton,if_pos live]

theorem closeLive (p : ReadyState) : p.close.live = p.live := by cases p <;> rfl

theorem modifyCount (sockets : List ReadyState) (socket : Nat) :
    (sockets.modify socket ReadyState.close).countP ReadyState.live = sockets.countP ReadyState.live := by
  induction sockets generalizing socket with
  | nil => rw [List.modify_nil]
  | cons p rest ih =>
    cases socket with
    | zero => rw [List.modify_zero_cons,List.countP_cons,List.countP_cons,closeLive]
    | succ socket => rw [List.modify_succ_cons,List.countP_cons,List.countP_cons,ih]

theorem setCount {sockets : List ReadyState} {socket : Nat} {p q : ReadyState} (found : sockets[socket]? = some p) (live : p.live = true) :
    (sockets.set socket q).countP ReadyState.live + 1 = sockets.countP ReadyState.live + if q.live then 1 else 0 := by
  obtain ⟨bound,entry⟩ := List.getElem?_eq_some_iff.mp found
  have counted : 0 < sockets.countP ReadyState.live := List.countP_pos_iff.mpr ⟨p,List.mem_of_getElem? found,live⟩
  rw [List.countP_set bound,entry,if_pos live]
  omega

inductive Taken (s : Connection) : Event → Connection → List Output → Prop where
  | connectClick (valid : Bool) (enabled : s.connectDisabled = false) :
    Taken s (.connectClick valid) (s.connect valid).1 (.clicked s.underWay::(s.connect valid).2)
  | disconnectClick (enabled : s.disconnectDisabled = false) : Taken s .disconnectClick s.disconnect [.disconnected]
  | opens (socket : Nat) (found : s.sockets[socket]? = some .connecting) :
    Taken s (.opens socket) {s with sockets := s.sockets.set socket .opened}.onopen [.opened]
  | closes (socket : Nat) (p : ReadyState) (found : s.sockets[socket]? = some p) (live : p.live = true) :
    Taken s (.closes socket) {s with sockets := s.sockets.set socket .closed}.onclose.1
      {s with sockets := s.sockets.set socket .closed}.onclose.2
  | fires (timer : Nat) (valid : Bool) (pending : timer ∈ s.timers) :
    Taken s (.fires timer valid) ({s with timers := s.timers.erase timer, reconnectTimer := none}.connect valid).1
      (.fired::({s with timers := s.timers.erase timer, reconnectTimer := none}.connect valid).2)
  | peerFails (made : s.pc = true) : Taken s .peerFails s.closePeer []

theorem stepTaken {e : Event} {s' : Connection} {out : List Output} (ok : s.step e = some (s',out)) : Taken s e s' out := by
  cases e with
  | connectClick valid =>
    simp only [step,Option.ite_none_left_eq_some,Bool.not_eq_true,Option.some.injEq,Prod.mk.injEq] at ok
    obtain ⟨enabled,rfl,rfl⟩ := ok
    exact .connectClick valid enabled
  | disconnectClick =>
    simp only [step,Option.ite_none_left_eq_some,Bool.not_eq_true,Option.some.injEq,Prod.mk.injEq] at ok
    obtain ⟨enabled,rfl,rfl⟩ := ok
    exact .disconnectClick enabled
  | opens socket =>
    simp only [step,Option.ite_none_right_eq_some,Option.some.injEq,Prod.mk.injEq] at ok
    obtain ⟨found,rfl,rfl⟩ := ok
    exact .opens socket found
  | closes socket =>
    simp only [step,Option.ite_none_right_eq_some,Option.some.injEq] at ok
    obtain ⟨live,done⟩ := ok
    cases found : s.sockets[socket]? with
    | none => rw [found] at live; contradiction
    | some p =>
      rw [found] at live
      have taken := Taken.closes socket p found live
      rwa [done] at taken
  | fires timer valid =>
    simp only [step,Option.ite_none_right_eq_some,Option.some.injEq,Prod.mk.injEq] at ok
    obtain ⟨pending,rfl,rfl⟩ := ok
    exact .fires timer valid pending
  | peerFails =>
    simp only [step,Option.ite_none_right_eq_some,Option.some.injEq,Prod.mk.injEq] at ok
    obtain ⟨made,rfl,rfl⟩ := ok
    exact .peerFails made

theorem connectUnderWay (s : Connection) (valid : Bool) : (s.connect valid).1.underWay ≤ s.underWay + 1 := by
  cases valid with
  | false => exact Nat.le_add_right s.underWay 1
  | true =>
    have count : (s.sockets ++ [ReadyState.connecting]).countP ReadyState.live = s.sockets.countP ReadyState.live + 1 := by
      rw [List.countP_append]; rfl
    change (s.sockets ++ [ReadyState.connecting]).countP ReadyState.live + s.timers.length ≤ s.underWay + 1
    rw [count,underWay]
    omega

theorem scheduleUnderWay (s : Connection) : s.scheduleReconnect.1.underWay ≤ s.underWay + 1 := by
  unfold scheduleReconnect
  split
  · exact Nat.le_add_right s.underWay 1
  · change s.sockets.countP ReadyState.live + (s.timers ++ [s.nextTimer]).length ≤ s.underWay + 1
    rw [List.length_append,List.length_singleton,underWay]
    omega

theorem closePeerUnderWay (s : Connection) : s.closePeer.underWay = s.underWay := by
  unfold closePeer underWay
  cases s.ws with
  | none => rfl
  | some socket => exact congrArg (· + s.timers.length) (modifyCount s.sockets socket)

theorem cancelUnderWay (s : Connection) : s.cancelReconnect.underWay ≤ s.underWay := by
  unfold cancelReconnect underWay
  cases s.reconnectTimer with
  | none => exact le_rfl
  | some timer => exact Nat.add_le_add_left List.length_erase_le _

theorem disconnectUnderWay (s : Connection) : s.disconnect.underWay ≤ s.underWay := calc
  s.disconnect.underWay = (cancelReconnect {s with intentionalDisconnect := true}).underWay := closePeerUnderWay _
  _ ≤ s.underWay := cancelUnderWay _

theorem closesUnderWay {socket : Nat} {p : ReadyState} (found : s.sockets[socket]? = some p) (live : p.live = true) :
    (onclose {s with sockets := s.sockets.set socket .closed}).1.underWay ≤ s.underWay := by
  have one : (s.sockets.set socket .closed).countP ReadyState.live + 1 = s.sockets.countP ReadyState.live := setCount found live
  have fewer : underWay {s with sockets := s.sockets.set socket .closed, disconnectDisabled := true} + 1 = s.underWay := by
    simp only [underWay]
    omega
  simp only [onclose]
  split
  · exact (scheduleUnderWay _).trans fewer.le
  · exact (Nat.le_succ _).trans fewer.le

theorem firesUnderWay {timer : Nat} (pending : timer ∈ s.timers) (valid : Bool) :
    (connect {s with timers := s.timers.erase timer, reconnectTimer := none} valid).1.underWay ≤ s.underWay := by
  have fewer : underWay {s with timers := s.timers.erase timer, reconnectTimer := none} + 1 = s.underWay := by
    have erased := List.length_erase_add_one pending
    simp only [underWay]
    omega
  exact (connectUnderWay _ valid).trans fewer.le

theorem takenUnderWay {e : Event} {s' : Connection} {out : List Output} (taken : Taken s e s' out) :
    s'.underWay ≤ s.underWay + out.countP early ∨ s'.underWay ≤ 1 := by
  cases taken with
  | connectClick valid enabled =>
    have grown := connectUnderWay s valid
    by_cases alone : s.underWay = 0
    · exact .inr (by omega)
    · have counted : 1 ≤ (Output.clicked s.underWay::(s.connect valid).2).countP early :=
        List.countP_pos_iff.mpr ⟨_,List.mem_cons_self,decide_eq_true (Nat.pos_of_ne_zero alone)⟩
      exact .inl (by omega)
  | disconnectClick enabled => exact .inl ((disconnectUnderWay s).trans (Nat.le_add_right _ _))
  | opens socket found =>
    have same : (s.sockets.set socket .opened).countP ReadyState.live + 1 = s.sockets.countP ReadyState.live + 1 := setCount found rfl
    have kept : (onopen {s with sockets := s.sockets.set socket .opened}).underWay = s.underWay := by
      simp only [onopen,underWay]
      omega
    exact .inl (kept.le.trans (Nat.le_add_right _ _))
  | closes socket p found live => exact .inl ((closesUnderWay found live).trans (Nat.le_add_right _ _))
  | fires timer valid pending => exact .inl ((firesUnderWay pending valid).trans (Nat.le_add_right _ _))
  | peerFails made => exact .inl ((closePeerUnderWay s).le.trans (Nat.le_add_right _ _))

theorem scheduleNumbered (s : Connection) :
    Numbered s.reconnectAttempt s.scheduleReconnect.2 ∧
    attemptsAfter s.reconnectAttempt s.scheduleReconnect.2 = s.scheduleReconnect.1.reconnectAttempt := by
  unfold scheduleReconnect
  split
  · split
    · exact ⟨trivial,rfl⟩
    · exact ⟨trivial,rfl⟩
  · rename_i tries
    simp only [Bool.or_eq_true,decide_eq_true_eq,not_or,not_le] at tries
    exact ⟨⟨rfl,tries.2,rfl,trivial⟩,rfl⟩

theorem connectNumbered (s : Connection) (valid : Bool) (attempts : Nat) :
    Numbered attempts (s.connect valid).2 ∧ attemptsAfter attempts (s.connect valid).2 = attempts ∧
    (s.connect valid).1.reconnectAttempt = s.reconnectAttempt := by
  cases valid with
  | false => exact ⟨trivial,rfl,rfl⟩
  | true => exact ⟨trivial,rfl,rfl⟩

theorem takenNumbered {e : Event} {s' : Connection} {out : List Output} (taken : Taken s e s' out) :
    Numbered s.reconnectAttempt out ∧ attemptsAfter s.reconnectAttempt out = s'.reconnectAttempt := by
  cases taken with
  | connectClick valid enabled =>
    obtain ⟨numbered,after,same⟩ := connectNumbered s valid s.reconnectAttempt
    exact ⟨numbered,after.trans same.symm⟩
  | disconnectClick enabled => exact ⟨trivial,rfl⟩
  | opens socket found => exact ⟨trivial,rfl⟩
  | closes socket p found live =>
    simp only [onclose]
    split
    · exact scheduleNumbered {s with sockets := s.sockets.set socket .closed, disconnectDisabled := true}
    · exact ⟨trivial,rfl⟩
  | fires timer valid pending =>
    obtain ⟨numbered,after,same⟩ := connectNumbered {s with timers := s.timers.erase timer, reconnectTimer := none} valid
      s.reconnectAttempt
    exact ⟨numbered,after.trans same.symm⟩
  | peerFails made => exact ⟨trivial,rfl⟩

theorem numberedAppend (attempts : Nat) (earlier later : List Output) :
    Numbered attempts (earlier ++ later) ↔ Numbered attempts earlier ∧ Numbered (attemptsAfter attempts earlier) later := by
  induction earlier generalizing attempts with
  | nil => exact ⟨fun numbered => ⟨trivial,numbered⟩,fun numbered => numbered.2⟩
  | cons o rest ih => cases o <;> simp only [List.cons_append,Numbered,attemptsAfter,ih,and_assoc]

theorem attemptsAppend (attempts : Nat) (earlier later : List Output) :
    attemptsAfter attempts (earlier ++ later) = attemptsAfter (attemptsAfter attempts earlier) later := by
  induction earlier generalizing attempts with
  | nil => rfl
  | cons o rest ih => cases o <;> simp only [List.cons_append,attemptsAfter,ih]

inductive Mode where
  | idle
  | connecting
  | connected
  | failing
  | leaving
  | waiting
  | ended
  deriving DecidableEq

inductive In (s : Connection) : Mode → Prop where
  | idle (sockets : s.Resting) (timers : s.timers = []) (connect : s.connectDisabled = false)
    (disconnect : s.disconnectDisabled = true) : In s .idle
  | connecting (sockets : s.Newest .connecting) (ws : s.ws = some (s.sockets.length - 1)) (timers : s.timers = [])
    (meant : s.intentionalDisconnect = false) (connect : s.connectDisabled = true) (disconnect : s.disconnectDisabled = true) :
    In s .connecting
  | connected (sockets : s.Newest .opened) (ws : s.ws = some (s.sockets.length - 1)) (timers : s.timers = [])
    (meant : s.intentionalDisconnect = false) (connect : s.connectDisabled = true) (disconnect : s.disconnectDisabled = false) :
    In s .connected
  | failing (sockets : s.Newest .closing) (timers : s.timers = []) (meant : s.intentionalDisconnect = false)
    (connect : s.connectDisabled = true) : In s .failing
  | leaving (sockets : s.Newest .closing) (timers : s.timers = []) (meant : s.intentionalDisconnect = true)
    (connect : s.connectDisabled = false) (disconnect : s.disconnectDisabled = true) : In s .leaving
  | waiting (sockets : s.Resting) (timer : Nat) (timers : s.timers = [timer]) (connect : s.connectDisabled = true)
    (disconnect : s.disconnectDisabled = true) : In s .waiting
  | ended (sockets : s.Resting) (timers : s.timers = []) (connect : s.connectDisabled = true)
    (disconnect : s.disconnectDisabled = true) : In s .ended

theorem newestAt {p q : ReadyState} {socket : Nat} (newest : s.Newest p) (found : s.sockets[socket]? = some q) (live : q.live = true) :
    socket = s.sockets.length - 1 ∧ q = p := by
  obtain ⟨earlier,sockets,closed⟩ := newest
  rw [sockets] at found
  rcases Nat.lt_or_ge socket earlier.length with older | newer
  · rw [List.getElem?_append_left older] at found
    rw [closed q (List.mem_of_getElem? found)] at live
    contradiction
  · rw [List.getElem?_append_right newer,List.getElem?_singleton] at found
    split at found
    · rename_i last
      refine ⟨?_,(Option.some.inj found).symm⟩
      rw [sockets,List.length_append,List.length_singleton]
      omega
    · contradiction

theorem newestSet {p : ReadyState} (q : ReadyState) (newest : s.Newest p) :
    ∃ earlier, s.sockets.set (s.sockets.length - 1) q = earlier ++ [q] ∧ ∀ r ∈ earlier, r = .closed := by
  obtain ⟨earlier,sockets,closed⟩ := newest
  refine ⟨earlier,?_,closed⟩
  rw [sockets,List.length_append,List.length_singleton,Nat.add_sub_cancel,List.set_append_right (h := le_rfl),Nat.sub_self]
  rfl

theorem restingNone {q : ReadyState} {socket : Nat} (resting : s.Resting) (found : s.sockets[socket]? = some q) : q.live = false := by
  rw [resting q (List.mem_of_getElem? found)]
  rfl

theorem closedRests {p : ReadyState} (newest : s.Newest p) : ∀ r ∈ s.sockets.set (s.sockets.length - 1) .closed, r = .closed := by
  obtain ⟨earlier,sockets,closed⟩ := newestSet .closed newest
  rw [sockets]
  intro r mem
  rcases List.mem_append.mp mem with older | last
  · exact closed r older
  · exact List.mem_singleton.mp last

theorem closeModify (sockets : List ReadyState) (socket : Nat) (asked : ∀ p ∈ sockets, p.close = p) :
    sockets.modify socket ReadyState.close = sockets := by
  induction sockets generalizing socket with
  | nil => rw [List.modify_nil]
  | cons p rest ih =>
    obtain ⟨first,asked⟩ := List.forall_mem_cons.mp asked
    cases socket with
    | zero => rw [List.modify_zero_cons,first]
    | succ socket => rw [List.modify_succ_cons,ih socket asked]

theorem closePeerSockets (asked : ∀ p ∈ s.sockets, p.close = p) : s.closePeer.sockets = s.sockets := by
  unfold closePeer
  cases s.ws with
  | none => rfl
  | some socket => exact closeModify s.sockets socket asked

theorem closePeerRests (resting : s.Resting) : s.closePeer.Resting := by
  have same : s.closePeer.sockets = s.sockets := closePeerSockets fun p mem => by rw [resting p mem]; rfl
  unfold Resting
  rw [same]
  exact resting

theorem closePeerAgain (newest : s.Newest .closing) : s.closePeer.Newest .closing := by
  obtain ⟨earlier,sockets,closed⟩ := newest
  have asked : ∀ p ∈ s.sockets, p.close = p := by
    rw [sockets]
    refine List.forall_mem_append.mpr ⟨fun p mem => ?_,fun p mem => ?_⟩
    · rw [closed p mem]; rfl
    · rw [List.mem_singleton.mp mem]; rfl
  exact ⟨earlier,(closePeerSockets asked).trans sockets,closed⟩

theorem closeLast {earlier : List ReadyState} (p : ReadyState) (closed : ∀ q ∈ earlier, q = .closed) :
    (earlier ++ [p]).modify earlier.length ReadyState.close = earlier ++ [p.close] := by
  induction earlier with
  | nil => rfl
  | cons q rest ih => exact congrArg (q::·) (ih (List.forall_mem_cons.mp closed).2)

theorem closePeerNewest {p : ReadyState} (newest : s.Newest p) (closes : p.close = .closing)
    (ws : s.ws = some (s.sockets.length - 1)) : s.closePeer.Newest .closing := by
  obtain ⟨earlier,sockets,closed⟩ := newest
  refine ⟨earlier,?_,closed⟩
  have last : s.sockets.length - 1 = earlier.length := by rw [sockets,List.length_append,List.length_singleton,Nat.add_sub_cancel]
  simp only [closePeer,ws,last]
  rw [sockets,closeLast p closed,closes]

theorem endedLast (trace : List Output) (o : Output) :
    Ended (trace ++ [o]) ↔ o = .gaveUp ∨ o = .refused ∧ [.fired] <:+ trace := by
  unfold Ended
  constructor
  · rintro (last | last)
    · exact .inl (List.singleton_suffix_append_singleton_iff.mp last).symm
    · rcases List.suffix_concat_iff.mp last with absurd | ⟨before,ends,kept⟩
      · contradiction
      · have ends : [Output.fired] ++ [Output.refused] = before ++ [o] := ends
        obtain ⟨rfl,same⟩ := List.append_inj' ends rfl
        exact .inr ⟨(List.singleton_inj.mp same).symm,kept⟩
  · rintro (rfl | ⟨rfl,before⟩)
    · exact .inl (List.suffix_append trace [.gaveUp])
    · exact .inr (List.suffix_concat_iff.mpr (.inr ⟨[.fired],rfl,before⟩))

def Moves (m : Mode) (s' : Connection) (out : List Output) : Prop :=
  ∃ m', In s' m' ∧ ∀ trace, (m = .ended ↔ Ended trace) → (m' = .ended ↔ Ended (trace ++ out))

theorem movesQuietly {m m' : Mode} {s' : Connection} (mode : In s' m') (same : m' = .ended ↔ m = .ended) : Moves m s' [] :=
  ⟨m',mode,fun trace told => by rw [List.append_nil,same,told]⟩

theorem movesTo {m m' : Mode} {s' : Connection} {o : Output} (mode : In s' m') (ends : m' = .ended ↔ o = .gaveUp) (taken : o ≠ .refused) :
    Moves m s' [o] := by
  refine ⟨m',mode,fun trace told => ?_⟩
  rw [endedLast,ends]
  exact ⟨.inl,fun last => last.elim id fun refused => (taken refused.1).elim⟩

theorem connectMoves {m : Mode} {first : Output} (sockets : s.Resting) (timers : s.timers = [])
    (disconnect : s.disconnectDisabled = true) (pressed : s.connectDisabled = true ↔ first = .fired) (valid : Bool) :
    Moves m (s.connect valid).1 (first::(s.connect valid).2) := by
  cases valid with
  | false =>
    have ends (trace : List Output) : Ended (trace ++ [first,.refused]) ↔ s.connectDisabled = true := by
      rw [List.append_cons,endedLast,List.singleton_suffix_append_singleton_iff,pressed]
      exact ⟨fun last => last.elim (fun absurd => by contradiction) fun refused => refused.2.symm,fun fired => .inr ⟨rfl,fired.symm⟩⟩
    cases connect : s.connectDisabled with
    | false =>
      refine ⟨.idle,.idle sockets timers connect disconnect,fun trace told => ?_⟩
      exact iff_of_false (by decide) fun ended => by
        rw [(ends trace).mp ended] at connect
        contradiction
    | true => exact ⟨.ended,.ended sockets timers connect disconnect,fun trace told => iff_of_true rfl ((ends trace).mpr connect)⟩
  | true =>
    refine ⟨.connecting,.connecting ⟨s.sockets,rfl,sockets⟩ ?_ timers rfl rfl disconnect,fun trace told => iff_of_false (by decide) ?_⟩
    · change some s.sockets.length = some ((s.sockets ++ [ReadyState.connecting]).length - 1)
      rw [List.length_append,List.length_singleton,Nat.add_sub_cancel]
    · change ¬Ended (trace ++ [first,.created])
      rw [List.append_cons,endedLast]
      exact fun last => last.elim (fun absurd => by contradiction) fun refused => by cases refused.1

theorem scheduleMoves {m : Mode} (sockets : s.Resting) (timers : s.timers = []) (meant : s.intentionalDisconnect = false)
    (connect : s.connectDisabled = true) (disconnect : s.disconnectDisabled = true) :
    Moves m s.scheduleReconnect.1 s.scheduleReconnect.2 := by
  unfold scheduleReconnect
  split
  · rename_i last
    rw [meant,Bool.false_or,decide_eq_true_eq] at last
    rw [if_pos last]
    exact movesTo (.ended sockets timers connect disconnect) (iff_of_true rfl rfl) (by decide)
  · refine movesTo (.waiting sockets s.nextTimer ?_ connect disconnect) (iff_of_false (by decide) fun absurd => by cases absurd)
      fun absurd => by cases absurd
    exact congrArg (· ++ [s.nextTimer]) timers

theorem closesMoves {m : Mode} {socket : Nat} {p : ReadyState} (mode : In s m) (found : s.sockets[socket]? = some p)
    (live : p.live = true) : Moves m {s with sockets := s.sockets.set socket .closed}.onclose.1
      {s with sockets := s.sockets.set socket .closed}.onclose.2 := by
  have lost {q : ReadyState} (newest : s.Newest q) (timers : s.timers = []) (meant : s.intentionalDisconnect = false)
      (connect : s.connectDisabled = true) : Moves m {s with sockets := s.sockets.set socket .closed}.onclose.1
        {s with sockets := s.sockets.set socket .closed}.onclose.2 := by
    obtain ⟨rfl,-⟩ := newestAt newest found live
    simp only [onclose,meant,Bool.not_false,ite_true]
    exact scheduleMoves (closedRests newest) timers rfl connect rfl
  cases mode with
  | connecting sockets ws timers meant connect disconnect => exact lost sockets timers meant connect
  | connected sockets ws timers meant connect disconnect => exact lost sockets timers meant connect
  | failing sockets timers meant connect => exact lost sockets timers meant connect
  | leaving sockets timers meant connect disconnect =>
    obtain ⟨rfl,-⟩ := newestAt sockets found live
    simp only [onclose,meant,Bool.not_true,Bool.false_eq_true,ite_false]
    exact movesQuietly (.idle (closedRests sockets) timers rfl rfl) (by decide)
  | idle sockets => rw [restingNone sockets found] at live; contradiction
  | waiting sockets => rw [restingNone sockets found] at live; contradiction
  | ended sockets => rw [restingNone sockets found] at live; contradiction

theorem opensMoves {m : Mode} {socket : Nat} (mode : In s m) (found : s.sockets[socket]? = some .connecting) :
    Moves m {s with sockets := s.sockets.set socket .opened}.onopen [.opened] := by
  cases mode with
  | connecting sockets ws timers meant connect disconnect =>
    obtain ⟨rfl,-⟩ := newestAt sockets found rfl
    refine movesTo (.connected (newestSet .opened sockets) ?_ timers meant connect rfl) (by decide) (by decide)
    change s.ws = some ((s.sockets.set (s.sockets.length - 1) .opened).length - 1)
    rw [List.length_set,ws]
  | connected sockets => obtain ⟨-,absurd⟩ := newestAt sockets found rfl; contradiction
  | failing sockets => obtain ⟨-,absurd⟩ := newestAt sockets found rfl; contradiction
  | leaving sockets => obtain ⟨-,absurd⟩ := newestAt sockets found rfl; contradiction
  | idle sockets => exact absurd (restingNone sockets found) (by decide)
  | waiting sockets => exact absurd (restingNone sockets found) (by decide)
  | ended sockets => exact absurd (restingNone sockets found) (by decide)

theorem modeDisconnects {m : Mode} (mode : In s m) (enabled : s.disconnectDisabled = false) : m = .connected ∨ m = .failing := by
  cases mode with
  | connected => exact .inl rfl
  | failing => exact .inr rfl
  | connecting sockets ws timers meant connect disconnect => rw [enabled] at disconnect; contradiction
  | leaving sockets timers meant connect disconnect => rw [enabled] at disconnect; contradiction
  | idle sockets timers connect disconnect => rw [enabled] at disconnect; contradiction
  | waiting sockets timer timers connect disconnect => rw [enabled] at disconnect; contradiction
  | ended sockets timers connect disconnect => rw [enabled] at disconnect; contradiction

theorem disconnectMoves {m : Mode} (mode : In s m) (enabled : s.disconnectDisabled = false) : Moves m s.disconnect [.disconnected] := by
  have leaves (newest : (cancelReconnect {s with intentionalDisconnect := true}).closePeer.Newest .closing) (timers : s.timers = []) :
      Moves m s.disconnect [.disconnected] := by
    have cancelled : s.disconnect.timers = [] := by
      simp only [disconnect,closePeer,cancelReconnect,timers]
      cases s.reconnectTimer <;> rfl
    exact movesTo (.leaving newest cancelled rfl rfl rfl) (by decide) (by decide)
  rcases modeDisconnects mode enabled with rfl | rfl
  · cases mode with | connected sockets ws timers => exact leaves (closePeerNewest sockets rfl ws) timers
  · cases mode with | failing sockets timers => exact leaves (closePeerAgain sockets) timers

theorem peerFailsMoves {m : Mode} (mode : In s m) : Moves m s.closePeer [] := by
  cases mode with
  | connecting sockets ws timers meant connect disconnect =>
    exact movesQuietly (.failing (closePeerNewest sockets rfl ws) timers meant connect) (by decide)
  | connected sockets ws timers meant connect disconnect =>
    exact movesQuietly (.failing (closePeerNewest sockets rfl ws) timers meant connect) (by decide)
  | failing sockets timers meant connect => exact movesQuietly (.failing (closePeerAgain sockets) timers meant connect) Iff.rfl
  | leaving sockets timers meant connect disconnect =>
    exact movesQuietly (.leaving (closePeerAgain sockets) timers meant connect disconnect) Iff.rfl
  | idle sockets timers connect disconnect => exact movesQuietly (.idle (closePeerRests sockets) timers connect disconnect) Iff.rfl
  | waiting sockets timer timers connect disconnect =>
    exact movesQuietly (.waiting (closePeerRests sockets) timer timers connect disconnect) Iff.rfl
  | ended sockets timers connect disconnect => exact movesQuietly (.ended (closePeerRests sockets) timers connect disconnect) Iff.rfl

theorem modeUnderWay {m : Mode} (mode : In s m) : s.underWay = if m = .idle ∨ m = .ended then 0 else 1 := by
  unfold underWay
  cases mode with
  | idle sockets timers => rw [closedCount sockets,timers]; rfl
  | ended sockets timers => rw [closedCount sockets,timers]; rfl
  | waiting sockets timer timers => rw [closedCount sockets,timers]; rfl
  | connecting sockets ws timers => rw [newestCount sockets rfl,timers]; rfl
  | connected sockets ws timers => rw [newestCount sockets rfl,timers]; rfl
  | failing sockets timers => rw [newestCount sockets rfl,timers]; rfl
  | leaving sockets timers => rw [newestCount sockets rfl,timers]; rfl

theorem modeEnabled {m : Mode} (mode : In s m) (enabled : s.connectDisabled = false) (alone : s.underWay = 0) :
    s.Resting ∧ s.timers = [] ∧ s.disconnectDisabled = true := by
  cases mode with
  | idle sockets timers connect disconnect => exact ⟨sockets,timers,disconnect⟩
  | leaving sockets timers meant connect disconnect =>
    rw [modeUnderWay (.leaving sockets timers meant connect disconnect)] at alone
    contradiction
  | connecting sockets ws timers meant connect disconnect => rw [enabled] at connect; contradiction
  | connected sockets ws timers meant connect disconnect => rw [enabled] at connect; contradiction
  | failing sockets timers meant connect => rw [enabled] at connect; contradiction
  | waiting sockets timer timers connect disconnect => rw [enabled] at connect; contradiction
  | ended sockets timers connect disconnect => rw [enabled] at connect; contradiction

theorem modeMoves {m : Mode} {e : Event} {s' : Connection} {out : List Output} (mode : In s m) (taken : Taken s e s' out)
    (calm : out.countP early = 0) : Moves m s' out := by
  cases taken with
  | connectClick valid enabled =>
    have alone : s.underWay = 0 := by
      have never := List.countP_eq_zero.mp calm _ List.mem_cons_self
      simpa only [early,decide_eq_true_eq,Nat.pos_iff_ne_zero,ne_eq,not_not] using never
    obtain ⟨sockets,timers,disconnect⟩ := modeEnabled mode enabled alone
    exact connectMoves sockets timers disconnect (iff_of_false (by rw [enabled]; decide) fun absurd => by cases absurd) valid
  | disconnectClick enabled => exact disconnectMoves mode enabled
  | opens socket found => exact opensMoves mode found
  | closes socket p found live => exact closesMoves mode found live
  | fires timer valid pending =>
    cases mode with
    | waiting sockets only timers connect disconnect =>
      rw [timers,List.mem_singleton] at pending
      subst pending
      refine connectMoves (s := {s with timers := s.timers.erase timer, reconnectTimer := none}) sockets ?_ disconnect
        (iff_of_true connect rfl) valid
      change s.timers.erase timer = []
      rw [timers,List.erase_cons_head]
    | idle sockets timers => rw [timers] at pending; cases pending
    | ended sockets timers => rw [timers] at pending; cases pending
    | connecting sockets ws timers => rw [timers] at pending; cases pending
    | connected sockets ws timers => rw [timers] at pending; cases pending
    | failing sockets timers => rw [timers] at pending; cases pending
    | leaving sockets timers => rw [timers] at pending; cases pending
  | peerFails made => exact peerFailsMoves mode

structure Kept (s : Connection) (trace : List Output) : Prop where
  underWay : s.underWay ≤ 1 + trace.countP early
  numbered : Numbered 0 trace
  attempts : attemptsAfter 0 trace = s.reconnectAttempt
  mode : trace.countP early = 0 → ∃ m, In s m ∧ (m = .ended ↔ Ended trace)

theorem keptStart : Kept .init [] where
  underWay := by decide
  numbered := trivial
  attempts := rfl
  mode _ := by
    refine ⟨.idle,.idle (fun p absent => by cases absent) rfl rfl rfl,iff_of_false (by decide) ?_⟩
    exact fun last => last.elim (fun absurd => by cases List.suffix_nil.mp absurd) fun absurd => by cases List.suffix_nil.mp absurd

theorem keptNext {e : Event} {s' : Connection} {out : List Output} (kept : Kept s trace) (taken : Taken s e s' out) :
    Kept s' (trace ++ out) where
  underWay := by
    have before := kept.underWay
    rw [List.countP_append]
    rcases takenUnderWay taken with grown | one
    · omega
    · omega
  numbered := (numberedAppend 0 trace out).mpr ⟨kept.numbered,kept.attempts ▸ (takenNumbered taken).1⟩
  attempts := by rw [attemptsAppend,kept.attempts,(takenNumbered taken).2]
  mode calm := by
    rw [List.countP_append,Nat.add_eq_zero_iff] at calm
    obtain ⟨m,mode,told⟩ := kept.mode calm.1
    obtain ⟨m',mode',next⟩ := modeMoves mode taken calm.2
    exact ⟨m',mode',next trace told⟩

theorem keptRun (run : Machine.Reaches reconnecting s trace) : Kept s trace :=
  Machine.runInvariant Kept keptStart (fun kept _ ok => keptNext kept (stepTaken ok)) run

theorem modeReached {m : Mode} {socket : Nat} {p : ReadyState} (mode : In s m) (found : s.sockets[socket]? = some p)
    (opens : p = .connecting ∨ p = .opened) : s.ws = some socket := by
  have live : p.live = true := by rcases opens with rfl | rfl <;> rfl
  have asked {q : ReadyState} (newest : s.Newest q) (closing : q = .closing) : False := by
    obtain ⟨-,rfl⟩ := newestAt newest found live
    rcases opens with rfl | rfl <;> cases closing
  cases mode with
  | connecting sockets ws => rw [ws,(newestAt sockets found live).1]
  | connected sockets ws => rw [ws,(newestAt sockets found live).1]
  | failing sockets => exact (asked sockets rfl).elim
  | leaving sockets => exact (asked sockets rfl).elim
  | idle sockets => rw [restingNone sockets found] at live; contradiction
  | waiting sockets => rw [restingNone sockets found] at live; contradiction
  | ended sockets => rw [restingNone sockets found] at live; contradiction

theorem modeButtons {m : Mode} (mode : In s m) (enabled : s.disconnectDisabled = false) :
    s.connectDisabled = true ∧ s.timers = [] ∧ s.underWay = 1 := by
  have counted := modeUnderWay mode
  rcases modeDisconnects mode enabled with rfl | rfl
  · cases mode with | connected sockets ws timers meant connect => exact ⟨connect,timers,counted⟩
  · cases mode with | failing sockets timers meant connect => exact ⟨connect,timers,counted⟩

theorem modeEnded {m : Mode} (mode : In s m) : m = .ended ↔ s.underWay = 0 ∧ s.connectDisabled = true := by
  rw [modeUnderWay mode]
  cases mode with
  | ended sockets timers connect => exact iff_of_true rfl ⟨rfl,connect⟩
  | idle sockets timers connect => exact iff_of_false (by decide) fun both => by rw [connect] at both; cases both.2
  | connecting | connected | failing | leaving | waiting => exact iff_of_false (by decide) fun both => by cases both.1

theorem oneConnection (run : Machine.Reaches reconnecting s trace) :
    Numbered 0 trace ∧ s.underWay ≤ 1 + trace.countP early ∧
    (trace.countP early = 0 →
      (∀ socket p, s.sockets[socket]? = some p → p = .connecting ∨ p = .opened → s.ws = some socket) ∧
      (s.disconnectDisabled = false → s.connectDisabled = true ∧ s.timers = [] ∧ s.underWay = 1)) := by
  have kept := keptRun run
  refine ⟨kept.numbered,kept.underWay,fun calm => ?_⟩
  obtain ⟨m,mode,-⟩ := kept.mode calm
  exact ⟨fun socket p found opens => modeReached mode found opens,modeButtons mode⟩

def pressedEarly : List Event :=
  [.connectClick true,.opens 0,.disconnectClick,.connectClick true,.closes 0,.opens 1,.fires 0 true,.opens 2]

def lostAndBack : List Event := [.connectClick true,.opens 0,.peerFails,.closes 0,.fires 0 true,.opens 1]

theorem secondConnection :
    (∃ s trace, Machine.Reaches reconnecting s trace ∧ s.sockets = [.closed,.opened,.opened] ∧ s.ws = some 2 ∧
      trace.countP early = 1 ∧ s.underWay ≤ 1 + trace.countP early) ∧
    ∃ s trace, Machine.Reaches reconnecting s trace ∧ .scheduled 1 1000 ∈ trace ∧ s.sockets = [.closed,.opened] ∧ s.ws = some 1 ∧
      s.connectDisabled = true ∧ s.timers = [] ∧ s.underWay = 1 := by
  constructor
  · obtain ⟨s,trace,run,reached⟩ := Machine.execWitness reconnecting pressedEarly
      (fun s trace => decide (s.sockets = [.closed,.opened,.opened] ∧ s.ws = some 2 ∧ trace.countP early = 1)) (by decide)
    obtain ⟨sockets,ws,presses⟩ := of_decide_eq_true reached
    exact ⟨s,trace,run,sockets,ws,presses,(oneConnection run).2.1⟩
  · obtain ⟨s,trace,run,reached⟩ := Machine.execWitness reconnecting lostAndBack
      (fun s trace => decide (.scheduled 1 1000 ∈ trace ∧ s.sockets = [.closed,.opened] ∧ trace.countP early = 0 ∧
        s.disconnectDisabled = false)) (by decide)
    obtain ⟨tried,sockets,calm,enabled⟩ := of_decide_eq_true reached
    obtain ⟨ws,button⟩ := (oneConnection run).2.2 calm
    exact ⟨s,trace,run,tried,sockets,ws 1 .opened (by rw [sockets]; rfl) (.inr rfl),button enabled⟩

theorem endedTaken {e : Event} {s' : Connection} {out : List Output} (mode : In s .ended) (taken : Taken s e s' out) :
    out = [] ∧ In s' .ended := by
  cases mode with | ended sockets timers connect disconnect =>
  cases taken with
  | peerFails made => exact ⟨rfl,.ended (closePeerRests sockets) timers connect disconnect⟩
  | connectClick valid enabled => rw [connect] at enabled; contradiction
  | disconnectClick enabled => rw [disconnect] at enabled; contradiction
  | opens socket found => exact absurd (restingNone sockets found) (by decide)
  | closes socket p found live => rw [restingNone sockets found] at live; contradiction
  | fires timer valid pending => rw [timers] at pending; cases pending

theorem endedExec (events : List Event) {s' : Connection} {trace' : List Output} (mode : In s .ended)
    (ok : Machine.exec reconnecting s trace events = some (s',trace')) : trace' = trace ∧ In s' .ended := by
  induction events generalizing s trace with
  | nil =>
    simp only [Machine.exec,Option.some.injEq,Prod.mk.injEq] at ok
    obtain ⟨rfl,rfl⟩ := ok
    exact ⟨rfl,mode⟩
  | cons e rest ih =>
    simp only [Machine.exec] at ok
    split at ok
    · contradiction
    · rename_i taken
      obtain ⟨rfl,mode⟩ := endedTaken mode (stepTaken taken)
      rw [List.append_nil] at ok
      exact ih mode ok

theorem triesUntilEnded (run : Machine.Reaches reconnecting s trace) (calm : trace.countP early = 0) :
    (Ended trace ↔ s.underWay = 0 ∧ s.connectDisabled = true) ∧
    (Ended trace → ∀ events s' trace', Machine.exec reconnecting s trace events = some (s',trace') →
      trace' = trace ∧ s'.connectDisabled = true ∧ s'.disconnectDisabled = true ∧ s'.underWay = 0) := by
  obtain ⟨m,mode,told⟩ := (keptRun run).mode calm
  refine ⟨told.symm.trans (modeEnded mode),fun ended events s' trace' ok => ?_⟩
  obtain rfl := told.mpr ended
  obtain ⟨same,mode'⟩ := endedExec events mode ok
  obtain ⟨nothing,connect⟩ := (modeEnded mode').mp rfl
  cases mode' with
  | ended _ _ _ disconnect => exact ⟨same,connect,disconnect,nothing⟩

def serverDown : List Event :=
  .connectClick true::(List.range maxReconnectAttempts).flatMap (fun i => [.closes i,.fires i true]) ++ [.closes maxReconnectAttempts]

theorem stuckAfterTwenty : ∃ s trace, Machine.Reaches reconnecting s trace ∧ .scheduled 20 15000 ∈ trace ∧ Ended trace ∧
    s.connectDisabled = true ∧ s.disconnectDisabled = true ∧ s.underWay = 0 := by
  obtain ⟨s,trace,run,reached⟩ := Machine.execWitness reconnecting serverDown
    (fun s trace => decide (.scheduled 20 15000 ∈ trace ∧ trace.countP early = 0 ∧ trace.getLast? = some .gaveUp)) (by decide +kernel)
  obtain ⟨tried,calm,last⟩ := of_decide_eq_true reached
  have ended : Ended trace := .inl (List.singleton_suffix_iff_getLast?_eq_some.mpr last)
  have stuck := (triesUntilEnded run calm).2 ended [] s trace rfl
  exact ⟨s,trace,run,tried,ended,stuck.2⟩

end Connection
end Vscreen.Viewer
