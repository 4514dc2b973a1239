import Vscreen.CdpKeyboard
import Vscreen.CdpMouse
import Vscreen.Machine

/-! Input events on their way from the peers to Chrome: the input channel (data_channel.rs),
the relay task with the cursor (supervisor.rs), the request channel and the write loop of
each connection (client.rs). -/
namespace Vscreen.Input
open Cdp (KeyInput DispatchMouseEventParams DispatchKeyEventParams)

inductive InputEvent where
  | mouse (e : Cdp.InputEvent)
  | key (e : KeyInput)
  | paste (text : Text)
  | bitrateHint (kbps : UInt32)
  deriving DecidableEq

inductive CdpRequest where
  | dispatchMouseEvent (params : DispatchMouseEventParams)
  | dispatchKeyEvent (params : DispatchKeyEventParams)
  | insertText (text : Text)
  | evaluate (expression : Text)
  deriving DecidableEq

def inputToCdp : InputEvent → Option CdpRequest
  | .mouse e => some (.dispatchMouseEvent (Cdp.inputToCdp e))
  | .key e => (Cdp.inputToKeyParams e).map .dispatchKeyEvent
  | .paste text => some (.insertText text)
  | .bitrateHint _ => some (.evaluate "void 0".toList)

def asI32 (x : ℚ) : Int32 :=
  .ofInt (max (-2147483648) (min 2147483647 (x.num.tdiv x.den)))

namespace CursorPosition

def pack (x y : Int32) : UInt64 := (x.toUInt32.toUInt64 <<< 32) ||| y.toUInt32.toUInt64

def unpack (v : UInt64) : Int32 × Int32 := ((v >>> 32).toUInt32.toInt32,v.toUInt32.toInt32)

end CursorPosition

def position : InputEvent → Option (ℚ × ℚ)
  | .mouse (.mouseMove x y _ _) => some (x,y)
  | .mouse (.mouseDown x y _ _) => some (x,y)
  | .mouse (.mouseUp x y _ _) => some (x,y)
  | .mouse (.wheel x y _ _ _) => some (x,y)
  | _ => none

def update (cursor : UInt64) (event : InputEvent) : UInt64 := match position event with
  | none => cursor
  | some (x,y) => CursorPosition.pack (asI32 x) (asI32 y)

inductive Queued where
  | input (request : CdpRequest)
  | other
  deriving DecidableEq

structure Connection where
  queue : List Queued
  writing : Bool
  wire : List Queued
  deriving DecidableEq

structure Relay where
  inputs : List InputEvent
  held : Option InputEvent
  cursor : UInt64
  earlier : List Connection
  current : Connection
  deriving DecidableEq

inductive Event where
  | deliver (event : InputEvent)
  | relay
  | dispatch
  | request (connection : Option Nat)
  | write (connection : Option Nat)
  | writeFails (connection : Option Nat)
  | connect

inductive Output where
  | delivered (event : InputEvent)
  | relayed (event : InputEvent)
  | hinted (kbps : UInt32)
  | lost (event : InputEvent)
  deriving DecidableEq

namespace Connection

def fresh : Connection := ⟨[],true,[]⟩

def push (c : Connection) (r : Queued) : Option Connection :=
  if c.writing = true ∧ c.queue.length < 64 then some {c with queue := c.queue ++ [r]} else none

def write (c : Connection) : Option Connection := match c.writing,c.queue with
  | true,r::rest => some {c with queue := rest, wire := c.wire ++ [r]}
  | _,_ => none

def fail (c : Connection) : Option Connection := if c.writing = true then some ⟨[],false,c.wire⟩ else none

end Connection

namespace Relay

def onConnection (s : Relay) (f : Connection → Option Connection) : Option Nat → Option Relay
  | none => (f s.current).map fun c => {s with current := c}
  | some n => match s.earlier[n]? with
    | none => none
    | some c => (f c).map fun c => {s with earlier := s.earlier.set n c}

-- The relay takes an event; the cursor moves before the event is dispatched.
def take (s : Relay) (event : InputEvent) (rest : List InputEvent) : Relay × List Output := match event with
  | .bitrateHint kbps => ({s with inputs := rest},[.hinted kbps])
  | event => ({s with inputs := rest, held := some event, cursor := update s.cursor event},[.relayed event])

def dispatchInput (s : Relay) (event : InputEvent) : Option (Relay × List Output) :=
  if s.current.writing = true then match inputToCdp event with
    | none => none
    | some request => (s.current.push (.input request)).map fun c => ({s with held := none, current := c},[])
  else some ({s with held := none},[.lost event])

def step (s : Relay) : Event → Option (Relay × List Output)
  | .deliver event => some (if s.inputs.length < 100 then {s with inputs := s.inputs ++ [event]} else s,[.delivered event])
  | .relay => match s.held,s.inputs with
    | none,event::rest => some (s.take event rest)
    | _,_ => none
  | .dispatch => match s.held with
    | none => none
    | some event => s.dispatchInput event
  | .request n => (s.onConnection (·.push .other) n).map (·,[])
  | .write n => (s.onConnection (·.write) n).map (·,[])
  | .writeFails n => (s.onConnection (·.fail) n).map (·,[])
  | .connect => some ({s with earlier := s.earlier ++ [s.current], current := .fresh},[])

end Relay

def machine : Machine Relay Event Output where
  init := ⟨[],none,CursorPosition.pack 0 0,[],⟨[],false,[]⟩⟩
  step := Relay.step

theorem unpackPack (x y : Int32) : CursorPosition.unpack (CursorPosition.pack x y) = (x,y) := by
  have high := x.toUInt32.toNat_lt
  have low := y.toUInt32.toNat_lt
  have packed : (CursorPosition.pack x y).toNat = x.toUInt32.toNat * 2^32 + y.toUInt32.toNat := by
    have shifted : (x.toUInt32.toUInt64 <<< 32).toNat = x.toUInt32.toNat <<< 32 := by
      rw [UInt64.toNat_shiftLeft,UInt32.toNat_toUInt64]
      exact Nat.mod_eq_of_lt (by rw [Nat.shiftLeft_eq]; change _ * 2^32 < 2^64; omega)
    rw [CursorPosition.pack,UInt64.toNat_or,shifted,UInt32.toNat_toUInt64,
      ← Nat.shiftLeft_add_eq_or_of_lt low,Nat.shiftLeft_eq]
  have upper : ((CursorPosition.pack x y) >>> 32).toUInt32 = x.toUInt32 := by
    apply UInt32.toNat_inj.mp
    rw [UInt64.toNat_toUInt32,UInt64.toNat_shiftRight,packed]
    change ((x.toUInt32.toNat * 2^32 + y.toUInt32.toNat) >>> 32) % 2^32 = _
    rw [Nat.shiftRight_eq_div_pow]
    omega
  have lower : (CursorPosition.pack x y).toUInt32 = y.toUInt32 := by
    apply UInt32.toNat_inj.mp
    rw [UInt64.toNat_toUInt32,packed]
    omega
  rw [CursorPosition.unpack,upper,lower]
  rfl

def Queued.input? : Queued → Option CdpRequest
  | .input request => some request
  | .other => none

def dispatched : InputEvent → Option CdpRequest
  | .bitrateHint _ => none
  | event => inputToCdp event

def Connection.received (c : Connection) : List CdpRequest := c.wire.filterMap Queued.input?

def Connection.contents (c : Connection) : List CdpRequest := (c.wire ++ c.queue).filterMap Queued.input?

namespace Relay

def connections (s : Relay) : List Connection := s.earlier ++ [s.current]

/-- The input requests that Chrome got, connection by connection: an earlier one may
still write when a later one has begun to. -/
def received (s : Relay) : List CdpRequest := s.connections.flatMap Connection.received

def sentOn (s : Relay) : List CdpRequest := s.connections.flatMap Connection.contents

def taken (s : Relay) : List CdpRequest := s.sentOn ++ s.held.toList.filterMap dispatched

def Proper (s : Relay) : Prop := ∀ event, s.held = some event → dispatched event = inputToCdp event

end Relay

def deliveredOf : Output → Option InputEvent
  | .delivered event => some event
  | _ => none

def relayedOf : Output → Option InputEvent
  | .relayed event => some event
  | _ => none

def delivered (trace : List Output) : List InputEvent := trace.filterMap deliveredOf

def relayed (trace : List Output) : List InputEvent := trace.filterMap relayedOf

/-- There is room for what is delivered, and connections are neither down nor lost while requests wait. -/
def Lossless (s : Relay) : Event → Prop
  | .deliver _ => s.inputs.length < 100
  | .dispatch => s.current.writing = true
  | .writeFails none => s.current.queue = []
  | .writeFails (some n) => ∀ c, s.earlier[n]? = some c → c.queue = []
  | _ => True

theorem receivedContents (c : Connection) : c.received.Sublist c.contents := by
  rw [Connection.received,Connection.contents]
  exact (List.sublist_append_left _ _).filterMap _

theorem flatMapSublist {α β : Type} {f g : α → List β} (each : ∀ x, (f x).Sublist (g x)) (xs : List α) :
    (xs.flatMap f).Sublist (xs.flatMap g) := by
  induction xs with
  | nil => exact List.Sublist.refl _
  | cons x xs ih =>
    rw [List.flatMap_cons,List.flatMap_cons]
    exact (each x).append ih

theorem setSublist {α β : Type} {f : α → List β} {xs : List α} {n : Nat} {x y : α} (there : xs[n]? = some x)
    (less : (f y).Sublist (f x)) : ((xs.set n y).flatMap f).Sublist (xs.flatMap f) := by
  induction xs generalizing n with
  | nil => cases there
  | cons first rest ih =>
    cases n with
    | zero =>
      cases there
      rw [List.set_cons_zero,List.flatMap_cons,List.flatMap_cons]
      exact less.append_right _
    | succ n =>
      rw [List.set_cons_succ,List.flatMap_cons,List.flatMap_cons]
      exact (ih there).append_left _

theorem setSame {α β : Type} {f : α → List β} {xs : List α} {n : Nat} {x y : α} (there : xs[n]? = some x) (same : f y = f x) :
    (xs.set n y).flatMap f = xs.flatMap f := by
  induction xs generalizing n with
  | nil => cases there
  | cons first rest ih =>
    cases n with
    | zero =>
      cases there
      rw [List.set_cons_zero,List.flatMap_cons,List.flatMap_cons,same]
    | succ n => rw [List.set_cons_succ,List.flatMap_cons,List.flatMap_cons,ih there]

section Steps
variable {s s' : Relay} {c c' : Connection} {trace out : List Output}

theorem pushContents {r : Queued} (pushed : c.push r = some c') : c'.contents = c.contents ++ r.input?.toList := by
  simp only [Connection.push] at pushed
  split at pushed
  · cases pushed
    simp only [Connection.contents,← List.append_assoc,List.filterMap_append]
    cases r with
    | input request => rfl
    | other => rfl
  · cases pushed

theorem writeContents (written : c.write = some c') : c'.contents = c.contents := by
  simp only [Connection.write] at written
  split at written
  · rename_i r rest running queued
    cases written
    simp only [Connection.contents,queued,List.append_assoc,List.singleton_append]
  · cases written

theorem failContents (failed : c.fail = some c') : c'.contents.Sublist c.contents ∧ (c.queue = [] → c'.contents = c.contents) := by
  simp only [Connection.fail] at failed
  split at failed
  · cases failed
    refine ⟨?_,fun empty => ?_⟩
    · simp only [Connection.contents,List.append_nil]
      exact (List.sublist_append_left _ _).filterMap _
    · simp only [Connection.contents,empty]
  · cases failed

theorem sentOnCurrent (c : Connection) : ({s with current := c} : Relay).sentOn = s.earlier.flatMap Connection.contents ++ c.contents := by
  simp only [Relay.sentOn,Relay.connections,List.flatMap_append,List.flatMap_cons,List.flatMap_nil,List.append_nil]

theorem connectionStep {f : Connection → Option Connection} {n : Option Nat} {whole : Prop}
    (less : ∀ c c', f c = some c' → c'.contents.Sublist c.contents)
    (kept : whole → ∀ c c', f c = some c' → (n = none → c = s.current) → (∀ m, n = some m → s.earlier[m]? = some c) →
      c'.contents = c.contents) (done : s.onConnection f n = some s') :
    s'.held = s.held ∧ s'.inputs = s.inputs ∧ s'.cursor = s.cursor ∧
      s'.sentOn.Sublist s.sentOn ∧ (whole → s'.sentOn = s.sentOn) := by
  cases n with
  | none =>
    obtain ⟨c,changed,rfl⟩ := Option.map_eq_some_iff.mp done
    have before : s.sentOn = s.earlier.flatMap Connection.contents ++ s.current.contents := sentOnCurrent s.current
    refine ⟨rfl,rfl,rfl,?_,fun holds => ?_⟩
    · rw [sentOnCurrent,before]
      exact (less _ _ changed).append_left _
    · rw [sentOnCurrent,before,kept holds _ _ changed (fun _ => rfl) (fun m absurd => by cases absurd)]
  | some n =>
    simp only [Relay.onConnection] at done
    split at done
    · cases done
    · rename_i c there
      obtain ⟨c',changed,rfl⟩ := Option.map_eq_some_iff.mp done
      refine ⟨rfl,rfl,rfl,?_,fun holds => ?_⟩
      · simp only [Relay.sentOn,Relay.connections,List.flatMap_append]
        exact (setSublist there (less _ _ changed)).append_right _
      · have same := kept holds _ _ changed (fun absurd => by cases absurd) (fun m this => by cases this; exact there)
        simp only [Relay.sentOn,Relay.connections,List.flatMap_append,setSame there same]

theorem takeCases (s : Relay) (event : InputEvent) (rest : List InputEvent) :
    (∃ kbps, event = .bitrateHint kbps ∧ s.take event rest = ({s with inputs := rest},[.hinted kbps])) ∨
      (dispatched event = inputToCdp event ∧
        s.take event rest = ({s with inputs := rest, held := some event, cursor := update s.cursor event},[.relayed event])) := by
  cases event with
  | bitrateHint kbps => exact .inl ⟨kbps,rfl,rfl⟩
  | _ => exact .inr ⟨rfl,rfl⟩

inductive Went (s : Relay) (whole : Prop) : Relay → List Output → Prop where
  | deliver {event : InputEvent} {inputs : List InputEvent} (less : inputs.Sublist (s.inputs ++ [event]))
      (kept : whole → inputs = s.inputs ++ [event]) : Went s whole {s with inputs := inputs} [.delivered event]
  | hint {kbps : UInt32} {rest : List InputEvent} (first : s.inputs = .bitrateHint kbps::rest) :
      Went s whole {s with inputs := rest} [.hinted kbps]
  | take {event : InputEvent} {rest : List InputEvent} (idle : s.held = none) (first : s.inputs = event::rest)
      (proper : dispatched event = inputToCdp event) :
      Went s whole {s with inputs := rest, held := some event, cursor := update s.cursor event} [.relayed event]
  | onward {s' : Relay} {out : List Output} (inputs : s'.inputs = s.inputs) (cursor : s'.cursor = s.cursor)
      (held : s'.held = s.held ∨ s'.held = none) (less : s'.taken.Sublist s.taken) (kept : whole → s'.taken = s.taken)
      (silent : delivered out = [] ∧ relayed out = []) : Went s whole s' out

theorem connectionWent {f : Connection → Option Connection} {n : Option Nat} {whole : Prop}
    (less : ∀ c c', f c = some c' → c'.contents.Sublist c.contents)
    (kept : whole → ∀ c c', f c = some c' → (n = none → c = s.current) → (∀ m, n = some m → s.earlier[m]? = some c) →
      c'.contents = c.contents) (done : (s.onConnection f n).map (·,[]) = some (s',out)) : Went s whole s' out := by
  obtain ⟨s₁,moved,same⟩ := Option.map_eq_some_iff.mp done
  cases same
  obtain ⟨held,inputs,cursor,fewer,equal⟩ := connectionStep less kept moved
  refine .onward inputs cursor (.inl held) ?_ (fun holds => ?_) ⟨rfl,rfl⟩
  · rw [Relay.taken,Relay.taken,held]
    exact fewer.append_right _
  · rw [Relay.taken,Relay.taken,held,equal holds]

theorem dispatchWent {event : InputEvent} (proper : s.Proper) (holds : s.held = some event)
    (done : s.dispatchInput event = some (s',out)) : Went s (s.current.writing = true) s' out := by
  have before : s.taken = s.sentOn ++ (dispatched event).toList := by
    rw [Relay.taken,holds,Option.toList_some,List.filterMap_cons]
    cases dispatched event with
    | none => rfl
    | some request => rfl
  simp only [Relay.dispatchInput] at done
  split at done
  · split at done
    · cases done
    · rename_i request converted
      obtain ⟨c,pushed,same⟩ := Option.map_eq_some_iff.mp done
      cases same
      have equal : ({s with held := none, current := c} : Relay).taken = s.taken := by
        have current : s.sentOn = s.earlier.flatMap Connection.contents ++ s.current.contents := sentOnCurrent s.current
        have later : ({s with held := none, current := c} : Relay).sentOn = s.earlier.flatMap Connection.contents ++ c.contents :=
          sentOnCurrent c
        rw [before,proper event holds,converted,current,Relay.taken,later,pushContents pushed,← List.append_assoc]
        exact List.append_nil _
      exact .onward rfl rfl (.inr rfl) (by rw [equal]) (fun _ => equal) ⟨rfl,rfl⟩
  · rename_i down
    cases done
    refine .onward rfl rfl (.inr rfl) ?_ (fun up => absurd up down) ⟨rfl,rfl⟩
    have rest : ({s with held := none} : Relay).taken = s.sentOn := List.append_nil _
    rw [before,rest]
    exact List.sublist_append_left _ _

theorem relayWent {event : Event} (proper : s.Proper) (done : machine.step s event = some (s',out)) :
    Went s (Lossless s event) s' out := by
  simp only [machine,Relay.step] at done
  cases event with
  | deliver event =>
    cases done
    split
    · exact .deliver (List.Sublist.refl _) fun _ => rfl
    · rename_i full
      exact .deliver (List.sublist_append_left _ _) fun room => absurd room full
  | relay =>
    dsimp only at done
    split at done
    · rename_i event rest idle waiting
      rcases takeCases s event rest with ⟨kbps,rfl,hinted⟩ | ⟨other,takes⟩
      · rw [hinted] at done
        cases done
        exact .hint waiting
      · rw [takes] at done
        cases done
        exact .take idle waiting other
    · cases done
  | dispatch =>
    dsimp only at done
    split at done
    · cases done
    · rename_i event holds
      exact dispatchWent proper holds done
  | request n =>
    have same : ∀ c c' : Connection, c.push .other = some c' → c'.contents = c.contents :=
      fun c c' pushed => (pushContents pushed).trans (List.append_nil _)
    exact connectionWent (fun c c' pushed => by rw [same c c' pushed]) (fun _ c c' pushed _ _ => same c c' pushed) done
  | write n =>
    exact connectionWent (fun c c' written => by rw [writeContents written])
      (fun _ c c' written _ _ => writeContents written) done
  | writeFails n =>
    refine connectionWent (fun c c' failed => (failContents failed).1) ?_ done
    intro whole c c' failed current earlier
    refine (failContents failed).2 ?_
    cases n with
    | none => rw [current rfl]; exact whole
    | some n => exact whole c (earlier n rfl)
  | connect =>
    cases done
    have equal : ({s with earlier := s.earlier ++ [s.current], current := .fresh} : Relay).taken = s.taken := by
      have none : Connection.fresh.contents = [] := rfl
      simp only [Relay.taken,Relay.sentOn,Relay.connections,List.flatMap_append,List.flatMap_cons,List.flatMap_nil,none,
        List.append_nil]
    exact .onward rfl rfl (.inl rfl) (by rw [equal]) (fun _ => equal) ⟨rfl,rfl⟩

end Steps

theorem deliveredAppend (trace out : List Output) : delivered (trace ++ out) = delivered trace ++ delivered out :=
  List.filterMap_append

theorem relayedAppend (trace out : List Output) : relayed (trace ++ out) = relayed trace ++ relayed out :=
  List.filterMap_append

theorem cursorReads (events : List InputEvent) (cursor : UInt64) : CursorPosition.unpack (events.foldl update cursor) =
    ((events.filterMap position).getLast?.map fun at_ => (asI32 at_.1,asI32 at_.2)).getD (CursorPosition.unpack cursor) := by
  induction events generalizing cursor with
  | nil => rfl
  | cons event rest ih =>
    rw [List.foldl_cons,ih,List.filterMap_cons]
    cases there : position event with
    | none => rw [update,there]
    | some at_ =>
      have here : CursorPosition.unpack (update cursor event) = (asI32 at_.1,asI32 at_.2) := by
        rw [update,there]
        exact unpackPack _ _
      rw [here,List.getLast?_cons]
      cases (rest.filterMap position).getLast? with
      | none => rfl
      | some later => rfl

structure Ordered (s : Relay) (trace : List Output) : Prop where
  proper : s.Proper
  taken : s.taken.Sublist ((relayed trace).filterMap dispatched)
  all : (s.taken ++ s.inputs.filterMap dispatched).Sublist ((delivered trace).filterMap dispatched)
  cursor : s.cursor = (relayed trace).foldl update (CursorPosition.pack 0 0)

section Runs
variable {s s' : Relay} {whole : Prop} {trace out : List Output}

theorem takenHolds {event : InputEvent} {rest : List InputEvent} (idle : s.held = none) :
    ({s with inputs := rest, held := some event, cursor := update s.cursor event} : Relay).taken =
      s.taken ++ [event].filterMap dispatched := by
  have before : s.taken = s.sentOn := by
    rw [Relay.taken,idle]
    exact List.append_nil _
  rw [before]
  rfl

theorem orderedNext (ordered : Ordered s trace) (went : Went s whole s' out) : Ordered s' (trace ++ out) := by
  obtain ⟨proper,taken,all,cursor⟩ := ordered
  cases went with
  | @deliver event inputs less kept =>
    have quiet : relayed (trace ++ [.delivered event]) = relayed trace := (relayedAppend _ _).trans (List.append_nil _)
    refine ⟨proper,by rw [quiet]; exact taken,?_,by rw [quiet]; exact cursor⟩
    have more := less.filterMap dispatched
    rw [List.filterMap_append] at more
    rw [deliveredAppend,List.filterMap_append]
    refine (more.append_left s.taken).trans ?_
    rw [← List.append_assoc]
    exact all.append_right _
  | @hint kbps rest first =>
    have quiet : relayed (trace ++ [.hinted kbps]) = relayed trace := (relayedAppend _ _).trans (List.append_nil _)
    have silent : delivered (trace ++ [.hinted kbps]) = delivered trace := (deliveredAppend _ _).trans (List.append_nil _)
    refine ⟨proper,by rw [quiet]; exact taken,?_,by rw [quiet]; exact cursor⟩
    rw [silent]
    rw [first] at all
    exact all
  | @take event rest idle first proper' =>
    have now : relayed (trace ++ [.relayed event]) = relayed trace ++ [event] := relayedAppend _ _
    have silent : delivered (trace ++ [.relayed event]) = delivered trace := (deliveredAppend _ _).trans (List.append_nil _)
    refine ⟨?_,?_,?_,?_⟩
    · intro event' same
      cases same
      exact proper'
    · rw [takenHolds idle,now,List.filterMap_append]
      exact taken.append_right _
    · rw [takenHolds idle,silent,List.append_assoc,← List.filterMap_append,List.singleton_append,← first]
      exact all
    · rw [now,List.foldl_append,← cursor]
      rfl
  | onward inputs cursor' held less kept silent =>
    have quiet : relayed (trace ++ out) = relayed trace := by rw [relayedAppend,silent.2,List.append_nil]
    have still : delivered (trace ++ out) = delivered trace := by rw [deliveredAppend,silent.1,List.append_nil]
    refine ⟨?_,?_,?_,?_⟩
    · intro event same
      rcases held with kept | gone
      · exact proper event (kept ▸ same)
      · rw [gone] at same
        cases same
    · rw [quiet]
      exact less.trans taken
    · rw [still,inputs]
      exact (less.append_right _).trans all
    · rw [quiet,cursor']
      exact cursor

theorem orderedStart : Ordered machine.init [] where
  proper := fun event absent => by cases absent
  taken := List.Sublist.refl _
  all := List.Sublist.refl _
  cursor := rfl

/-- On each connection Chrome gets input in the order in which the relay took it, on all of
them no event twice and none that the peers did not send, those of an earlier connection
sent before those of a later one; the cursor is where the last event taken is. -/
theorem inputInOrder (run : Machine.Reaches machine s trace) :
    (∀ c ∈ s.connections, c.received.Sublist ((relayed trace).filterMap dispatched)) ∧
      s.received.Sublist ((relayed trace).filterMap dispatched) ∧ s.received.Sublist ((delivered trace).filterMap dispatched) ∧
      CursorPosition.unpack s.cursor =
        (((relayed trace).filterMap position).getLast?.map fun at_ => (asI32 at_.1,asI32 at_.2)).getD (0,0) := by
  have ordered : Ordered s trace :=
    Machine.runInvariant Ordered orderedStart (fun ordered _ done => orderedNext ordered (relayWent ordered.proper done)) run
  have within : s.received.Sublist s.taken := (flatMapSublist receivedContents _).trans (List.sublist_append_left _ _)
  have each : ∀ c ∈ s.connections, c.received.Sublist s.received := fun c member => by
    obtain ⟨before,after,shape⟩ := List.append_of_mem member
    rw [Relay.received,shape,List.flatMap_append,List.flatMap_cons]
    exact (List.sublist_append_left _ _).trans (List.sublist_append_right _ _)
  refine ⟨fun c member => (each c member).trans (within.trans ordered.taken),within.trans ordered.taken,?_,?_⟩
  · exact (within.trans (List.sublist_append_left _ _)).trans ordered.all
  · rw [ordered.cursor,cursorReads,unpackPack]

theorem inputComplete (run : Machine.Run machine Lossless s trace) :
    s.taken ++ s.inputs.filterMap dispatched = (delivered trace).filterMap dispatched ∧
      ((∀ c ∈ s.connections, c.queue = []) → s.held = none → s.inputs = [] →
        s.received = (delivered trace).filterMap dispatched) := by
  have both : Ordered s trace ∧ s.taken ++ s.inputs.filterMap dispatched = (delivered trace).filterMap dispatched := by
    refine Machine.runInvariant
      (fun s trace => Ordered s trace ∧ s.taken ++ s.inputs.filterMap dispatched = (delivered trace).filterMap dispatched)
      ⟨orderedStart,rfl⟩ ?_ run
    rintro s trace event s' out ⟨ordered,all⟩ lossless done
    have went := relayWent ordered.proper done
    refine ⟨orderedNext ordered went,?_⟩
    rw [deliveredAppend,List.filterMap_append,← all]
    cases went with
    | deliver less kept =>
      rw [kept lossless,List.append_assoc]
      exact congrArg _ List.filterMap_append
    | hint first => rw [first]; exact (List.append_nil _).symm
    | take idle first proper => rw [takenHolds idle,first,List.append_assoc,← List.filterMap_append]; exact (List.append_nil _).symm
    | onward inputs cursor held less kept silent => rw [inputs,kept lossless,silent.1]; exact (List.append_nil _).symm
  refine ⟨both.2,fun empty idle none => ?_⟩
  have sent : s.received = s.sentOn := by
    refine List.flatMap_congr fun c member => ?_
    rw [Connection.received,Connection.contents,empty c member,List.append_nil]
  rw [← both.2,Relay.taken,idle,none,sent]
  exact ((List.append_nil _).trans (List.append_nil _)).symm

end Runs

section Witness

theorem lostWithConnection : ∃ s trace, Machine.Reaches machine s trace ∧
    s.connections.map Connection.received = [[],[],[.dispatchMouseEvent (Cdp.inputToCdp (.mouseUp 7 (-9) 0 0))]] ∧
    (∀ c ∈ s.connections, c.received.Sublist ((relayed trace).filterMap dispatched)) ∧
      s.received.Sublist ((relayed trace).filterMap dispatched) ∧ s.received.Sublist ((delivered trace).filterMap dispatched) ∧
      CursorPosition.unpack s.cursor =
        (((relayed trace).filterMap position).getLast?.map fun at_ => (asI32 at_.1,asI32 at_.2)).getD (0,0) := by
  obtain ⟨s,trace,run,got⟩ := Machine.execWitness machine
    [.connect,.deliver (.mouse (.mouseDown 5 6 0 0)),.deliver (.mouse (.mouseUp 7 (-9) 0 0)),.relay,.dispatch,.writeFails none,
      .connect,.relay,.dispatch,.request none,.write none]
    (fun s _ => decide (s.connections.map Connection.received =
      [[],[],[.dispatchMouseEvent (Cdp.inputToCdp (.mouseUp 7 (-9) 0 0))]])) (by decide +kernel)
  exact ⟨s,trace,run,of_decide_eq_true got,inputInOrder run⟩

theorem pastedWhole : ∃ s trace, Machine.Run machine Lossless s trace ∧ s.received = (delivered trace).filterMap dispatched ∧
    s.received = [.dispatchMouseEvent (Cdp.inputToCdp (.mouseDown 5 6 0 0)),
      .dispatchMouseEvent (Cdp.inputToCdp (.mouseUp 5 6 0 0)),.insertText "ok".toList] := by
  have connected := Machine.runStep (.start : machine.Run Lossless _ _) .connect trivial rfl
  have pressed := Machine.runStep connected (.deliver (.mouse (.mouseDown 5 6 0 0))) (by decide : 0 < 100) rfl
  have released := Machine.runStep pressed (.deliver (.mouse (.mouseUp 5 6 0 0))) (by decide : 1 < 100) rfl
  have pasted := Machine.runStep released (.deliver (.paste "ok".toList)) (by decide : 2 < 100) rfl
  have first := Machine.runStep (Machine.runStep pasted .relay trivial rfl) .dispatch rfl rfl
  have second := Machine.runStep (Machine.runStep first .relay trivial rfl) .dispatch rfl rfl
  have written := Machine.runStep (Machine.runStep second (.write none) trivial rfl) (.write none) trivial rfl
  have again := Machine.runStep written .connect trivial rfl
  have third := Machine.runStep (Machine.runStep again .relay trivial rfl) .dispatch rfl rfl
  have done := Machine.runStep third (.write none) trivial rfl
  refine ⟨_,_,done,(inputComplete done).2 ?_ rfl rfl,rfl⟩
  intro c member
  rcases List.mem_cons.mp member with rfl | member
  · rfl
  · rcases List.mem_cons.mp member with rfl | member
    · rfl
    · cases List.mem_singleton.mp member
      rfl

end Witness
end Vscreen.Input
