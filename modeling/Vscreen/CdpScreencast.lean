import Vscreen.Bytes
import Vscreen.CdpProtocol
import Vscreen.Machine

/-! The screencast of a CDP client over its reconnections (client.rs, screencast.rs):
the stored parameters, the active flag and the generation counter of this side, and
the requests that reached Chrome on the newest connection. -/
namespace Vscreen.Cdp
open Text

inductive CdpConnectionState where
  | connecting
  | connected
  | reconnecting (attempt : Nat)
  | disconnected
  deriving DecidableEq, Repr

structure ScreencastFrameEvent where
  data : Text
  sessionId : UInt32
  deriving DecidableEq, Repr

structure RawFrame where
  data : List UInt8
  sessionId : UInt32
  deriving DecidableEq, Repr

structure ScreencastManager where
  generation : UInt64
  active : Bool
  deriving DecidableEq, Repr

def startScreencast : Text := "Page.startScreencast".toList

def stopScreencast : Text := "Page.stopScreencast".toList

def screencastFrameAck : Text := "Page.screencastFrameAck".toList

abbrev Request := Text × Option Params

def applyRequest (running : Option Params) (r : CdpRequest) : Option Params :=
  if r.method = startScreencast then some (r.params.getD [])
  else if r.method = stopScreencast then none
  else running

inductive ScreencastCall where
  | start (params : StartScreencastParams)
  | stop
  deriving DecidableEq, Repr

def wanted : List ScreencastCall → Option StartScreencastParams
  | .start params::_ => some params
  | _ => none

inductive ScreencastEvent where
  | call (c : ScreencastCall)
  | disconnect
  | attemptFailed
  | reconnect
  | frame (event : ScreencastFrameEvent)

structure Broadcast where
  frame : RawFrame
  connection : Nat
  newest : Nat
  generation : UInt64
  current : UInt64
  deriving DecidableEq, Repr

-- `read` and `generation` are variables of `connection_loop`. `connections` counts the
-- reconnections, `requests` are those sent on the newest connection and `calls` the
-- caller's start and stop calls, the last one first.
structure ScreencastClient where
  screencast : ScreencastManager
  screencastParams : Option StartScreencastParams
  state : CdpConnectionState
  read : Nat
  generation : UInt64
  nextId : MessageId
  connections : Nat
  requests : List CdpRequest
  calls : List ScreencastCall

namespace ScreencastManager

def new : ScreencastManager := ⟨0,false⟩

def bumpGeneration (m : ScreencastManager) : ScreencastManager := {m with generation := m.generation + 1}

def startRequest (m : ScreencastManager) (params : StartScreencastParams) : ScreencastManager × Request :=
  ({m with active := true},startScreencast,some params.toValue)

def stopRequest (m : ScreencastManager) : ScreencastManager × Request :=
  ({m with active := false},stopScreencast,none)

def ackRequest (sessionId : UInt32) : Request :=
  (screencastFrameAck,some [("sessionId".toList,.number sessionId)])

def decodeFrame (decode : Text → Except Text (List UInt8)) (m : ScreencastManager) (event : ScreencastFrameEvent)
    (frameGeneration : UInt64) : Except CdpError (Option RawFrame) :=
  if frameGeneration < m.generation then .ok none
  else match decode event.data with
    | .error e => .error (.screencast ("base64 decode failed: ".toList ++ e))
    | .ok data => .ok (if data.isEmpty then none else some ⟨data,event.sessionId⟩)

end ScreencastManager

namespace ScreencastClient
variable (decode : Text → Except Text (List UInt8)) (maxAttempts : Nat)

def connected : ScreencastClient := ⟨.new,none,.connected,0,0,firstMessageId,0,[],[]⟩

def sendRequest (s : ScreencastClient) (r : ScreencastManager × Request) : ScreencastClient :=
  {s with screencast := r.1, nextId := s.nextId + 1, requests := s.requests ++ [⟨s.nextId,r.2.1,r.2.2⟩]}

def call (s : ScreencastClient) : ScreencastCall → ScreencastClient
  | .start config => sendRequest {s with screencastParams := some config} (s.screencast.startRequest config)
  | .stop => s.sendRequest s.screencast.stopRequest

def attempt (s : ScreencastClient) (n : Nat) : ScreencastClient :=
  {s with state := if n < maxAttempts then .reconnecting (n + 1) else .disconnected}

def openConnection (s : ScreencastClient) : ScreencastClient :=
  let screencast := s.screencast.bumpGeneration
  {s with
    state := .connected, read := s.connections + 1, connections := s.connections + 1, requests := []
    screencast := screencast, generation := screencast.generation}

def reconnect (s : ScreencastClient) : ScreencastClient :=
  match s.screencastParams with
  | some params => s.openConnection.sendRequest (s.openConnection.screencast.startRequest params)
  | none => s.openConnection

def handleFrame (s : ScreencastClient) (event : ScreencastFrameEvent) : ScreencastClient × List Broadcast :=
  match s.screencast.decodeFrame decode event s.generation with
  | .error _ => (s,[])
  | .ok frame => (s.sendRequest (s.screencast,ScreencastManager.ackRequest event.sessionId),
      frame.toList.map fun f => ⟨f,s.read,s.connections,s.generation,s.screencast.generation⟩)

def step (s : ScreencastClient) : ScreencastEvent → Option (ScreencastClient × List Broadcast)
  | .call c => some ({s.call c with calls := c::s.calls},[])
  | .disconnect => match s.state with
    | .connected => some (s.attempt maxAttempts 0,[])
    | _ => none
  | .attemptFailed => match s.state with
    | .reconnecting n => some (s.attempt maxAttempts n,[])
    | _ => none
  | .reconnect => match s.state with
    | .reconnecting _ => some (s.reconnect,[])
    | _ => none
  | .frame event => match s.state with
    | .connected => some (s.handleFrame decode event)
    | _ => none

def machine : Machine ScreencastClient ScreencastEvent Broadcast := ⟨connected,step decode maxAttempts⟩

def running (s : ScreencastClient) : Option Params := s.requests.foldl applyRequest none

structure Restored (s : ScreencastClient) : Prop where
  chrome : s.running = (wanted s.calls).map StartScreencastParams.toValue
  active : s.screencast.active = (wanted s.calls).isSome

/-- A caller who stopped the screencast had never started it. -/
def NeverStopped (s : ScreencastClient) : Prop := s.calls.head? = some .stop → ∀ p, ScreencastCall.start p ∉ s.calls

end ScreencastClient

structure Broadcast.Current (b : Broadcast) : Prop where
  connection : b.connection = b.newest
  generation : b.generation = b.current

end Vscreen.Cdp
