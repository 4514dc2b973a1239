import Mathlib.Data.List.Perm.Basic
import Vscreen.AudioEncode
import Vscreen.RtpStream
import Vscreen.RtspHandler

/-! One RTSP connection and the tasks that write to it: its handler, and the senders of the
interleaved tracks that were played on it (transport.rs, server.rs). A write is any number of
partial writes under the writer's lock; a task that was aborted is dropped between two of them. -/
namespace Vscreen.Rtsp
open Text

def rtspVersion : Text := "RTSP/1.0".toList

def fieldLine (field : Text × Text) : Text := field.1 ++ ": ".toList ++ field.2 ++ crlf

namespace RtspResponse

def headerList (r : RtspResponse) : List (Text × Text) := r.headers.entries.map fun e => (e.1,e.2)

def sessionLine (r : RtspResponse) : Text := match r.session with
  | none => []
  | some session => if (r.headers.get "Session".toList).isSome then [] else fieldLine ("Session".toList,session.name)

def serialize (r : RtspResponse) (order : List (Text × Text)) : Text :=
  rtspVersion ++ " ".toList ++ decimal r.status.toNat ++ " ".toList ++ r.reason ++ crlf ++
    fieldLine ("CSeq".toList,decimal r.cseq.toNat) ++ r.sessionLine ++ order.flatMap fieldLine ++ crlf ++ r.body.getD []

end RtspResponse

inductive Outgoing where
  | response (r : RtspResponse) (order : List (Text × Text))
  | frame (channel : UInt8) (data : List Byte)

def Outgoing.bytes : Outgoing → List Byte
  | .response r order => Utf8.encode (r.serialize order)
  | .frame channel data => 0x24::channel::Rtp.be16 (.ofNat data.length) ++ data

def RtspResponse.Measured (r : RtspResponse) : Prop :=
  r.headers.get "Content-Length".toList = r.body.map fun body => decimal (Utf8.encode body).length

def Outgoing.Complete : Outgoing → Prop
  | .response r order => order.Perm r.headerList ∧ r.Measured
  | .frame _ data => (UInt16.ofNat data.length).toNat = data.length

inductive SenderCall where
  | rtp (s : RtpUnicastStream) (opusData : Audio.OpusFrame)
  | audioReport (s : RtpUnicastStream) (elapsed : Duration)
  | frame (s : RtpVideoStream) (frameData : List Byte) (isKeyframe : Bool)
  | videoReport (s : RtpVideoStream) (elapsed : Duration)

namespace SenderCall

def mediaType : SenderCall → MediaType
  | .rtp .. => .audio
  | .audioReport .. => .audio
  | .frame .. => .video
  | .videoReport .. => .video

def frames (rtpChannel rtcpChannel : UInt8) : SenderCall → List Outgoing
  | .rtp s opusData => [.frame rtpChannel (s.buildRtpPacket opusData)]
  | .audioReport s elapsed => [.frame rtcpChannel (s.buildSenderReport elapsed)]
  | .frame s frameData isKeyframe => (s.sendFrame ⟨frameData,isKeyframe,none⟩).2.1.map (.frame rtpChannel)
  | .videoReport s elapsed => [.frame rtcpChannel (s.buildSenderReport elapsed)]

end SenderCall

inductive Writer where
  | handler
  | sender (task : TaskId)
  deriving DecidableEq, Repr

structure Writing where
  writer : Writer
  message : Outgoing
  written : Nat

-- `own` are the tasks that write to this connection, `waiting` what each writer still has to
-- send, `gone` the tasks that ended or were dropped.
structure Wire where
  manager : RtspSessionManager
  own : List TaskId
  waiting : Table Writer (List Outgoing)
  current : Option Writing
  gone : List TaskId
  bytes : List Byte

inductive WireEvent where
  | request (x : Exchange) (order : List (Text × Text))
  | badRequest
  | server (e : Event)
  | call (task : TaskId) (c : SenderCall)
  | lock (writer : Writer)
  | write (n : Nat)
  | unlock
  -- The runtime drops a task that was aborted, at the point it waits at.
  | drop (task : TaskId)
  | ended (task : TaskId)

namespace Wire

def waitingOf (w : Wire) (writer : Writer) : List Outgoing := (w.waiting.get writer).getD []

def busy (w : Wire) (writer : Writer) : Bool :=
  !(w.waitingOf writer).isEmpty || w.current.any (·.writer = writer)

def await (w : Wire) (writer : Writer) (messages : List Outgoing) : Wire :=
  {w with waiting := w.waiting.put writer messages}

def handle (w : Wire) (m : RtspSessionManager) : Wire :=
  {w with
    manager := m
    own := w.own ++ List.range' w.manager.spawned.length (m.spawned.length - w.manager.spawned.length)}

def callStep (w : Wire) (task : TaskId) (c : SenderCall) : Option (Wire × List Outgoing) :=
  match w.manager.spawned[task]? with
  | none => none
  | some x => match x.interleaved with
    | none => none
    | some (rtpChannel,rtcpChannel) =>
      if task ∈ w.own ∧ task ∉ w.gone ∧ w.busy (.sender task) = false ∧ c.mediaType = x.mediaType then
        some (w.await (.sender task) (c.frames rtpChannel rtcpChannel),[])
      else none

def finished (w : Wire) : List Outgoing := match w.current with
  | none => []
  | some c => if c.written = c.message.bytes.length then [c.message] else []

def release (w : Wire) (task : TaskId) : Wire × List Outgoing :=
  if w.current.any (·.writer = .sender task) then ({w with current := none},w.finished) else (w,[])

def step (u : CaseMapping) (timeout : Duration) (w : Wire) : WireEvent → Option (Wire × List Outgoing)
  | .request x order =>
    if w.busy .handler = false ∧ order.Perm (handleRequest u w.manager x).2.headerList then
      some ((w.handle (handleRequest u w.manager x).1).await .handler [.response (handleRequest u w.manager x).2 order],[])
    else none
  | .badRequest =>
    if w.busy .handler = false then some (w.await .handler [.response (.new 400 "Bad Request".toList 0) []],[]) else none
  | .server e => ((server u timeout).step w.manager e).map fun r => ({w with manager := r.1},[])
  | .call task c => w.callStep task c
  | .lock writer => match w.current,w.waitingOf writer with
    | none,message::rest => some ({w.await writer rest with current := some ⟨writer,message,0⟩},[])
    | _,_ => none
  | .write n => match w.current with
    | none => none
    | some c =>
      if c.written + n ≤ c.message.bytes.length then
        some ({w with
          current := some {c with written := c.written + n}
          bytes := w.bytes ++ (c.message.bytes.drop c.written).take n},[])
      else none
  | .unlock => match w.current with
    | none => none
    | some c => if c.written = c.message.bytes.length then some ({w with current := none},[c.message]) else none
  | .drop task =>
    if task ∈ w.manager.aborted ∧ task ∈ w.own ∧ task ∉ w.gone then
      some ({(w.release task).1.await (.sender task) [] with gone := task::w.gone},(w.release task).2)
    else none
  | .ended task =>
    if task ∈ w.own ∧ task ∉ w.gone ∧ w.busy (.sender task) = false then some ({w with gone := task::w.gone},[]) else none

def machine (u : CaseMapping) (timeout : Duration) : Machine Wire WireEvent Outgoing :=
  ⟨⟨.withTimeout timeout,[],∅,none,[],[]⟩,step u timeout⟩

def inFlight (w : Wire) : List Byte := match w.current with
  | none => []
  | some c => c.message.bytes.take c.written

/-- A sender is dropped before the first byte of a frame or after the last. -/
def Whole (w : Wire) : WireEvent → Prop
  | .drop task => ∀ c, w.current = some c → c.writer = .sender task →
      c.written = 0 ∨ c.written = c.message.bytes.length
  | _ => True

end Wire
end Vscreen.Rtsp
