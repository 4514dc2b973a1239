import Vscreen.H264RoundTrip
import Vscreen.Vp9RoundTrip
import Vscreen.RtspMedia
import Vscreen.Rtp

/-! The RTP streams that the RTSP senders write (transport.rs). What the socket
answers to a send is an argument; what was sent is returned. Both packetizers keep
the default MTU, at which they end on every frame. -/
namespace Vscreen.Rtsp

abbrev Payload := List Byte

def opusPayloadType : Byte := 111
def vp9PayloadType : Byte := 96
def h264PayloadType : Byte := 96
def rtcpSrPacketType : Byte := 200
def vp9ClockRate : UInt32 := 90000
def opusFrameDurationSamples : UInt32 := 960

structure StreamHealth where
  packetsSent : UInt64
  bytesSent : UInt64
  deriving DecidableEq, Repr

def StreamHealth.recordPacketSent (h : StreamHealth) (bytes : Nat) : StreamHealth :=
  ⟨h.packetsSent + 1,h.bytesSent + .ofNat bytes⟩

def senderReport (ssrc timestamp : UInt32) (startNtp : UInt64) (elapsed : Duration) (health : StreamHealth) : List Byte :=
  let ntpSecs := (startNtp + .ofNat (elapsed / 10^9)).toUInt32
  let ntpFrac := UInt32.ofNat (elapsed % 10^9 / 10^6) * 4294967
  [0x80,rtcpSrPacketType] ++ Rtp.be16 6 ++ Rtp.be32 ssrc ++ Rtp.be32 ntpSecs ++ Rtp.be32 ntpFrac ++
    Rtp.be32 timestamp ++ Rtp.be32 health.packetsSent.toUInt32 ++ Rtp.be32 health.bytesSent.toUInt32

structure RtpUnicastStream where
  ssrc : UInt32
  sequenceNumber : UInt16
  timestamp : UInt32
  health : StreamHealth
  startNtp : UInt64

namespace RtpUnicastStream

def new (ssrc : UInt32) (startNtp : UInt64) : RtpUnicastStream := ⟨ssrc,0,0,⟨0,0⟩,startNtp⟩

def header (s : RtpUnicastStream) : Rtp.Header := ⟨false,opusPayloadType,s.sequenceNumber,s.timestamp,s.ssrc⟩

def buildRtpPacket (s : RtpUnicastStream) (payload : Payload) : List Byte := Rtp.packet s.header payload

def buildSenderReport (s : RtpUnicastStream) (elapsed : Duration) : List Byte :=
  senderReport s.ssrc s.timestamp s.startNtp elapsed s.health

def sendRtp (s : RtpUnicastStream) (opusData : Payload) (accepted : Bool) : Option (RtpUnicastStream × List Byte) :=
  let packet := s.buildRtpPacket opusData
  if accepted then
    some ({s with
      sequenceNumber := s.sequenceNumber + 1
      timestamp := s.timestamp + opusFrameDurationSamples
      health := s.health.recordPacketSent packet.length},packet)
  else none

end RtpUnicastStream

inductive VideoPacketizer where
  | vp9 (p : Vp9.Vp9Packetizer) (mtu : p.mtu = Vp9.defaultMtu)
  | h264 (p : H264.H264Packetizer) (mtu : p.mtu = H264.defaultMtu)

namespace VideoPacketizer

def payloads : VideoPacketizer → List Byte → Bool → Option (List Payload)
  | .vp9 p _,data,isKeyframe => (p.packetize data.length data isKeyframe).2
  | .h264 p _,data,_ => p.packetize data.length data

theorem vp9Payloads (p : Vp9.Vp9Packetizer) (mtu : p.mtu = Vp9.defaultMtu) (data : List Byte) (isKeyframe : Bool) :
    ∃ packets, p.packets data.length data isKeyframe = some packets ∧ ∀ packet ∈ packets, packet.length ≤ 1200 := by
  have size : p.mtu = 1200 := mtu
  by_cases empty : data = []
  · subst empty
    refine ⟨_,rfl,?_⟩
    intro packet member
    rw [List.mem_singleton.mp member,Vp9.descriptorLength]
    decide
  · have room : Vp9.room p.mtu isKeyframe := by
      rw [size,Vp9.room]
      split <;> decide
    obtain ⟨packets,sent,runs⟩ := Vp9.packetsSent p room (fun none => (empty none).elim)
    exact ⟨packets,runs data.length (Nat.le_refl _),fun packet member => size ▸ sent.fits packet member⟩

theorem h264Payloads (p : H264.H264Packetizer) (mtu : p.mtu = H264.defaultMtu) (data : List Byte) :
    ∃ packets, p.packetize data.length data = some packets ∧ ∀ packet ∈ packets, packet.length ≤ 1200 := by
  have size : p.mtu = 1200 := mtu
  have room : 0 < p.mtu - H264.rtpHeaderSize - 2 := by
    rw [size]
    decide
  obtain ⟨groups,sent,runs⟩ := H264.packetizeRuns p room data
  refine ⟨groups.flatten,runs data.length (Nat.le_refl _),fun packet member => ?_⟩
  have fits := H264.sentSizes room sent packet member
  omega

theorem payloadsSpec (p : VideoPacketizer) (data : List Byte) (isKeyframe : Bool) :
    ∃ packets, p.payloads data isKeyframe = some packets ∧ ∀ packet ∈ packets, packet.length ≤ 1200 := by
  cases p with
  | vp9 p mtu => exact vp9Payloads p mtu data isKeyframe
  | h264 p mtu => exact h264Payloads p mtu data

theorem payloadsSome (p : VideoPacketizer) (data : List Byte) (isKeyframe : Bool) :
    (p.payloads data isKeyframe).isSome := by
  obtain ⟨packets,runs,-⟩ := payloadsSpec p data isKeyframe
  rw [runs]
  rfl

def next : VideoPacketizer → VideoPacketizer
  | .vp9 p mtu => .vp9 p.advance mtu
  | .h264 p mtu => .h264 p mtu

def packetize (p : VideoPacketizer) (data : List Byte) (isKeyframe : Bool) : VideoPacketizer × List Payload :=
  (p.next,(p.payloads data isKeyframe).get (p.payloadsSome data isKeyframe))

theorem packetizeSize (p : VideoPacketizer) (data : List Byte) (isKeyframe : Bool) :
    ∀ payload ∈ (p.packetize data isKeyframe).2, payload.length ≤ 1200 := by
  obtain ⟨packets,runs,fits⟩ := payloadsSpec p data isKeyframe
  have same : (p.packetize data isKeyframe).2 = packets := by simp only [packetize,runs,Option.get_some]
  rw [same]
  exact fits

end VideoPacketizer

structure RtpVideoStream where
  ssrc : UInt32
  sequenceNumber : UInt16
  timestamp : UInt32
  timestampIncrement : UInt32
  packetizer : VideoPacketizer
  payloadType : Byte
  health : StreamHealth
  startNtp : UInt64
  seven : Rtp.Seven payloadType

structure FrameCall where
  frameData : List Byte
  isKeyframe : Bool
  failing : Option Nat

namespace RtpVideoStream

def makePacketizer (codec : VideoCodec) (width height : UInt16) : VideoPacketizer × {pt : Byte // Rtp.Seven pt} :=
  match codec with
  | .vp9 => (.vp9 (.new width height) rfl,⟨vp9PayloadType,by decide⟩)
  | .h264 => (.h264 .new rfl,⟨h264PayloadType,by decide⟩)

def new (ssrc : UInt32) (startNtp : UInt64) (width height : UInt16) (fps : UInt32) (codec : VideoCodec) :
    RtpVideoStream where
  ssrc := ssrc
  sequenceNumber := 0
  timestamp := 0
  timestampIncrement := if fps > 0 then vp9ClockRate / fps else 3000
  packetizer := (makePacketizer codec width height).1
  payloadType := (makePacketizer codec width height).2
  health := ⟨0,0⟩
  startNtp := startNtp
  seven := (makePacketizer codec width height).2.2

def header (s : RtpVideoStream) (marker : Bool) : Rtp.Header :=
  ⟨marker,s.payloadType,s.sequenceNumber,s.timestamp,s.ssrc⟩

def buildVideoRtpPacket (s : RtpVideoStream) (payload : Payload) (marker : Bool) : List Byte :=
  Rtp.packet (s.header marker) payload

def buildSenderReport (s : RtpVideoStream) (elapsed : Duration) : List Byte :=
  senderReport s.ssrc s.timestamp s.startNtp elapsed s.health

def sent (s : RtpVideoStream) (packet : List Byte) : RtpVideoStream :=
  {s with health := s.health.recordPacketSent packet.length, sequenceNumber := s.sequenceNumber + 1}

def sendLoop (numPackets : Nat) (failing : Option Nat) :
    RtpVideoStream → (i : Nat) → List Payload → RtpVideoStream × List (List Byte) × Bool
  | s,_,[] => (s,[],true)
  | s,i,payload::payloads =>
    if failing = some i then (s,[],false)
    else
      let isLast := decide (i = numPackets - 1)
      let packet := s.buildVideoRtpPacket payload isLast
      let rest := sendLoop numPackets failing (s.sent packet) (i + 1) payloads
      (rest.1,packet::rest.2.1,rest.2.2)

def sendFrame (s : RtpVideoStream) (c : FrameCall) : RtpVideoStream × List (List Byte) × Bool :=
  let packetized := s.packetizer.packetize c.frameData c.isKeyframe
  let numPackets := packetized.2.length
  let loop := sendLoop numPackets c.failing {s with packetizer := packetized.1} 0 packetized.2
  if loop.2.2 then ({loop.1 with timestamp := loop.1.timestamp + loop.1.timestampIncrement},loop.2.1,true)
  else (loop.1,loop.2.1,false)

end RtpVideoStream

theorem sendLoopSize (bound : Nat) (failing : Option Nat) (payloads : List Payload) (s : RtpVideoStream) (i numPackets : Nat)
    (fits : ∀ payload ∈ payloads, payload.length ≤ bound) :
    ∀ packet ∈ (RtpVideoStream.sendLoop numPackets failing s i payloads).2.1, packet.length ≤ 12 + bound := by
  induction payloads generalizing s i with
  | nil => simp [RtpVideoStream.sendLoop]
  | cons payload payloads ih =>
    obtain ⟨first,later⟩ := List.forall_mem_cons.mp fits
    rw [RtpVideoStream.sendLoop]
    split
    · simp
    · refine List.forall_mem_cons.mpr ⟨?_,ih _ _ later⟩
      rw [RtpVideoStream.buildVideoRtpPacket,Rtp.packetLength]
      omega

end Vscreen.Rtsp
