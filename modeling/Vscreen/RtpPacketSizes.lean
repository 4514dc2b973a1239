import Vscreen.RtpStream

/-! The sizes of the RTP packets that `send_frame` produces against the MTU that both
packetizers are created with. The H.264 packetizer leaves room for the RTP header, the
VP9 packetizer does not. -/
namespace Vscreen.Rtsp
open RtpVideoStream

def mtu : Nat := 1200

/-- The frames whose packets fit the MTU: every H.264 frame, and the VP9 frames that
leave room for the RTP header beside their only descriptor. -/
def VideoPacketizer.FitsMtu : VideoPacketizer → List Byte → Bool → Prop
  | .vp9 .., data, isKeyframe => data.length + (if isKeyframe then 8 else 3) ≤ mtu - 12
  | .h264 .., _, _ => True

section Payloads
variable {p : VideoPacketizer} {data : List Byte} {isKeyframe : Bool}

theorem packetizedPayloads {payloads : List Payload} (runs : p.payloads data isKeyframe = some payloads) :
    (p.packetize data isKeyframe).2 = payloads := by
  simp only [VideoPacketizer.packetize,runs,Option.get_some]

theorem h264Small (p : H264.H264Packetizer) (default_ : p.mtu = H264.defaultMtu) (data : List Byte) (isKeyframe : Bool) :
    ∀ payload ∈ ((VideoPacketizer.h264 p default_).packetize data isKeyframe).2, payload.length ≤ mtu - 12 := by
  have size : p.mtu = 1200 := default_
  have room : 0 < p.mtu - H264.rtpHeaderSize - 2 := by
    rw [size]
    decide
  obtain ⟨groups,sent,runs⟩ := H264.packetizeRuns p room data
  have payloads : (VideoPacketizer.h264 p default_).payloads data isKeyframe = some groups.flatten :=
    runs data.length (Nat.le_refl _)
  rw [packetizedPayloads payloads]
  have fits := H264.sentSizes room sent
  rw [size] at fits
  exact fits

theorem continuationKeeps {p : Vp9.Vp9Packetizer} {frame : List Byte} {key : Bool} {pid : UInt16} {fuel offset : Nat}
    {packets out : List Payload} (runs : p.continuationLoop frame key pid fuel offset packets = some out) :
    packets <+: out := by
  induction fuel generalizing offset packets with
  | zero =>
    rw [Vp9.Vp9Packetizer.continuationLoop] at runs
    split at runs
    · contradiction
    · cases runs
      exact List.prefix_refl _
  | succ fuel ih =>
    rw [Vp9.Vp9Packetizer.continuationLoop] at runs
    split at runs
    · exact (List.prefix_append _ _).trans (ih runs)
    · cases runs
      exact List.prefix_refl _

theorem vp9First (p : Vp9.Vp9Packetizer) (default_ : p.mtu = Vp9.defaultMtu) (more : data ≠ []) :
    ∃ first rest, ((VideoPacketizer.vp9 p default_).packetize data isKeyframe).2 = first::rest ∧
      first.length = min (data.length + (if isKeyframe then 8 else 3)) 1200 ∧
      (data.length + (if isKeyframe then 8 else 3) ≤ 1200 → rest = []) := by
  have size : p.mtu = 1200 := default_
  have nonempty : data.isEmpty = false := by simpa using more
  have length (stop : Bool) : (p.buildDescriptor isKeyframe true stop isKeyframe p.pictureId).length =
    if isKeyframe then 8 else 3 := Vp9.descriptorLength ..
  have small : (if isKeyframe then 8 else 3) ≤ 8 := by split <;> omega
  obtain ⟨packets,runs,-⟩ := VideoPacketizer.vp9Payloads p default_ data isKeyframe
  have payloads : (VideoPacketizer.vp9 p default_).payloads data isKeyframe = some packets := runs
  rw [packetizedPayloads payloads]
  simp only [Vp9.Vp9Packetizer.packets,nonempty,Bool.false_eq_true,if_false,length,size] at runs
  generalize (if isKeyframe then 8 else 3) = descriptor at length small runs
  split at runs
  · cases runs
    refine ⟨_,[],rfl,?_,fun _ => rfl⟩
    rw [List.length_append,length]
    omega
  · obtain ⟨rest,rfl⟩ := continuationKeeps runs
    refine ⟨_,rest,rfl,?_,fun fits => by omega⟩
    rw [List.length_append,length,List.length_take]
    omega

theorem vp9Small (p : Vp9.Vp9Packetizer) (default_ : p.mtu = Vp9.defaultMtu) (data : List Byte) (isKeyframe : Bool) :
    (∀ payload ∈ ((VideoPacketizer.vp9 p default_).packetize data isKeyframe).2, payload.length ≤ mtu - 12) ↔
      data.length + (if isKeyframe then 8 else 3) ≤ mtu - 12 := by
  rw [mtu]
  by_cases empty : data = []
  · subst empty
    have payloads : (VideoPacketizer.vp9 p default_).payloads [] isKeyframe =
      some [p.buildDescriptor isKeyframe true true true p.pictureId] := rfl
    have short : ([] : List Byte).length + (if isKeyframe then 8 else 3) ≤ 1200 - 12 := by cases isKeyframe <;> decide
    rw [packetizedPayloads payloads]
    refine ⟨fun _ => short,fun _ payload member => ?_⟩
    rw [List.mem_singleton.mp member,Vp9.descriptorLength]
    decide
  · obtain ⟨first,rest,shape,length,whole⟩ := @vp9First data isKeyframe p default_ empty
    rw [shape]
    constructor
    · intro fits
      have head := fits first List.mem_cons_self
      omega
    · intro fits payload member
      rw [whole (by omega)] at member
      rw [List.mem_singleton.mp member]
      omega

theorem payloadsSmall (p : VideoPacketizer) (data : List Byte) (isKeyframe : Bool) :
    (∀ payload ∈ (p.packetize data isKeyframe).2, payload.length ≤ mtu - 12) ↔ p.FitsMtu data isKeyframe := by
  cases p with
  | vp9 p default_ => exact vp9Small p default_ data isKeyframe
  | h264 p default_ => exact ⟨fun _ => trivial,fun _ => h264Small p default_ data isKeyframe⟩

end Payloads

section Packets

theorem sendLoopLengths (payloads : List Payload) (s : RtpVideoStream) (i numPackets : Nat) :
    (sendLoop numPackets none s i payloads).2.1.map List.length = payloads.map (12 + ·.length) := by
  induction payloads generalizing s i with
  | nil => rfl
  | cons payload payloads ih =>
    rw [sendLoop,if_neg (by simp),List.map_cons,List.map_cons]
    rw [ih,buildVideoRtpPacket,Rtp.packetLength]

theorem sendFrameLengths (s : RtpVideoStream) (data : List Byte) (isKeyframe : Bool) :
    (s.sendFrame ⟨data,isKeyframe,none⟩).2.1.map List.length =
      (s.packetizer.packetize data isKeyframe).2.map (12 + ·.length) := by
  rw [sendFrame]
  dsimp only
  split <;> exact sendLoopLengths _ _ _ _

theorem packetsFitMtu (s : RtpVideoStream) (data : List Byte) (isKeyframe : Bool) :
    (∀ failing, ∀ packet ∈ (s.sendFrame ⟨data,isKeyframe,failing⟩).2.1, packet.length ≤ mtu) ↔
      s.packetizer.FitsMtu data isKeyframe := by
  rw [← payloadsSmall]
  constructor
  · intro fits payload member
    have listed : 12 + payload.length ∈ (s.sendFrame ⟨data,isKeyframe,none⟩).2.1.map List.length := by
      rw [sendFrameLengths]
      exact List.mem_map_of_mem (f := fun payload => 12 + payload.length) member
    obtain ⟨packet,sent,same⟩ := List.mem_map.mp listed
    have size := fits none packet sent
    rw [mtu] at size ⊢
    omega
  · intro small failing packet member
    have sizes := sendLoopSize (mtu - 12) failing (s.packetizer.packetize data isKeyframe).2
      {s with packetizer := (s.packetizer.packetize data isKeyframe).1} 0
      (s.packetizer.packetize data isKeyframe).2.length small
    have size : packet.length ≤ 12 + (mtu - 12) := by
      rw [sendFrame] at member
      dsimp only at member
      split at member <;> exact sizes packet member
    rw [mtu] at size ⊢
    omega

def largeFrame : FrameCall := ⟨List.replicate 1192 0,true,none⟩

theorem keyframePacketTooLong : ¬ ∀ packet ∈ ((RtpVideoStream.new 7 0 640 480 30 .vp9).sendFrame largeFrame).2.1,
    packet.length ≤ mtu := by
  intro fits
  have lengths : ((RtpVideoStream.new 7 0 640 480 30 .vp9).sendFrame largeFrame).2.1.map List.length = [1212] := by
    rw [largeFrame,sendFrameLengths]
    decide +kernel
  obtain ⟨packet,one,size⟩ := List.map_eq_singleton_iff.mp lengths
  have bound := fits packet (by simp [one])
  rw [size,mtu] at bound
  omega

end Packets
end Vscreen.Rtsp
