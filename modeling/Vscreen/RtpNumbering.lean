import Vscreen.RtpStream

/-! The numbering of a video stream over any sequence of calls of `send_frame`. A
call whose send fails is cut short: it marks no packet and does not advance the
clock, and what it sent is numbered like the rest. -/
namespace Vscreen.Rtsp
open Vscreen

structure FrameOut where
  packets : List (List Byte)
  ok : Bool
  deriving DecidableEq, Repr

namespace RtpVideoStream

def sendFrames : RtpVideoStream → List FrameCall → List FrameOut
  | _,[] => []
  | s,c::calls => ⟨(s.sendFrame c).2.1,(s.sendFrame c).2.2⟩::sendFrames (s.sendFrame c).1 calls

end RtpVideoStream

def sequenceOf (packet : List Byte) : Option UInt16 := (Rtp.read packet).map (·.1.sequenceNumber)

def markerOf (packet : List Byte) : Option Bool := (Rtp.read packet).map (·.1.marker)

/-- The numbering of what the calls sent, where the clock advances with the calls
that are `counted`, and these mark their last packet. -/
structure Numbering (increment : UInt32) (counted : FrameOut → Bool) (outs : List FrameOut) : Prop where
  readable : ∀ out ∈ outs, ∀ packet ∈ out.packets, (Rtp.read packet).isSome
  consecutive : ∀ i a b, (outs.flatMap FrameOut.packets)[i]? = some a →
    (outs.flatMap FrameOut.packets)[i + 1]? = some b → sequenceOf b = (sequenceOf a).map (· + 1)
  oneTime : ∀ out ∈ outs, ∀ a ∈ out.packets, ∀ b ∈ out.packets, Rtp.timestampOf a = Rtp.timestampOf b
  clocked : ∀ j k first last, j ≤ k → outs[j]? = some first → outs[k]? = some last →
    ∀ a ∈ first.packets, ∀ b ∈ last.packets,
      Rtp.timestampOf b = (Rtp.timestampOf a).map (· + increment * .ofNat (((outs.take k).drop j).countP counted))
  marked : ∀ out ∈ outs, ∀ i packet, out.packets[i]? = some packet →
    markerOf packet = some (counted out && decide (i + 1 = out.packets.length))

theorem addOne16 (a : UInt16) (n : Nat) : a + 1 + .ofNat n = a + .ofNat (n + 1) := by
  rw [UInt16.ofNat_add]
  grind

theorem addTurn32 (a b : UInt32) (n m : Nat) : a + b * .ofNat n + b * .ofNat m = a + b * .ofNat (n + m) := by
  rw [UInt32.ofNat_add]
  grind

def Headed (s : RtpVideoStream) (ok : Bool) (packets : List (List Byte)) : Prop :=
  ∀ j packet, packets[j]? = some packet → ∃ payload, Rtp.read packet =
    some (⟨ok && decide (j + 1 = packets.length),s.payloadType,s.sequenceNumber + .ofNat j,s.timestamp,s.ssrc⟩,payload)

structure Burst (s s' : RtpVideoStream) (total : Nat) (packets : List (List Byte)) (ok : Bool) : Prop where
  sequence : s'.sequenceNumber = s.sequenceNumber + .ofNat packets.length
  clock : s'.timestamp = s.timestamp
  increment : s'.timestampIncrement = s.timestampIncrement
  whole : ok = true → packets.length = total
  cut : ok = false → packets.length < total
  headers : Headed s ok packets

section Call
open RtpVideoStream

theorem burstCons {s s' : RtpVideoStream} {payload : Payload} {marker : Bool} {total : Nat}
    {packets : List (List Byte)} {ok : Bool} (rest : Burst (s.sent (s.buildVideoRtpPacket payload marker)) s' total packets ok)
    (last : marker = decide (total = 0)) :
    Burst s s' (total + 1) (s.buildVideoRtpPacket payload marker::packets) ok where
  sequence := by
    rw [rest.sequence,List.length_cons,← addOne16]
    rfl
  clock := rest.clock
  increment := rest.increment
  whole done := by rw [List.length_cons,rest.whole done]
  cut stopped := Nat.succ_lt_succ (rest.cut stopped)
  headers := by
    intro j packet there
    cases j with
    | zero =>
      cases there
      have marked : marker = (ok && decide (0 + 1 = (s.buildVideoRtpPacket payload marker::packets).length)) := by
        rw [last,List.length_cons]
        cases ok with
        | true => simp [rest.whole rfl]
        | false =>
          have left := rest.cut rfl
          have more : total ≠ 0 := by omega
          simp [more]
      refine ⟨payload,?_⟩
      rw [← marked,buildVideoRtpPacket,Rtp.readPacket _ s.seven,header]
      simp
    | succ j =>
      obtain ⟨payload',read⟩ := rest.headers j packet there
      refine ⟨payload',?_⟩
      rw [read,← addOne16]
      simp [sent]

theorem sendLoopBurst (failing : Option Nat) (payloads : List Payload) (s : RtpVideoStream) (i numPackets : Nat)
    (total : i + payloads.length = numPackets) :
    Burst s (sendLoop numPackets failing s i payloads).1 payloads.length
      (sendLoop numPackets failing s i payloads).2.1 (sendLoop numPackets failing s i payloads).2.2 := by
  induction payloads generalizing s i with
  | nil => exact ⟨by simp [sendLoop],rfl,rfl,by simp [sendLoop],by simp [sendLoop],by simp [sendLoop,Headed]⟩
  | cons payload payloads ih =>
    rw [List.length_cons] at total
    rw [sendLoop]
    split
    · exact ⟨by simp,rfl,rfl,by simp,by simp,by simp [Headed]⟩
    · refine burstCons (ih _ (i + 1) (by omega)) ?_
      rw [decide_eq_decide]
      omega

structure Called (s s' : RtpVideoStream) (out : FrameOut) : Prop where
  sequence : s'.sequenceNumber = s.sequenceNumber + .ofNat out.packets.length
  clock : s'.timestamp = s.timestamp + s.timestampIncrement * .ofNat ([out].countP FrameOut.ok)
  increment : s'.timestampIncrement = s.timestampIncrement
  headers : Headed s out.ok out.packets

theorem sendFrameCalled (s : RtpVideoStream) (c : FrameCall) :
    Called s (s.sendFrame c).1 ⟨(s.sendFrame c).2.1,(s.sendFrame c).2.2⟩ := by
  have burst := sendLoopBurst c.failing (s.packetizer.packetize c.frameData c.isKeyframe).2
    {s with packetizer := (s.packetizer.packetize c.frameData c.isKeyframe).1} 0 _ (Nat.zero_add _)
  simp only [sendFrame]
  split
  · rename_i done
    rw [done] at burst
    exact ⟨burst.sequence,by simp [burst.clock,burst.increment],burst.increment,burst.headers⟩
  · rename_i stopped
    rw [Bool.not_eq_true] at stopped
    rw [stopped] at burst
    exact ⟨burst.sequence,by simp [burst.clock],burst.increment,burst.headers⟩

end Call

section Run
variable {s : RtpVideoStream} {calls : List FrameCall}

theorem framesSequence (i : Nat) (packet : List Byte)
    (there : ((s.sendFrames calls).flatMap FrameOut.packets)[i]? = some packet) :
    sequenceOf packet = some (s.sequenceNumber + .ofNat i) := by
  induction calls generalizing s i with
  | nil => contradiction
  | cons c calls ih =>
    have call := sendFrameCalled s c
    rw [RtpVideoStream.sendFrames,List.flatMap_cons] at there
    by_cases here : i < (s.sendFrame c).2.1.length
    · rw [List.getElem?_append_left here] at there
      obtain ⟨payload,read⟩ := call.headers i packet there
      rw [sequenceOf,read]
      rfl
    · rw [List.getElem?_append_right (by simpa using here)] at there
      have later := ih _ there
      rw [later,call.sequence]
      have split : i = (s.sendFrame c).2.1.length + (i - (s.sendFrame c).2.1.length) := by omega
      rw [UInt16.add_assoc,← UInt16.ofNat_add,← split]

theorem framesClock (j : Nat) (out : FrameOut) (there : (s.sendFrames calls)[j]? = some out) :
    ∃ at_ : RtpVideoStream, Headed at_ out.ok out.packets ∧ at_.timestamp =
      s.timestamp + s.timestampIncrement * .ofNat (((s.sendFrames calls).take j).countP FrameOut.ok) := by
  induction calls generalizing s j with
  | nil => contradiction
  | cons c calls ih =>
    have call := sendFrameCalled s c
    rw [RtpVideoStream.sendFrames] at there ⊢
    cases j with
    | zero =>
      cases there
      exact ⟨s,call.headers,by simp⟩
    | succ j =>
      obtain ⟨later,headed,clock⟩ := ih j there
      refine ⟨later,headed,?_⟩
      rw [clock,call.clock,call.increment,addTurn32,← List.countP_append,List.singleton_append,List.take_succ_cons]

theorem headedTimestamp {at_ : RtpVideoStream} {ok : Bool} {packets : List (List Byte)} (headed : Headed at_ ok packets)
    (packet : List Byte) (member : packet ∈ packets) : Rtp.timestampOf packet = some at_.timestamp := by
  obtain ⟨i,there⟩ := List.mem_iff_getElem?.mp member
  obtain ⟨payload,read⟩ := headed i packet there
  rw [Rtp.timestampOf,read]
  rfl

theorem videoNumbering (s : RtpVideoStream) (calls : List FrameCall) :
    Numbering s.timestampIncrement FrameOut.ok (s.sendFrames calls) where
  readable := by
    intro out member packet inside
    obtain ⟨j,there⟩ := List.mem_iff_getElem?.mp member
    obtain ⟨i,place⟩ := List.mem_iff_getElem?.mp inside
    obtain ⟨_,headed,-⟩ := framesClock j out there
    obtain ⟨payload,read⟩ := headed i packet place
    rw [read]
    rfl
  consecutive := by
    intro i a b first second
    rw [framesSequence i a first,framesSequence (i + 1) b second,Option.map_some,UInt16.ofNat_add,← UInt16.add_assoc]
    rfl
  oneTime := by
    intro out member a first b second
    obtain ⟨j,there⟩ := List.mem_iff_getElem?.mp member
    obtain ⟨_,headed,-⟩ := framesClock j out there
    rw [headedTimestamp headed a first,headedTimestamp headed b second]
  clocked := by
    intro j k first last order atFirst atLast a inFirst b inLast
    obtain ⟨_,headed,clock⟩ := framesClock j first atFirst
    obtain ⟨_,headed',clock'⟩ := framesClock k last atLast
    rw [headedTimestamp headed a inFirst,headedTimestamp headed' b inLast,clock,clock',Option.map_some,addTurn32,
      ← List.countP_append]
    have pieces : ((s.sendFrames calls).take k).take j ++ ((s.sendFrames calls).take k).drop j = (s.sendFrames calls).take k :=
      List.take_append_drop ..
    rw [List.take_take,Nat.min_eq_left order] at pieces
    rw [pieces]
  marked := by
    intro out member i packet place
    obtain ⟨j,there⟩ := List.mem_iff_getElem?.mp member
    obtain ⟨_,headed,-⟩ := framesClock j out there
    obtain ⟨payload,read⟩ := headed i packet place
    rw [markerOf,read]
    rfl

def cutFrame : FrameCall := ⟨List.replicate 1300 0,true,some 1⟩

theorem cutFrameUnmarked : ¬ ∀ (s : RtpVideoStream) (calls : List FrameCall),
    Numbering s.timestampIncrement (fun _ => true) (s.sendFrames calls) := by
  intro all
  have numbering := all (.new 7 0 640 480 30 .vp9) [cutFrame]
  have sent : ((RtpVideoStream.new 7 0 640 480 30 .vp9).sendFrames [cutFrame]).map
      (fun out => out.packets.map markerOf) = [[some false]] := by decide +kernel
  obtain ⟨out,only,packets⟩ := List.map_eq_singleton_iff.mp sent
  obtain ⟨packet,one,marker⟩ := List.map_eq_singleton_iff.mp packets
  have marked := numbering.marked out (by simp [only]) 0 packet (by simp [one])
  rw [marker,one] at marked
  simp at marked

end Run
end Vscreen.Rtsp
