import Mathlib.Data.Nat.ModEq
import Vscreen.RtpNumbering
import Vscreen.RtpStream

/-! What the sender reports of a whole run say. Both senders add the length of every
packet that went out to their health, header included, and the report repeats it. -/
namespace Vscreen.Rtsp

def reportWord (offset : Nat) (report : List Byte) : Option UInt32 := match report.drop offset with
  | a::b::c::d::_ => some (Rtp.readBe32 a b c d)
  | _ => none

def packetCount (report : List Byte) : Option UInt32 := reportWord 20 report

def octetCount (report : List Byte) : Option UInt32 := reportWord 24 report

def payloadOctets (packet : List Byte) : Nat := ((Rtp.read packet).map (·.2.length)).getD 0

/-- The counts that RFC 3550 asks of a report after `packets` went out. -/
def CountsSent (report : List Byte) (packets : List (List Byte)) : Prop :=
  packetCount report = some (.ofNat packets.length) ∧
    octetCount report = some (.ofNat (packets.map payloadOctets).sum)

namespace RtpUnicastStream

def sendAll : RtpUnicastStream → List (Payload × Bool) → RtpUnicastStream × List (List Byte)
  | s,[] => (s,[])
  | s,(opusData,accepted)::calls => match s.sendRtp opusData accepted with
    | none => s.sendAll calls
    | some (s,packet) => ((s.sendAll calls).1,packet::(s.sendAll calls).2)

end RtpUnicastStream

namespace RtpVideoStream

def sendAll : RtpVideoStream → List FrameCall → RtpVideoStream × List (List Byte)
  | s,[] => (s,[])
  | s,c::calls =>
    (((s.sendFrame c).1.sendAll calls).1,(s.sendFrame c).2.1 ++ ((s.sendFrame c).1.sendAll calls).2)

end RtpVideoStream

section Counting

def StreamHealth.recordAll (h : StreamHealth) (packets : List (List Byte)) : StreamHealth :=
  packets.foldl (fun h packet => h.recordPacketSent packet.length) h

theorem recordedAll (h : StreamHealth) (packets : List (List Byte)) : h.recordAll packets =
    ⟨h.packetsSent + .ofNat packets.length,h.bytesSent + .ofNat (packets.map List.length).sum⟩ := by
  induction packets generalizing h with
  | nil => simp [StreamHealth.recordAll]
  | cons packet packets ih =>
    have rest := ih (h.recordPacketSent packet.length)
    rw [StreamHealth.recordAll] at rest ⊢
    rw [List.foldl_cons,rest]
    simp only [StreamHealth.recordPacketSent,List.length_cons,List.map_cons,List.sum_cons,UInt64.ofNat_add,
      StreamHealth.mk.injEq]
    exact ⟨by rw [UInt64.add_assoc,UInt64.add_comm (.ofNat packets.length)]; rfl,UInt64.add_assoc _ _ _⟩

def Headered (packets : List (List Byte)) : Prop := ∀ packet ∈ packets, packet.length = payloadOctets packet + 12

theorem packetHeadered {h : Rtp.Header} (seven : Rtp.Seven h.payloadType) (payload : List Byte) :
    (Rtp.packet h payload).length = payloadOctets (Rtp.packet h payload) + 12 := by
  rw [payloadOctets,Rtp.readPacket h seven,Rtp.packetLength]
  exact Nat.add_comm _ _

theorem headeredSum {packets : List (List Byte)} (headered : Headered packets) :
    (packets.map List.length).sum = (packets.map payloadOctets).sum + 12 * packets.length := by
  induction packets with
  | nil => rfl
  | cons packet packets ih =>
    obtain ⟨first,rest⟩ := List.forall_mem_cons.mp headered
    rw [List.map_cons,List.map_cons,List.sum_cons,List.sum_cons,ih rest,first,List.length_cons]
    omega

theorem audioRun (s : RtpUnicastStream) (calls : List (Payload × Bool)) :
    (s.sendAll calls).1.health = s.health.recordAll (s.sendAll calls).2 ∧ Headered (s.sendAll calls).2 := by
  induction calls generalizing s with
  | nil => exact ⟨rfl,by simp [RtpUnicastStream.sendAll,Headered]⟩
  | cons c calls ih =>
    obtain ⟨opusData,accepted⟩ := c
    rw [RtpUnicastStream.sendAll]
    split
    · exact ih s
    · rename_i s' packet sent
      obtain ⟨health,headered⟩ := ih s'
      unfold RtpUnicastStream.sendRtp at sent
      dsimp only at sent
      split at sent
      · cases sent
        refine ⟨health,List.forall_mem_cons.mpr ⟨?_,headered⟩⟩
        exact packetHeadered (show Rtp.Seven opusPayloadType by decide) opusData
      · contradiction

theorem loopRun (numPackets : Nat) (failing : Option Nat) (payloads : List Payload) (s : RtpVideoStream) (i : Nat) :
    (RtpVideoStream.sendLoop numPackets failing s i payloads).1.health =
        s.health.recordAll (RtpVideoStream.sendLoop numPackets failing s i payloads).2.1 ∧
      Headered (RtpVideoStream.sendLoop numPackets failing s i payloads).2.1 := by
  induction payloads generalizing s i with
  | nil => exact ⟨rfl,by simp [RtpVideoStream.sendLoop,Headered]⟩
  | cons payload payloads ih =>
    rw [RtpVideoStream.sendLoop]
    split
    · exact ⟨rfl,by simp [Headered]⟩
    · obtain ⟨health,headered⟩ := ih (s.sent (s.buildVideoRtpPacket payload (decide (i = numPackets - 1)))) (i + 1)
      exact ⟨health,List.forall_mem_cons.mpr ⟨packetHeadered s.seven payload,headered⟩⟩

theorem frameRun (s : RtpVideoStream) (c : FrameCall) :
    (s.sendFrame c).1.health = s.health.recordAll (s.sendFrame c).2.1 ∧ Headered (s.sendFrame c).2.1 := by
  have loop := loopRun (s.packetizer.packetize c.frameData c.isKeyframe).2.length c.failing
    (s.packetizer.packetize c.frameData c.isKeyframe).2
    {s with packetizer := (s.packetizer.packetize c.frameData c.isKeyframe).1} 0
  rw [RtpVideoStream.sendFrame]
  dsimp only
  split <;> exact loop

theorem videoRun (s : RtpVideoStream) (calls : List FrameCall) :
    (s.sendAll calls).1.health = s.health.recordAll (s.sendAll calls).2 ∧ Headered (s.sendAll calls).2 := by
  induction calls generalizing s with
  | nil => exact ⟨rfl,by simp [RtpVideoStream.sendAll,Headered]⟩
  | cons c calls ih =>
    obtain ⟨health,headered⟩ := ih (s.sendFrame c).1
    obtain ⟨first,headered'⟩ := frameRun s c
    rw [RtpVideoStream.sendAll]
    refine ⟨?_,?_⟩
    · rw [health,first,StreamHealth.recordAll,StreamHealth.recordAll,StreamHealth.recordAll,List.foldl_append]
    · intro packet member
      exact (List.mem_append.mp member).elim (headered' packet) (headered packet)

end Counting

section Reports

theorem reportedPackets (ssrc timestamp : UInt32) (startNtp : UInt64) (elapsed : Duration) (health : StreamHealth) :
    packetCount (senderReport ssrc timestamp startNtp elapsed health) = some health.packetsSent.toUInt32 := by
  have word := Rtp.readBe32Written health.packetsSent.toUInt32
  simp only [packetCount,reportWord,senderReport,Rtp.be16,Rtp.be32,List.cons_append,List.nil_append,List.drop_succ_cons,
    List.drop_zero,word]

theorem reportedOctets (ssrc timestamp : UInt32) (startNtp : UInt64) (elapsed : Duration) (health : StreamHealth) :
    octetCount (senderReport ssrc timestamp startNtp elapsed health) = some health.bytesSent.toUInt32 := by
  have word := Rtp.readBe32Written health.bytesSent.toUInt32
  simp only [octetCount,reportWord,senderReport,Rtp.be16,Rtp.be32,List.cons_append,List.nil_append,List.drop_succ_cons,
    List.drop_zero,word]

theorem truncated (n : Nat) : (UInt64.ofNat n).toUInt32 = .ofNat n := by
  rw [← UInt32.toNat_inj,UInt64.toNat_toUInt32,UInt64.toNat_ofNat',UInt32.toNat_ofNat']
  exact Nat.mod_mod_of_dvd n (by decide)

theorem reportCounts {health : StreamHealth} {packets : List (List Byte)}
    (counted : health = (⟨0,0⟩ : StreamHealth).recordAll packets)
    (headered : Headered packets) (ssrc timestamp : UInt32) (startNtp : UInt64) (elapsed : Duration) :
    packetCount (senderReport ssrc timestamp startNtp elapsed health) = some (.ofNat packets.length) ∧
      octetCount (senderReport ssrc timestamp startNtp elapsed health) =
        some (.ofNat ((packets.map payloadOctets).sum + 12 * packets.length)) := by
  rw [reportedPackets,reportedOctets,counted,recordedAll,← headeredSum headered]
  simp only [UInt64.zero_add,truncated]
  exact ⟨trivial,trivial⟩

theorem headerOctets (total n : Nat) :
    UInt32.ofNat (total + 12 * n) = .ofNat total ↔ n % 2^30 = 0 := by
  have odd : 2^30 ∣ 3 * n ↔ 2^30 ∣ n := Nat.Coprime.dvd_mul_left (by decide)
  have four : 12 * n = 2^2 * (3 * n) := by omega
  rw [← UInt32.toNat_inj,UInt32.toNat_ofNat',UInt32.toNat_ofNat',eq_comm,← Nat.ModEq,
    Nat.modEq_iff_dvd' (Nat.le_add_right _ _),Nat.add_sub_cancel_left,four,show 2^32 = 2^2 * 2^30 from rfl,Nat.mul_dvd_mul_iff_left (by decide),odd]
  exact Nat.dvd_iff_mod_eq_zero

theorem countsSentIff {health : StreamHealth} {packets : List (List Byte)}
    (counted : health = (⟨0,0⟩ : StreamHealth).recordAll packets)
    (headered : Headered packets) (ssrc timestamp : UInt32) (startNtp : UInt64) (elapsed : Duration) :
    CountsSent (senderReport ssrc timestamp startNtp elapsed health) packets ↔ packets.length % 2^30 = 0 := by
  obtain ⟨count,octets⟩ := reportCounts counted headered ssrc timestamp startNtp elapsed
  have same := headerOctets (packets.map payloadOctets).sum packets.length
  rw [CountsSent,count,octets,Option.some.injEq,Option.some.injEq,same]
  exact and_iff_right rfl

theorem reportsCountSent (ssrc : UInt32) (startNtp : UInt64) (elapsed : Duration) :
    (∀ calls, CountsSent (((RtpUnicastStream.new ssrc startNtp).sendAll calls).1.buildSenderReport elapsed)
        ((RtpUnicastStream.new ssrc startNtp).sendAll calls).2 ↔
      ((RtpUnicastStream.new ssrc startNtp).sendAll calls).2.length % 2^30 = 0) ∧
    (∀ width height fps codec calls,
      CountsSent (((RtpVideoStream.new ssrc startNtp width height fps codec).sendAll calls).1.buildSenderReport elapsed)
          ((RtpVideoStream.new ssrc startNtp width height fps codec).sendAll calls).2 ↔
        ((RtpVideoStream.new ssrc startNtp width height fps codec).sendAll calls).2.length % 2^30 = 0) := by
  constructor
  · intro calls
    obtain ⟨health,headered⟩ := audioRun (.new ssrc startNtp) calls
    exact countsSentIff health headered _ _ _ elapsed
  · intro width height fps codec calls
    obtain ⟨health,headered⟩ := videoRun (.new ssrc startNtp width height fps codec) calls
    exact countsSentIff health headered _ _ _ elapsed

theorem headersCounted : ¬ CountsSent (((RtpUnicastStream.new 7 0).sendAll [([1,2,3],true)]).1.buildSenderReport 0)
    ((RtpUnicastStream.new 7 0).sendAll [([1,2,3],true)]).2 := by
  rintro ⟨-,octets⟩
  revert octets
  decide +kernel

end Reports
end Vscreen.Rtsp
