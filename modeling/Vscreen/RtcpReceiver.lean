import Mathlib.Data.Rat.Defs
import Vscreen.Rtp
import Vscreen.RtpStream

/-! What a stream takes from the RTCP that its client sends (transport.rs, health.rs).
The reports of RFC 3550 are read beside it: a packet says how many blocks it has and
how long it is, and another packet may follow in the same datagram. -/
namespace Vscreen.Rtsp

def rtcpRrPacketType : Byte := 201
def opusClockRate : UInt32 := 48000

section Bytes

def byteAt (data : List Byte) (i : Nat) : Byte := data.getD i 0

def wordAt (data : List Byte) (i : Nat) : UInt32 :=
  Rtp.readBe32 (byteAt data i) (byteAt data (i + 1)) (byteAt data (i + 2)) (byteAt data (i + 3))

theorem byteDrop (data : List Byte) (n i : Nat) : byteAt (data.drop n) i = byteAt data (n + i) := by
  simp [byteAt,List.getD_eq_getElem?_getD]

theorem byteTake {data : List Byte} {n i : Nat} (inside : i < n) : byteAt (data.take n) i = byteAt data i := by
  simp [byteAt,List.getD_eq_getElem?_getD,inside]

theorem wordDrop (data : List Byte) (n i : Nat) : wordAt (data.drop n) i = wordAt data (n + i) := by
  simp only [wordAt,byteDrop,Nat.add_assoc]

theorem wordTake {data : List Byte} {n i : Nat} (inside : i + 3 < n) : wordAt (data.take n) i = wordAt data i := by
  rw [wordAt,byteTake (by omega),byteTake (by omega),byteTake (by omega),byteTake inside,wordAt]

end Bytes

-- The two `f64` figures, without the rounding of the division by the clock.
structure ReceiverReport where
  ssrc : UInt32
  fractionLost : ℚ
  cumulativeLost : UInt32
  jitterMs : ℚ
  deriving DecidableEq

def parseReceiverReportWithClock (data : List Byte) (clockRate : UInt32) : Option ReceiverReport :=
  if data.length < 32 then none
  else if byteAt data 1 != rtcpRrPacketType then none
  else
    let jitterRaw := wordAt data 20
    some {
      ssrc := wordAt data 8
      fractionLost := (byteAt data 12).toNat / 256
      cumulativeLost :=
        (byteAt data 13).toUInt32 <<< 16 ||| (byteAt data 14).toUInt32 <<< 8 ||| (byteAt data 15).toUInt32
      jitterMs := jitterRaw.toNat / clockRate.toNat * 1000}

inductive RtcpInput where
  | udp (arrived : Option (List Byte))
  | tcp
  deriving DecidableEq, Repr

def tryRecvRtcp : RtcpInput → Option (List Byte)
  | .udp (some datagram) =>
    let buf := datagram.take 512
    if 8 ≤ buf.length then some buf else none
  | .udp none => none
  | .tcp => none

structure ClientHealth where
  clientPacketLoss : ℚ
  clientJitterMs : ℚ
  lastRtcpReceived : Option Nat
  deriving DecidableEq

def ClientHealth.updateFromRtcpRr (_ : ClientHealth) (packetLoss jitterMs : ℚ) (now : Nat) : ClientHealth :=
  ⟨packetLoss,jitterMs,some now⟩

def tryReceiveRtcp (clockRate : UInt32) (health : ClientHealth) (input : RtcpInput) (now : Nat) :
    Option ReceiverReport × ClientHealth :=
  match tryRecvRtcp input with
  | none => (none,health)
  | some data => match parseReceiverReportWithClock data clockRate with
    | none => (none,health)
    | some rr => (some rr,health.updateFromRtcpRr rr.fractionLost rr.jitterMs now)

def RtpUnicastStream.tryReceiveRtcp := Rtsp.tryReceiveRtcp opusClockRate

def RtpVideoStream.tryReceiveRtcp := Rtsp.tryReceiveRtcp vp9ClockRate

namespace Rtcp

structure Header where
  version : Nat
  count : Nat
  packetType : Byte
  length : Nat
  deriving DecidableEq, Repr

def header : List Byte → Option Header
  | first::packetType::high::low::_ =>
    some ⟨first.toNat / 64,first.toNat % 32,packetType,(Rtp.readBe16 high low).toNat⟩
  | _ => none

def Header.packet (h : Header) (data : List Byte) : List Byte := data.take (4 * (h.length + 1))

structure ReportBlock where
  ssrc : UInt32
  fractionLost : Byte
  cumulativeLost : UInt32
  jitter : UInt32
  deriving DecidableEq, Repr

def ReportBlock.read (data : List Byte) : ReportBlock :=
  ⟨wordAt data 0,byteAt data 4,Rtp.readBe32 0 (byteAt data 5) (byteAt data 6) (byteAt data 7),wordAt data 12⟩

def ReportBlock.report (b : ReportBlock) (clockRate : UInt32) : ReceiverReport :=
  ⟨b.ssrc,b.fractionLost.toNat / 256,b.cumulativeLost,b.jitter.toNat / clockRate.toNat * 1000⟩

def blocks : Nat → List Byte → List ReportBlock
  | 0,_ => []
  | count + 1,data => if data.length < 24 then [] else .read data::blocks count (data.drop 24)

def reports (data : List Byte) : List ReportBlock := match header data with
  | none => []
  | some h => if h.version = 2 ∧ h.packetType = rtcpRrPacketType then blocks h.count ((h.packet data).drop 8) else []

def Header.Reports (h : Header) : Prop :=
  h.version = 2 ∧ h.packetType = rtcpRrPacketType ∧ 1 ≤ h.count ∧ 7 ≤ h.length

instance (h : Header) : Decidable h.Reports := by unfold Header.Reports; infer_instance

theorem headerRead {data : List Byte} (long : 4 ≤ data.length) :
    ∃ h, header data = some h ∧ h.packetType = byteAt data 1 := by
  match data,long with
  | first::packetType::high::low::_,_ => exact ⟨_,rfl,rfl⟩

theorem firstBlock {data : List Byte} {h : Header} (head : header data = some h) :
    (reports data).head? = if 32 ≤ data.length ∧ h.Reports then some (.read (data.drop 8)) else none := by
  have inside : ((h.packet data).drop 8).length = min (4 * (h.length + 1)) data.length - 8 := by
    rw [List.length_drop,Header.packet,List.length_take]
  rw [reports,head]
  dsimp only
  by_cases receiver : h.version = 2 ∧ h.packetType = rtcpRrPacketType
  · rw [if_pos receiver]
    cases count : h.count with
    | zero => rw [if_neg fun announced => absurd announced.2.2.2.1 (by omega)]; rfl
    | succ n =>
      rw [blocks]
      by_cases short : ((h.packet data).drop 8).length < 24
      · rw [if_pos short,if_neg]
        · rfl
        · rintro ⟨long,-,-,-,words⟩
          omega
      · rw [if_neg short,if_pos ⟨by omega,receiver.1,receiver.2,by omega,by omega⟩,List.head?_cons,
          Option.some.injEq]
        have whole : 32 ≤ 4 * (h.length + 1) := by omega
        simp only [ReportBlock.read,byteDrop,wordDrop,Header.packet,ReportBlock.mk.injEq]
        refine ⟨wordTake (by omega),byteTake (by omega),?_,wordTake (by omega)⟩
        rw [byteTake (by omega),byteTake (by omega),byteTake (by omega)]
  · rw [if_neg receiver,if_neg fun announced => receiver ⟨announced.2.1,announced.2.2.1⟩]
    rfl

end Rtcp

theorem byteShifted (b : Byte) {n : UInt32} (small : n.toNat ≤ 16) : (b.toUInt32 <<< n).toNat = b.toNat <<< n.toNat := by
  have low : b.toNat < 2^8 := b.toNat_lt
  have power : 2^n.toNat ≤ 2^16 := Nat.pow_le_pow_right (by decide) small
  have fits : b.toNat * 2^n.toNat ≤ 2^8 * 2^16 := Nat.mul_le_mul low.le power
  rw [UInt32.toNat_shiftLeft,UInt8.toNat_toUInt32,Nat.mod_eq_of_lt (show n.toNat < 32 by omega),Nat.shiftLeft_eq]
  exact Nat.mod_eq_of_lt (by omega)

theorem cumulativeRead (a b c : Byte) :
    a.toUInt32 <<< 16 ||| b.toUInt32 <<< 8 ||| c.toUInt32 = Rtp.readBe32 0 a b c := by
  have inner := Nat.shiftLeft_add_eq_or_of_lt (i := 8) b.toNat_lt a.toNat
  have outer := Nat.shiftLeft_add_eq_or_of_lt (i := 8) c.toNat_lt (a.toNat <<< 8 ||| b.toNat)
  apply UInt32.toNat_inj.mp
  calc (a.toUInt32 <<< 16 ||| b.toUInt32 <<< 8 ||| c.toUInt32).toNat
      = a.toNat <<< 16 ||| b.toNat <<< 8 ||| c.toNat := by
        rw [UInt32.toNat_or,UInt32.toNat_or,byteShifted a (by decide),byteShifted b (by decide),UInt8.toNat_toUInt32]
        rfl
    _ = (a.toNat <<< 8 ||| b.toNat) <<< 8 ||| c.toNat := by rw [Nat.shiftLeft_or_distrib,← Nat.shiftLeft_add]
    _ = (a.toNat <<< 8 + b.toNat) <<< 8 + c.toNat := by rw [← outer,← inner]
    _ = (a.toNat * 256 + b.toNat) * 256 + c.toNat := by simp only [Nat.shiftLeft_eq,Nat.reducePow]
    _ = (Rtp.readBe32 0 a b c).toNat := by
        have read : (Rtp.readBe32 0 a b c).toNat = (((0 * 256 + a.toNat) * 256 + b.toNat) * 256 + c.toNat) % 2^32 := rfl
        have high := a.toNat_lt
        have middle := b.toNat_lt
        have low := c.toNat_lt
        omega

theorem parsedBlock {data : List Byte} (clockRate : UInt32) (long : 32 ≤ data.length)
    (receiver : byteAt data 1 = rtcpRrPacketType) :
    parseReceiverReportWithClock data clockRate = some ((Rtcp.ReportBlock.read (data.drop 8)).report clockRate) := by
  rw [parseReceiverReportWithClock,if_neg (by omega),if_neg (by simp [receiver])]
  simp only [Rtcp.ReportBlock.report,Rtcp.ReportBlock.read,byteDrop,wordDrop,cumulativeRead]

/-- Recognition as it is meant: of what is delivered, the first block of the report, and
without a block nothing and no change. -/
def Recognised (clockRate : UInt32) (health : ClientHealth) (input : RtcpInput) (now : Nat) : Prop :=
  ∀ data, tryRecvRtcp input = some data →
    parseReceiverReportWithClock data clockRate = ((Rtcp.reports data).head?).map (·.report clockRate) ∧
      (Rtcp.reports data = [] → tryReceiveRtcp clockRate health input now = (none,health))

/-- Nothing that could be taken for a report block without being one. -/
def Unmistaken (data : List Byte) : Prop :=
  data.length < 32 ∨ byteAt data 1 ≠ rtcpRrPacketType ∨ ∃ h, Rtcp.header data = some h ∧ h.Reports

theorem blocksParsed {data : List Byte} (clockRate : UInt32) :
    parseReceiverReportWithClock data clockRate = ((Rtcp.reports data).head?).map (·.report clockRate) ↔
      Unmistaken data := by
  by_cases long : 32 ≤ data.length
  · obtain ⟨h,head,type⟩ := @Rtcp.headerRead data (by omega)
    rw [Rtcp.firstBlock head]
    by_cases receiver : byteAt data 1 = rtcpRrPacketType
    · rw [parsedBlock clockRate long receiver]
      by_cases announced : h.Reports
      · rw [if_pos ⟨long,announced⟩,Option.map_some]
        exact iff_of_true rfl (.inr (.inr ⟨h,head,announced⟩))
      · rw [if_neg fun both => announced both.2]
        refine iff_of_false (fun same => Option.some_ne_none _ same) ?_
        rintro (short | other | ⟨h',head',announced'⟩)
        · omega
        · exact other receiver
        · cases head.symm.trans head'
          exact announced announced'
    · rw [parseReceiverReportWithClock,if_neg (by omega),if_pos (by simpa using receiver),
        if_neg fun both => receiver (type ▸ both.2.2.1)]
      exact iff_of_true rfl (.inr (.inl receiver))
  · have short : data.length < 32 := by omega
    have none : (Rtcp.reports data).head? = none := by
      cases head : Rtcp.header data with
      | none => rw [Rtcp.reports,head]; rfl
      | some h => rw [Rtcp.firstBlock head,if_neg fun both => long both.1]
    rw [parseReceiverReportWithClock,if_pos short,none]
    exact iff_of_true rfl (.inl short)

theorem reportsRecognised (clockRate : UInt32) (health : ClientHealth) (input : RtcpInput) (now : Nat) :
    Recognised clockRate health input now ↔ ∀ data, tryRecvRtcp input = some data → Unmistaken data := by
  refine forall_congr' fun data => forall_congr' fun delivered => ?_
  rw [blocksParsed]
  refine and_iff_left_of_imp fun unmistaken none => ?_
  have parsed := (blocksParsed clockRate).mpr unmistaken
  rw [none] at parsed
  rw [tryReceiveRtcp,delivered]
  dsimp only
  rw [parsed]
  rfl

def emptyReport : List Byte :=
  [0x80,0xC9,0x00,0x01,0x12,0x34,0x56,0x78] ++
    [0x81,0xCA,0x00,0x05,0x12,0x34,0x56,0x78,0x01,0x0C] ++ "user@example".toUTF8.data.toList ++ [0x00,0x00]

theorem descriptionRead :
    (¬ ∀ clockRate health input now, Recognised clockRate health input now) ∧
      Rtcp.reports emptyReport = [] ∧
      (RtpVideoStream.tryReceiveRtcp ⟨0,0,none⟩ (.udp (some emptyReport)) 7).2.lastRtcpReceived = some 7 := by
  have delivered : tryRecvRtcp (.udp (some emptyReport)) = some emptyReport := by decide
  refine ⟨fun all => ?_,by decide,by decide⟩
  rcases (blocksParsed vp9ClockRate).mp (all vp9ClockRate ⟨0,0,none⟩ _ 7 emptyReport delivered).1 with
    short | other | ⟨h,head,announced⟩
  · exact absurd short (by decide)
  · exact absurd rfl other
  · cases head
    exact absurd announced (by decide)

end Vscreen.Rtsp
