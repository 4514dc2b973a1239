import Mathlib.Tactic.Cases
import Vscreen.Bytes

/-! RTP packets with the fixed header of RFC 3550: no padding, no extension, no
contributing sources. `read` is the receiver of such packets. -/
namespace Vscreen.Rtp

def be16 (n : UInt16) : List Byte := [(n >>> 8).toUInt8,n.toUInt8]

def be32 (n : UInt32) : List Byte := [(n >>> 24).toUInt8,(n >>> 16).toUInt8,(n >>> 8).toUInt8,n.toUInt8]

def readBe16 (high low : Byte) : UInt16 := .ofNat (high.toNat * 256 + low.toNat)

def readBe32 (a b c d : Byte) : UInt32 := .ofNat (((a.toNat * 256 + b.toNat) * 256 + c.toNat) * 256 + d.toNat)

theorem readBe16Written (n : UInt16) : readBe16 (n >>> 8).toUInt8 n.toUInt8 = n := by
  have bound := n.toNat_lt
  apply UInt16.toNat_inj.mp
  simp [readBe16,Nat.shiftRight_eq_div_pow]
  omega

theorem readBe32Written (n : UInt32) :
    readBe32 (n >>> 24).toUInt8 (n >>> 16).toUInt8 (n >>> 8).toUInt8 n.toUInt8 = n := by
  have bound := n.toNat_lt
  apply UInt32.toNat_inj.mp
  simp [readBe32,Nat.shiftRight_eq_div_pow]
  omega

structure Header where
  marker : Bool
  payloadType : Byte
  sequenceNumber : UInt16
  timestamp : UInt32
  ssrc : UInt32
  deriving DecidableEq, Repr

def Header.bytes (h : Header) : List Byte :=
  [0x80,(if h.marker then 0x80 else 0x00) ||| h.payloadType] ++ be16 h.sequenceNumber ++ be32 h.timestamp ++ be32 h.ssrc

def packet (h : Header) (payload : List Byte) : List Byte := h.bytes ++ payload

def read : List Byte → Option (Header × List Byte)
  | v::pt::s₁::s₀::t₃::t₂::t₁::t₀::r₃::r₂::r₁::r₀::payload =>
    if v = 0x80 then
      some (⟨pt &&& 0x80 != 0,pt &&& 0x7F,readBe16 s₁ s₀,readBe32 t₃ t₂ t₁ t₀,readBe32 r₃ r₂ r₁ r₀⟩,payload)
    else none
  | _ => none

def Seven (payloadType : Byte) : Prop := payloadType &&& 0x80 = 0

instance (payloadType : Byte) : Decidable (Seven payloadType) := by unfold Seven; infer_instance

theorem markerApart (marker : Bool) : ∀ pt : Byte, Seven pt →
    (((if marker then 0x80 else 0x00) ||| pt) &&& 0x80 != 0) = marker ∧
      ((if marker then 0x80 else 0x00) ||| pt) &&& 0x7F = pt :=
  forallByte (by cases marker <;> decide +kernel)

theorem readPacket (h : Header) (seven : Seven h.payloadType) (payload : List Byte) :
    read (packet h payload) = some (h,payload) := by
  obtain ⟨bit,rest⟩ := markerApart h.marker h.payloadType seven
  simp only [packet,Header.bytes,be16,be32,List.cons_append,List.nil_append,read,if_true,readBe16Written,
    readBe32Written,bit,rest]

theorem packetLength (h : Header) (payload : List Byte) : (packet h payload).length = 12 + payload.length := by
  simp only [packet,Header.bytes,be16,be32,List.length_append,List.length_cons,List.length_nil]

def timestampOf (data : List Byte) : Option UInt32 := (read data).map (·.1.timestamp)

end Vscreen.Rtp
