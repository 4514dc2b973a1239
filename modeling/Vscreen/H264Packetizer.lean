import Vscreen.Bytes

/-! The H.264 RTP payload format of vscreen-rtsp (h264_packetizer.rs): the scan of
an Annex-B stream for start codes, single NAL unit packets, and FU-A fragments. A
loop that can fail to advance takes fuel and answers `none` when it runs out. -/
namespace Vscreen.H264

abbrev Nal := List Byte
abbrev Payload := List Byte

def defaultMtu : Nat := 1200
def rtpHeaderSize : Nat := 12

def startCode3 : List Byte := [0,0,1]
def startCode4 : List Byte := [0,0,0,1]

structure H264Packetizer where
  mtu : Nat
  deriving DecidableEq, Repr

def H264Packetizer.new : H264Packetizer := ⟨defaultMtu⟩

def H264Packetizer.withMtu (mtu : Nat) : H264Packetizer := ⟨max mtu 100⟩

def codeAt (data : List Byte) (i : Nat) : Option Nat :=
  if i + 4 ≤ data.length ∧ slice data i (i + 4) = startCode4 then some 4
  else if i + 3 ≤ data.length ∧ slice data i (i + 3) = startCode3 then some 3
  else none

theorem codeAtPos {data : List Byte} {i n : Nat} (found : codeAt data i = some n) : 0 < n := by
  unfold codeAt at found
  split at found
  · cases found; omega
  · split at found
    · cases found; omega
    · contradiction

def firstNal (data : List Byte) (i : Nat) : Nat :=
  if i < data.length then
    match codeAt data i with
    | some n => i + n
    | none => firstNal data (i + 1)
  else i
termination_by data.length - i

def scanNals (data : List Byte) (i nalStart : Nat) : List Nal :=
  if i < data.length then
    match found : codeAt data i with
    | some n => (if nalStart < i then [slice data nalStart i] else []) ++ scanNals data (i + n) (i + n)
    | none => scanNals data (i + 1) nalStart
  else if nalStart < data.length then [data.drop nalStart] else []
termination_by data.length - i
decreasing_by
  · have := codeAtPos found; omega
  · omega

def splitAnnexB (data : List Byte) : List Nal :=
  let i := firstNal data 0
  scanNals data i i

def fuIndicator (header : Byte) : Byte := (header &&& 0xE0) ||| 28

def fuHeader (header : Byte) (isFirst isLast : Bool) : Byte :=
  let fu := header &&& 0x1F
  let fu := if isFirst then fu ||| 0x80 else fu
  if isLast then fu ||| 0x40 else fu

def fuPacket (header : Byte) (isFirst isLast : Bool) (chunk : List Byte) : Payload :=
  fuIndicator header::fuHeader header isFirst isLast::chunk

def fragmentLoop (header : Byte) (fragMax : Nat) (data : List Byte) : (fuel offset : Nat) →
    List Payload → Option (List Payload)
  | 0,offset,payloads => if offset < data.length then none else some payloads
  | fuel + 1,offset,payloads =>
    if offset < data.length then
      let remaining := data.length - offset
      let chunkSize := min remaining fragMax
      let isLast := decide (data.length ≤ offset + chunkSize)
      let pkt := fuPacket header (offset == 0) isLast (slice data offset (offset + chunkSize))
      fragmentLoop header fragMax data fuel (offset + chunkSize) (payloads ++ [pkt])
    else some payloads

def fragmentFuA (fuel : Nat) (nal : Nal) (maxPayload : Nat) (payloads : List Payload) :
    Option (List Payload) :=
  match nal with
  | [] => none
  | header::data => fragmentLoop header (maxPayload - 2) data fuel 0 payloads

def packetizeLoop (fuel maxPayload : Nat) : List Nal → List Payload → Option (List Payload)
  | [],payloads => some payloads
  | nal::nals,payloads =>
    if nal.isEmpty then packetizeLoop fuel maxPayload nals payloads
    else if nal.length ≤ maxPayload then packetizeLoop fuel maxPayload nals (payloads ++ [nal])
    else match fragmentFuA fuel nal maxPayload payloads with
      | none => none
      | some payloads => packetizeLoop fuel maxPayload nals payloads

def H264Packetizer.packetize (p : H264Packetizer) (fuel : Nat) (annexB : List Byte) : Option (List Payload) :=
  packetizeLoop fuel (p.mtu - rtpHeaderSize) (splitAnnexB annexB) []

def payloadType (b : Byte) : Byte := b &&& 0x1F
def startBit (fuHeader : Byte) : Bool := fuHeader &&& 0x80 != 0
def endBit (fuHeader : Byte) : Bool := fuHeader &&& 0x40 != 0

def receiveFuA (pending : Option Nal) (indicator fu : Byte) (chunk : List Byte) :
    Option (Option Nal × List Nal) :=
  match startBit fu,endBit fu,pending with
  | true,false,none => some (some (((indicator &&& 0xE0) ||| payloadType fu)::chunk),[])
  | false,false,some nal => some (some (nal ++ chunk),[])
  | false,true,some nal => some (none,[nal ++ chunk])
  | _,_,_ => none

def receive (pending : Option Nal) : Payload → Option (Option Nal × List Nal)
  | [] => none
  | b::tail =>
    if 1 ≤ payloadType b ∧ payloadType b ≤ 23 then
      if pending.isNone then some (none,[b::tail]) else none
    else if payloadType b = 28 then
      match tail with
      | [] => none
      | fu::chunk => receiveFuA pending b fu chunk
    else none

def depacketize (pending : Option Nal) : List Payload → Option (List Nal)
  | [] => if pending.isNone then some [] else none
  | payload::payloads => match receive pending payload with
    | none => none
    | some (pending,done) => (depacketize pending payloads).map (done ++ ·)

end Vscreen.H264
