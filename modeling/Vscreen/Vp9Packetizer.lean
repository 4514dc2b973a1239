import Mathlib.Algebra.Group.Nat.Defs
import Vscreen.Bytes

/-! The VP9 RTP payload format of vscreen-rtsp (vp9_packetizer.rs), and the payload
descriptor as RFC 9628 reads it. A loop that can fail to advance takes fuel. -/
namespace Vscreen.Vp9

abbrev Payload := List Byte

def defaultMtu : Nat := 1200

structure Vp9Packetizer where
  pictureId : UInt16
  mtu : Nat
  width : UInt16
  height : UInt16
  inRange : pictureId.toNat < 2^15

theorem maskedInRange (pid : UInt16) : (pid &&& 0x7FFF).toNat < 2^15 := by
  have masked := Nat.and_le_right (n := pid.toNat) (m := 0x7FFF)
  have same : (pid &&& 0x7FFF).toNat = pid.toNat &&& 0x7FFF := by simp
  omega

namespace Vp9Packetizer

def new (width height : UInt16) : Vp9Packetizer := ⟨0,defaultMtu,width,height,by decide⟩

def withMtu (width height : UInt16) (mtu : Nat) : Vp9Packetizer := ⟨0,max mtu 100,width,height,by decide⟩

def setResolution (p : Vp9Packetizer) (width height : UInt16) : Vp9Packetizer :=
  {p with width := width, height := height}

def advance (p : Vp9Packetizer) : Vp9Packetizer :=
  {p with pictureId := (p.pictureId + 1) &&& 0x7FFF, inRange := maskedInRange _}

def bit (b : Bool) : Byte := if b then 1 else 0

def flags (isKeyframe isStart isEnd includeSs : Bool) : Byte :=
  ((1 : Byte) <<< 7) ||| (bit (!isKeyframe) <<< 6) ||| ((0 : Byte) <<< 5) ||| ((0 : Byte) <<< 4) ||| (bit isStart <<< 3) |||
    (bit isEnd <<< 2) ||| (bit includeSs <<< 1) ||| 0

def buildDescriptor (p : Vp9Packetizer) (isKeyframe isStart isEnd includeSs : Bool) (pid : UInt16) :
    List Byte :=
  [flags isKeyframe isStart isEnd includeSs,(0x80 : Byte) ||| ((pid >>> 8) &&& 0x7F).toUInt8,(pid &&& 0xFF).toUInt8] ++
    if includeSs then
      [(0x10 : Byte),(p.width >>> 8).toUInt8,(p.width &&& 0xFF).toUInt8,(p.height >>> 8).toUInt8,(p.height &&& 0xFF).toUInt8]
    else []

def continuationMaxPayload (p : Vp9Packetizer) (isKeyframe : Bool) (pid : UInt16) : Nat :=
  p.mtu - (p.buildDescriptor isKeyframe false true false pid).length

def continuationLoop (p : Vp9Packetizer) (frame : List Byte) (isKeyframe : Bool) (pid : UInt16) :
    (fuel offset : Nat) → List Payload → Option (List Payload)
  | 0,offset,packets => if offset < frame.length then none else some packets
  | fuel + 1,offset,packets =>
    if offset < frame.length then
      let isLast := decide (frame.length - offset ≤ p.continuationMaxPayload isKeyframe pid)
      let desc := p.buildDescriptor isKeyframe false isLast false pid
      let maxPayload := p.mtu - desc.length
      let stop := min (offset + maxPayload) frame.length
      continuationLoop p frame isKeyframe pid fuel stop (packets ++ [desc ++ slice frame offset stop])
    else some packets

def packets (p : Vp9Packetizer) (fuel : Nat) (frame : List Byte) (isKeyframe : Bool) : Option (List Payload) :=
  let pid := p.pictureId
  if frame.isEmpty then some [p.buildDescriptor isKeyframe true true true pid]
  else
    let firstDescriptor := p.buildDescriptor isKeyframe true false isKeyframe pid
    let firstMaxPayload := p.mtu - firstDescriptor.length
    if frame.length ≤ firstMaxPayload then
      some [p.buildDescriptor isKeyframe true true isKeyframe pid ++ frame]
    else
      let chunkSize := min firstMaxPayload frame.length
      p.continuationLoop frame isKeyframe pid fuel chunkSize [firstDescriptor ++ frame.take chunkSize]

def packetize (p : Vp9Packetizer) (fuel : Nat) (frame : List Byte) (isKeyframe : Bool) :
    Vp9Packetizer × Option (List Payload) :=
  (p.advance,p.packets fuel frame isKeyframe)

end Vp9Packetizer

def packetizeAll (fuel : Nat) : Vp9Packetizer → List (List Byte × Bool) → Option (List (List Payload))
  | _,[] => some []
  | p,(frame,isKeyframe)::frames => match p.packetize fuel frame isKeyframe with
    | (_,none) => none
    | (p,some packets) => (packetizeAll fuel p frames).map (packets :: ·)

structure Descriptor where
  pictureId : Option Nat
  interPredicted : Bool
  startOfFrame : Bool
  endOfFrame : Bool
  scalability : Bool
  deriving DecidableEq, Repr

def skip (n : Nat) (data : List Byte) : Option (List Byte) :=
  if n ≤ data.length then some (data.drop n) else none

def readPictureId : List Byte → Option (Nat × List Byte)
  | [] => none
  | b::data => if b &&& 0x80 = 0 then some (b.toNat,data)
    else match data with
      | [] => none
      | c::data => some ((b &&& 0x7F).toNat * 256 + c.toNat,data)

def skipReferences : (more : Nat) → List Byte → Option (List Byte)
  | _,[] => none
  | 0,_::data => some data
  | n + 1,b::data => if b &&& 1 = 0 then some data else skipReferences n data

def skipGroup : (pictures : Nat) → List Byte → Option (List Byte)
  | 0,data => some data
  | _ + 1,[] => none
  | n + 1,b::data => (skip ((b >>> 2) &&& 3).toNat data).bind (skipGroup n)

def skipScalability : List Byte → Option (List Byte)
  | [] => none
  | b::data => do
    let data ← if b &&& 0x10 = 0 then some data else skip (4 * ((b >>> 5).toNat + 1)) data
    if b &&& 0x08 = 0 then some data
    else match data with
      | [] => none
      | n::data => skipGroup n.toNat data

def readDescriptor : List Byte → Option (Descriptor × List Byte)
  | [] => none
  | b::data => do
    let (pictureId,data) ← if b &&& 0x80 = 0 then some (none,data)
      else (readPictureId data).map (fun r => (some r.1,r.2))
    let data ← if b &&& 0x20 = 0 then some data else skip (if b &&& 0x10 = 0 then 2 else 1) data
    let data ← if b &&& 0x10 = 0 ∨ b &&& 0x40 = 0 then some data else skipReferences 2 data
    let data ← if b &&& 0x02 = 0 then some data else skipScalability data
    some (⟨pictureId,b &&& 0x40 != 0,b &&& 0x08 != 0,b &&& 0x04 != 0,b &&& 0x02 != 0⟩,data)

end Vscreen.Vp9
