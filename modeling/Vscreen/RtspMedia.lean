import Vscreen.CaseMapping
import Vscreen.Instance

/-! What an RTSP session carries: media types and configurations (session.rs),
quality tiers (quality.rs), and the SDP that describes them (sdp.rs). -/
namespace Vscreen.Rtsp
open Text

inductive MediaType where
  | video
  | audio
  deriving DecidableEq, Repr

structure MediaConfig where
  video : Bool
  audio : Bool
  deriving DecidableEq, Repr

namespace MediaConfig

def default : MediaConfig := ⟨true,true⟩

def audioOnly : MediaConfig := ⟨false,true⟩

def carries (media : MediaConfig) : MediaType → Bool
  | .video => media.video
  | .audio => media.audio

end MediaConfig

inductive QualityTier where
  | low
  | medium
  | standard
  | high
  | custom (kbps : UInt32) (channels : UInt16)
  deriving DecidableEq, Repr

namespace QualityTier

def bitrateBps : QualityTier → UInt32
  | low => 32000
  | medium => 64000
  | standard => 128000
  | high => 256000
  | custom kbps _ => kbps * 1000

def isMaster (tier : QualityTier) : Bool := tier = high

def needsTranscode (tier : QualityTier) : Bool := !tier.isMaster

def fromName (u : CaseMapping) (name : Text) : Option QualityTier :=
  let lower := u.toLowercase name
  if lower = "low".toList then some low
  else if lower = "medium".toList ∨ lower = "med".toList then some medium
  else if lower = "standard".toList ∨ lower = "std".toList then some standard
  else if lower = "high".toList ∨ lower = "hq".toList then some high
  else none

def customOf (kbps : UInt32) (channels : Option UInt16) : QualityTier :=
  custom kbps (channels.getD (if kbps ≥ 96 then 2 else 1))

end QualityTier

inductive VideoCodec where
  | h264
  | vp9
  deriving DecidableEq, Repr

structure IpAddr where
  ipv6 : Bool
  display : Text
  oneLine : '\n' ∉ display

structure SdpParams where
  instanceId : Text
  serverIp : IpAddr
  sessionVersion : Nat
  tier : QualityTier
  ptimeMs : UInt32
  media : MediaConfig
  videoCodec : VideoCodec
  videoWidth : UInt32
  videoHeight : UInt32
  framerate : UInt32

def crlf : Text := ['\r','\n']

namespace SdpParams

def ipVer (p : SdpParams) : Text := if p.serverIp.ipv6 then "IP6".toList else "IP4".toList

def sessionLines (p : SdpParams) : List Text :=
  ["v=0".toList,
   "o=vscreen ".toList ++ decimal p.sessionVersion ++ " 1 IN ".toList ++ p.ipVer ++ " ".toList ++ p.serverIp.display,
   "s=vscreen stream (".toList ++ p.instanceId ++ ")".toList,
   "c=IN ".toList ++ p.ipVer ++ " ".toList ++ p.serverIp.display,
   "t=0 0".toList]

def codecLines (p : SdpParams) : List Text := match p.videoCodec with
  | .vp9 => ["a=rtpmap:96 VP9/90000".toList,
      "a=framesize:96 ".toList ++ decimal p.videoWidth.toNat ++ "-".toList ++ decimal p.videoHeight.toNat]
  | .h264 => ["a=rtpmap:96 H264/90000".toList,"a=fmtp:96 profile-level-id=42c01f;packetization-mode=1".toList]

def videoLines (p : SdpParams) : List Text :=
  ["m=video 0 RTP/AVP 96".toList] ++ p.codecLines ++
    ["a=framerate:".toList ++ decimal p.framerate.toNat,"a=control:trackID=0".toList]

def audioLines (p : SdpParams) : List Text :=
  ["m=audio 0 RTP/AVP 111".toList,
   "a=rtpmap:111 opus/48000/2".toList,
   "a=fmtp:111 minptime=10;useinbandfec=1;maxaveragebitrate=".toList ++ decimal p.tier.bitrateBps.toNat,
   "a=ptime:".toList ++ decimal p.ptimeMs.toNat,
   "a=control:trackID=1".toList]

def lines (p : SdpParams) : List Text :=
  p.sessionLines ++ (if p.media.video then p.videoLines else []) ++ (if p.media.audio then p.audioLines else [])

end SdpParams

def generateSdp (p : SdpParams) : Text := p.lines.flatMap (· ++ crlf)

end Vscreen.Rtsp
