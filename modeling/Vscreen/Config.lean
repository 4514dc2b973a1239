import Vscreen.AudioEncode

/-! The configuration of an instance (vscreen-core, config.rs and instance.rs) and
the states its watch channel goes through. -/
namespace Vscreen
open Audio (AudioConfig)
open Rtsp (VideoCodec)

structure VideoConfig where
  width : UInt32
  height : UInt32
  framerate : UInt32
  bitrateKbps : UInt32
  keyframeInterval : UInt32
  cpuUsed : UInt32
  minBitrateKbps : UInt32
  maxBitrateKbps : UInt32
  codec : VideoCodec
  deriving DecidableEq, Repr

def VideoConfig.default : VideoConfig := ⟨1920,1080,30,6000,60,8,1000,10000,.h264⟩

def Audio.AudioConfig.default : AudioConfig := ⟨48000,2,128,20⟩

structure RtpOutputConfig where
  address : Text
  port : UInt16
  multicast : Bool
  deriving DecidableEq, Repr

structure InstanceConfig where
  instanceId : InstanceId
  cdpEndpoint : Text
  pulseSource : Text
  display : Option Text
  video : VideoConfig
  audio : AudioConfig
  rtpOutput : Option RtpOutputConfig
  deriving DecidableEq, Repr

structure LimitsConfig where
  maxInstances : UInt32
  maxPeersPerInstance : UInt32
  frameQueueDepth : Nat
  maxFrameSizeBytes : Nat
  deriving DecidableEq, Repr

def LimitsConfig.default : LimitsConfig := ⟨16,8,3,2 * 1024 * 1024⟩

structure DefaultsConfig where
  video : VideoConfig
  audio : AudioConfig
  rtpOutput : Option RtpOutputConfig
  deriving DecidableEq, Repr

def DefaultsConfig.default : DefaultsConfig := ⟨.default,.default,none⟩

structure AppConfig where
  listen : Text
  limits : LimitsConfig
  defaults : DefaultsConfig
  deriving DecidableEq, Repr

def AppConfig.default : AppConfig := ⟨"0.0.0.0:8450".toList,.default,.default⟩

inductive ConfigError where
  | invalidValue (field reason : Text)
  | outOfRange (field : Text) (min max : UInt64)
  deriving DecidableEq, Repr

namespace AppConfig

def positive (field : String) (value : Nat) : List ConfigError :=
  if value = 0 then [.invalidValue field.toList "must be > 0".toList] else []

def within (field : String) (min max : UInt64) (value : Nat) : List ConfigError :=
  if value < min.toNat ∨ max.toNat < value then [.outOfRange field.toList min max] else []

def errors (c : AppConfig) : List ConfigError :=
  (if c.listen.isEmpty then [.invalidValue "server.listen".toList "must not be empty".toList] else []) ++
    positive "limits.max_instances" c.limits.maxInstances.toNat ++
    positive "limits.max_peers_per_instance" c.limits.maxPeersPerInstance.toNat ++
    within "limits.frame_queue_depth" 1 30 c.limits.frameQueueDepth ++
    within "defaults.video.framerate" 1 60 c.defaults.video.framerate.toNat ++
    positive "defaults.video.bitrate_kbps" c.defaults.video.bitrateKbps.toNat

def validate (c : AppConfig) : Except (List ConfigError) Unit :=
  if c.errors.isEmpty then .ok () else .error c.errors

end AppConfig

inductive DegradedReason where
  | cdpDisconnected (reconnectAttempt : UInt32)
  | audioSourceLost (reconnectAttempt : UInt32)
  | encoderOverloaded (droppedFrames : UInt64)
  deriving DecidableEq, Repr

inductive FailureReason where
  | cdpReconnectExhausted
  | audioSourcePermanentlyLost
  | internalError (message : Text)
  deriving DecidableEq, Repr

inductive InstanceState where
  | created
  | starting
  | running
  | degraded (reason : DegradedReason) (since : Time)
  | failed (reason : FailureReason) (since : Time)
  | stopping
  | stopped
  deriving DecidableEq, Repr

end Vscreen
