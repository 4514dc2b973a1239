import Vscreen.Bytes
import Vscreen.RtspMedia

/-! Encoded packets (frame.rs) and the Opus encoder of vscreen-audio (encode.rs).
libopus is a parameter, over its own states and a type of samples. -/
namespace Vscreen

structure EncodedPacket where
  data : List Byte
  isKeyframe : Bool
  pts : UInt64
  duration : Option UInt64
  codec : Option Rtsp.VideoCodec
  deriving DecidableEq, Repr

inductive Numbered : UInt64 → List EncodedPacket → Prop where
  | nil (pts : UInt64) : Numbered pts []
  | cons {pts packet packets} (counted : packet.pts = pts) (rest : Numbered (pts + 1) packets) :
      Numbered pts (packet::packets)

namespace Audio

def maxOpusFrameSize : Nat := 4000

abbrev OpusFrame := {data : List Byte // data.length ≤ maxOpusFrameSize}

structure LibOpus (σ Sample : Type) where
  newEncoder : (sampleRate : UInt32) → (channels : UInt16) → (bitrateKbps : UInt32) → Option σ
  encodeFloat : (sampleRate : UInt32) → (channels : UInt16) → σ → List Sample → σ × Option OpusFrame

def frameUnits : List Nat := [1,2,4,8,16,24,32,40,48]

def LibOpus.Documented {σ Sample : Type} (opus : LibOpus σ Sample) : Prop :=
  ∀ rate channels state samples, (opus.encodeFloat rate channels state samples).2.isSome →
    ∃ units ∈ frameUnits, 400 * (samples.length / channels.toNat) = units * rate.toNat

structure AudioConfig where
  sampleRate : UInt32
  channels : UInt16
  bitrateKbps : UInt32
  frameDurationMs : UInt32
  deriving DecidableEq, Repr

def channelsFromCount (ch : UInt16) : Option UInt16 := if ch = 1 ∨ ch = 2 then some ch else none

def sampleRates : List UInt32 := [48000,24000,16000,12000,8000]

def sampleRateFromHz (hz : UInt32) : Option UInt32 := if hz ∈ sampleRates then some hz else none

def AudioConfig.samplesPerFrame (config : AudioConfig) : Nat :=
  config.sampleRate.toNat * config.frameDurationMs.toNat / 1000 * config.channels.toNat

def AudioConfig.Admitted (config : AudioConfig) : Prop :=
  config.sampleRate ∈ sampleRates ∧ (config.channels = 1 ∨ config.channels = 2)

instance (config : AudioConfig) : Decidable config.Admitted := by unfold AudioConfig.Admitted; infer_instance

structure OpusEncoder (σ : Type) where
  inner : σ
  config : AudioConfig
  frameCount : UInt64
  admitted : config.Admitted

namespace OpusEncoder
variable {σ Sample : Type} (opus : LibOpus σ Sample)

def make (config : AudioConfig) (frameCount : UInt64) : Option (OpusEncoder σ) :=
  match rate : sampleRateFromHz config.sampleRate,count : channelsFromCount config.channels with
  | some sr,some ch => match opus.newEncoder sr ch config.bitrateKbps with
    | none => none
    | some inner => some ⟨inner,config,frameCount,by
        simp only [sampleRateFromHz,channelsFromCount] at rate count
        split at rate <;> split at count <;> simp_all [AudioConfig.Admitted]⟩
  | _,_ => none

def new (config : AudioConfig) : Option (OpusEncoder σ) := make opus config 0

def reconfigure (e : OpusEncoder σ) (config : AudioConfig) : Option (OpusEncoder σ) := make opus config e.frameCount

theorem makeConfig {config : AudioConfig} {frameCount : UInt64} {e : OpusEncoder σ}
    (made : make opus config frameCount = some e) : e.config = config ∧ e.frameCount = frameCount := by
  unfold make at made
  split at made
  · split at made
    · contradiction
    · cases made
      exact ⟨rfl,rfl⟩
  · contradiction

def encode (e : OpusEncoder σ) (samples : List Sample) : OpusEncoder σ × Option EncodedPacket :=
  if samples.length < e.config.samplesPerFrame then (e,none)
  else
    let encoded := opus.encodeFloat e.config.sampleRate e.config.channels e.inner (samples.take e.config.samplesPerFrame)
    match encoded.2 with
    | none => ({e with inner := encoded.1},none)
    | some frame =>
      let packet := ⟨frame.1,e.frameCount = 0,e.frameCount,some e.config.frameDurationMs.toUInt64,none⟩
      ({e with inner := encoded.1, frameCount := e.frameCount + 1},some packet)

end OpusEncoder
end Audio
end Vscreen
