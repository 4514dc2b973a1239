import Vscreen.Machine
import Vscreen.VideoEncoders

/-! `VideoPipeline` (pipeline.rs) with its calls in any order. A panic drops the
pipeline with the thread that owns it. -/
namespace Vscreen.Video
open Rtsp (VideoCodec)

structure VideoPipeline where
  encoder : VideoEncoder
  codec : VideoCodec
  config : VideoConfig
  framesProcessed : UInt64
  framesDropped : UInt64
  deriving DecidableEq, Repr

namespace VideoPipeline

def makeEncoder (config : VideoConfig) (lib : Libraries) : VideoCodec → Except VideoError VideoEncoder
  | .vp9 => match Vp9Encoder.new config lib with
    | .error e => .error e
    | .ok encoder => .ok (.vp9 encoder)
  | .h264 => match H264Encoder.new config lib with
    | .error e => .error e
    | .ok encoder => .ok (.h264 encoder)

def withCodec (config : VideoConfig) (codec : VideoCodec) (lib : Libraries) : Except VideoError VideoPipeline :=
  match makeEncoder config lib codec with
  | .error e => .error e
  | .ok encoder => .ok ⟨encoder,codec,config,0,0⟩

def new (config : VideoConfig) (lib : Libraries) : Except VideoError VideoPipeline := withCodec config config.codec lib

def reconfigure (p : VideoPipeline) (config : VideoConfig) (lib : Libraries) : Except VideoError VideoPipeline :=
  match p.encoder.reconfigure config lib with
  | .error e => .error e
  | .ok encoder => .ok {p with encoder := encoder, config := config}

def resized (p : VideoPipeline) (frame : RgbFrame) : Option VideoConfig :=
  if frame.width ≠ p.config.width ∨ frame.height ≠ p.config.height then
    some {p.config with width := frame.width, height := frame.height}
  else none

def resize (p : VideoPipeline) (frame : RgbFrame) (lib : Libraries) : Except VideoError VideoPipeline :=
  match p.resized frame with
  | none => .ok p
  | some config => p.reconfigure config lib

def encodeFrame (p : VideoPipeline) (frame : I420Buffer) (lib : Libraries) :
    Option (VideoPipeline × Except VideoError Encoded) := match p.encoder.encode frame lib with
  | none => none
  | some (encoder,.error e) => some ({p with encoder := encoder},.error e)
  | some (encoder,.ok encoded) =>
    some ({p with encoder := encoder, framesProcessed := p.framesProcessed + 1},.ok encoded)

def process (colours : Colours) (p : VideoPipeline) (jpegData : List Byte) (lib : Libraries) :
    Option (VideoPipeline × Except VideoError Encoded) := match decodeJpeg jpegData lib.decoder with
  | .error e => some (p,.error e)
  | .ok decoded => match padToEven decoded with
    | none => none
    | some frame => match p.resize frame lib with
      | .error e => some (p,.error e)
      | .ok p => match rgbToI420 colours frame with
        | none => none
        | some (.error e) => some (p,.error e)
        | some (.ok i420) => p.encodeFrame i420 lib

def reconfigureBitrate (p : VideoPipeline) (bitrateKbps : UInt32) (lib : Libraries) : VideoPipeline :=
  match p.reconfigure {p.config with bitrateKbps := bitrateKbps} lib with
  | .error _ => p
  | .ok p => p

def requestKeyframe (p : VideoPipeline) : VideoPipeline := {p with encoder := p.encoder.requestKeyframe}

def recordDrop (p : VideoPipeline) : VideoPipeline := {p with framesDropped := p.framesDropped + 1}

end VideoPipeline

-- `owed`: a keyframe was asked for and no frame has been encoded since.
structure Session where
  pipeline : Option VideoPipeline
  owed : Bool

inductive Event where
  | start (config : VideoConfig) (codec : VideoCodec) (lib : Libraries)
  | requestKeyframe
  | process (jpegData : List Byte) (lib : Libraries)
  | reconfigure (config : VideoConfig) (lib : Libraries)
  | reconfigureBitrate (bitrateKbps : UInt32) (lib : Libraries)
  | recordDrop

inductive Output where
  | started (result : Except VideoError Unit)
  | packet (encoded : Encoded) (owed : Bool)
  | failed (error : VideoError)
  | panicked
  | reconfigured (result : Except VideoError Unit)
  deriving DecidableEq

namespace Session

def start (s : Session) (config : VideoConfig) (codec : VideoCodec) (lib : Libraries) : Session × List Output :=
  match VideoPipeline.withCodec config codec lib with
  | .error e => (s,[.started (.error e)])
  | .ok p => (⟨some p,false⟩,[.started (.ok ())])

def process (colours : Colours) (s : Session) (p : VideoPipeline) (jpegData : List Byte) (lib : Libraries) :
    Session × List Output := match p.process colours jpegData lib with
  | none => (⟨none,false⟩,[.panicked])
  | some (p,.error e) => (⟨some p,s.owed⟩,[.failed e])
  | some (p,.ok encoded) => (⟨some p,false⟩,[.packet encoded s.owed])

def reconfigure (s : Session) (p : VideoPipeline) (config : VideoConfig) (lib : Libraries) : Session × List Output :=
  match p.reconfigure config lib with
  | .error e => (s,[.reconfigured (.error e)])
  | .ok p => (⟨some p,s.owed⟩,[.reconfigured (.ok ())])

def call (colours : Colours) (s : Session) (p : VideoPipeline) : Event → Session × List Output
  | .start config codec lib => s.start config codec lib
  | .requestKeyframe => (⟨some p.requestKeyframe,true⟩,[])
  | .process jpegData lib => s.process colours p jpegData lib
  | .reconfigure config lib => s.reconfigure p config lib
  | .reconfigureBitrate bitrateKbps lib => (⟨some (p.reconfigureBitrate bitrateKbps lib),s.owed⟩,[])
  | .recordDrop => (⟨some p.recordDrop,s.owed⟩,[])

def step (colours : Colours) (s : Session) (event : Event) : Option (Session × List Output) :=
  match s.pipeline,event with
  | some p,event => some (s.call colours p event)
  | none,.start config codec lib => some (s.start config codec lib)
  | none,_ => none

end Session

def session (colours : Colours) : Machine Session Event Output where
  init := ⟨none,false⟩
  step := Session.step colours

end Vscreen.Video
