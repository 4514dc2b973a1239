import Mathlib.Data.Nat.Log
import Vscreen.Arith
import Vscreen.VideoFrames

/-! The two encoders (encode.rs and h264_encode.rs). libvpx and openh264 are
parameters: what they answer to a call is an argument, and of the encoders they make
the model keeps the configuration these were made with. `none` is a panic. -/
namespace Vscreen.Video
open Rtsp (VideoCodec)

-- `x as f32`: 24 significant bits, to the nearest, half to even.
def asF32 (n : Nat) : Nat :=
  let unit := 2^(Nat.log2 n - 23)
  let quotient := n / unit
  let rest := n % unit
  if rest = 0 then n
  else if 2 * rest < unit then quotient * unit
  else if unit < 2 * rest then (quotient + 1) * unit
  else (quotient + quotient % 2) * unit

structure VpxEncCfg where
  gW : UInt32
  gH : UInt32
  gTimebaseNum : Int
  gTimebaseDen : Int
  rcTargetBitrate : UInt32
  kfMaxDist : UInt32
  cpuUsed : Int
  deriving DecidableEq, Repr

def VpxEncCfg.of (config : VideoConfig) : VpxEncCfg :=
  ⟨config.width,config.height,1,asI32 config.framerate,config.bitrateKbps,config.keyframeInterval,asI32 config.cpuUsed⟩

inductive VpxInit where
  | noInterface
  | configDefault (ret : Text)
  | encInit (ret : Text)
  | ready

structure EncodedFrame where
  data : List Byte
  key : Bool
  deriving DecidableEq, Repr

inductive VpxEncode where
  | imgWrap
  | failed (ret : Text)
  | packets (answer : List (Option EncodedFrame))

def maxEncodedSize : Nat := 64 * 1024 * 1024

def collectFrames : List (Option EncodedFrame) → Except VideoError (List EncodedFrame)
  | [] => .ok []
  | none::rest => collectFrames rest
  | some f::rest =>
    if maxEncodedSize < f.data.length then
      .error (.encodeFailed ("encoded frame size ".toList ++ Text.decimal f.data.length ++
        " exceeds maximum ".toList ++ Text.decimal maxEncodedSize))
    else match collectFrames rest with
      | .error e => .error e
      | .ok frames => .ok (f::frames)

def VpxEncode.frames : VpxEncode → Except VideoError (List EncodedFrame)
  | .imgWrap => .error (.encodeFailed "vpx_img_wrap failed".toList)
  | .failed ret => .error (.encodeFailed ("encode: ".toList ++ ret))
  | .packets answer => collectFrames answer

inductive FrameType where
  | invalid
  | idr
  | i
  | p
  | skip
  | ipMixed
  deriving DecidableEq, Repr

def FrameType.isKeyframe : FrameType → Bool
  | .idr => true
  | .i => true
  | _ => false

structure EncoderConfig where
  bitrateBps : UInt32
  maxFrameRate : Nat
  deriving DecidableEq, Repr

def EncoderConfig.of (config : VideoConfig) : EncoderConfig := ⟨config.bitrateKbps * 1000,asF32 config.framerate.toNat⟩

-- `force_intra_frame` holds until a frame is encoded: `intraForced` is the library's own.
structure OpenH264Encoder where
  config : EncoderConfig
  intraForced : Bool
  deriving DecidableEq, Repr

-- What the libraries answer during one call. A frame that is encoded on demand as a
-- keyframe is one.
structure Libraries where
  decoder : JpegDecoder
  vpxInit : VpxInit
  vpxEncode : (force : Bool) → VpxEncode
  h264Init : Except Text Unit
  h264Encode : (force : Bool) → Except Text (FrameType × List Byte)
  vpxForced : ∀ frames, (vpxEncode true).frames = .ok frames → ∃ f ∈ frames, f.key = true ∧ f.data ≠ []
  h264Forced : ∀ frameType data, h264Encode true = .ok (frameType,data) → frameType.isKeyframe = true

structure Encoded where
  packet : EncodedPacket
  forced : Bool
  deriving DecidableEq, Repr

def checkResolution (config : VideoConfig) : Except VideoError Unit :=
  if config.width = 0 ∨ config.height = 0 then .error (.invalidResolution config.width config.height)
  else if config.width % 2 ≠ 0 ∨ config.height % 2 ≠ 0 then .error (.invalidResolution config.width config.height)
  else .ok ()

structure VpxCtx where
  cfg : VpxEncCfg
  width : UInt32
  height : UInt32
  deriving DecidableEq, Repr

namespace VpxCtx

def new (config : VideoConfig) : VpxInit → Except VideoError VpxCtx
  | .noInterface => .error (.encodeFailed "vpx_codec_vp9_cx returned null".toList)
  | .configDefault ret => .error (.encodeFailed ("config default: ".toList ++ ret))
  | .encInit ret => .error (.encodeFailed ("enc init: ".toList ++ ret))
  | .ready => .ok ⟨.of config,config.width,config.height⟩

def expectedSize (ctx : VpxCtx) : Nat := ctx.width.toNat * ctx.height.toNat * 3 / 2

def encode (ctx : VpxCtx) (i420Data : List Byte) (forceKeyframe : Bool) (lib : Libraries) :
    Except VideoError (List EncodedFrame) :=
  if i420Data.length < ctx.expectedSize then
    .error (.encodeFailed ("I420 buffer too small: got ".toList ++ Text.decimal i420Data.length ++
      " bytes, need at least ".toList ++ Text.decimal ctx.expectedSize))
  else (lib.vpxEncode forceKeyframe).frames

end VpxCtx

structure Vp9Encoder where
  ctx : VpxCtx
  config : VideoConfig
  frameCount : UInt64
  keyframeRequested : Bool
  i420Buf : List Byte
  deriving DecidableEq, Repr

def bufSize (config : VideoConfig) : Nat := ySize config.width config.height + 2 * uvSize config.width config.height

def resizeBuf (buf : List Byte) (size : Nat) : List Byte := buf.take size ++ List.replicate (size - buf.length) 0

namespace Vp9Encoder

def new (config : VideoConfig) (lib : Libraries) : Except VideoError Vp9Encoder := match checkResolution config with
  | .error e => .error e
  | .ok () => match VpxCtx.new config lib.vpxInit with
    | .error e => .error e
    | .ok ctx => .ok ⟨ctx,config,0,true,List.replicate (bufSize config) 0⟩

def flattenI420 (e : Vp9Encoder) (frame : I420Buffer) : Option (List Byte) :=
  match copyInto e.i420Buf 0 frame.y with
  | none => none
  | some buf => match copyInto buf frame.y.length frame.u with
    | none => none
    | some buf => copyInto buf (frame.y.length + frame.u.length) frame.v

def encode (e : Vp9Encoder) (frame : I420Buffer) (lib : Libraries) : Option (Vp9Encoder × Except VideoError Encoded) :=
  if frame.width ≠ e.config.width ∨ frame.height ≠ e.config.height then
    some (e,.error (.invalidResolution frame.width frame.height))
  else match e.flattenI420 frame with
    | none => none
    | some buf =>
      let forceKf := e.keyframeRequested
      let e := {e with i420Buf := buf, keyframeRequested := false}
      match e.ctx.encode buf forceKf lib with
      | .error error => some (e,.error error)
      | .ok frames =>
        let encodedData := frames.flatMap (·.data)
        let isKeyframe := if encodedData.isEmpty then e.frameCount == 0 else frames.any (·.key)
        -- `1000 / framerate`
        if e.config.framerate = 0 then none
        else some ({e with frameCount := e.frameCount + 1},
          .ok ⟨⟨encodedData,isKeyframe,e.frameCount,some (1000 / e.config.framerate.toUInt64),some .vp9⟩,forceKf⟩)

def requestKeyframe (e : Vp9Encoder) : Vp9Encoder := {e with keyframeRequested := true}

def reconfigure (e : Vp9Encoder) (config : VideoConfig) (lib : Libraries) : Except VideoError Vp9Encoder :=
  match checkResolution config with
  | .error error => .error error
  | .ok () => match VpxCtx.new config lib.vpxInit with
    | .error error => .error error
    | .ok ctx =>
      .ok {e with ctx := ctx, i420Buf := resizeBuf e.i420Buf (bufSize config), config := config, keyframeRequested := true}

end Vp9Encoder

structure H264Encoder where
  encoder : OpenH264Encoder
  config : VideoConfig
  frameCount : UInt64
  keyframeRequested : Bool
  deriving DecidableEq, Repr

namespace H264Encoder

def buildEncoder (config : VideoConfig) (lib : Libraries) : Except VideoError OpenH264Encoder := match lib.h264Init with
  | .error e => .error (.encodeFailed ("openh264 init: ".toList ++ e))
  | .ok () => .ok ⟨.of config,false⟩

def new (config : VideoConfig) (lib : Libraries) : Except VideoError H264Encoder := match checkResolution config with
  | .error e => .error e
  | .ok () => match buildEncoder config lib with
    | .error e => .error e
    | .ok encoder => .ok ⟨encoder,config,0,true⟩

def encode (e : H264Encoder) (frame : I420Buffer) (lib : Libraries) : Option (H264Encoder × Except VideoError Encoded) :=
  if frame.width ≠ e.config.width ∨ frame.height ≠ e.config.height then
    some (e,.error (.invalidResolution frame.width frame.height))
  else
    let forced := e.keyframeRequested || e.encoder.intraForced
    let e := {e with encoder := {e.encoder with intraForced := forced}, keyframeRequested := false}
    match lib.h264Encode forced with
    | .error error => some (e,.error (.encodeFailed ("openh264 encode: ".toList ++ error)))
    | .ok (frameType,data) =>
      if e.config.framerate = 0 then none
      else some ({e with encoder := {e.encoder with intraForced := false}, frameCount := e.frameCount + 1},
        .ok ⟨⟨data,frameType.isKeyframe,e.frameCount,some (1000 / e.config.framerate.toUInt64),some .h264⟩,forced⟩)

def requestKeyframe (e : H264Encoder) : H264Encoder := {e with keyframeRequested := true}

def reconfigure (e : H264Encoder) (config : VideoConfig) (lib : Libraries) : Except VideoError H264Encoder :=
  match checkResolution config with
  | .error error => .error error
  | .ok () => match buildEncoder config lib with
    | .error error => .error error
    | .ok encoder => .ok {e with encoder := encoder, config := config, keyframeRequested := true}

end H264Encoder

inductive VideoEncoder where
  | vp9 (e : Vp9Encoder)
  | h264 (e : H264Encoder)
  deriving DecidableEq, Repr

namespace VideoEncoder

def codec : VideoEncoder → VideoCodec
  | .vp9 _ => .vp9
  | .h264 _ => .h264

def config : VideoEncoder → VideoConfig
  | .vp9 e => e.config
  | .h264 e => e.config

def encode (frame : I420Buffer) (lib : Libraries) : VideoEncoder → Option (VideoEncoder × Except VideoError Encoded)
  | .vp9 e => (e.encode frame lib).map fun r => (.vp9 r.1,r.2)
  | .h264 e => (e.encode frame lib).map fun r => (.h264 r.1,r.2)

def requestKeyframe : VideoEncoder → VideoEncoder
  | .vp9 e => .vp9 e.requestKeyframe
  | .h264 e => .h264 e.requestKeyframe

def reconfigure (config : VideoConfig) (lib : Libraries) : VideoEncoder → Except VideoError VideoEncoder
  | .vp9 e => match e.reconfigure config lib with
    | .error error => .error error
    | .ok e => .ok (.vp9 e)
  | .h264 e => match e.reconfigure config lib with
    | .error error => .error error
    | .ok e => .ok (.h264 e)

def pending : VideoEncoder → Bool
  | .vp9 e => e.keyframeRequested
  | .h264 e => e.keyframeRequested || e.encoder.intraForced

end VideoEncoder
end Vscreen.Video
