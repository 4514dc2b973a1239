import Vscreen.VideoPipeline

/-! What holds of a pipeline in every run: its encoder, and the codec that the encoder
made, stand at the pipeline's own configuration. -/
namespace Vscreen.Video
open Rtsp (VideoCodec)

structure Even (config : VideoConfig) : Prop where
  positive : config.width ≠ 0 ∧ config.height ≠ 0
  even : config.width % 2 = 0 ∧ config.height % 2 = 0

structure Vp9Encoder.Sound (e : Vp9Encoder) : Prop where
  ctx : e.ctx = ⟨.of e.config,e.config.width,e.config.height⟩
  even : Even e.config
  buf : e.i420Buf.length = bufSize e.config

structure H264Encoder.Sound (e : H264Encoder) : Prop where
  encoder : e.encoder.config = .of e.config
  even : Even e.config

def VideoEncoder.Sound : VideoEncoder → Prop
  | .vp9 e => e.Sound
  | .h264 e => e.Sound

structure VideoPipeline.Sound (p : VideoPipeline) : Prop where
  encoder : p.encoder.Sound
  config : p.encoder.config = p.config
  codec : p.encoder.codec = p.codec

theorem resolutionChecked {config : VideoConfig} (ok : checkResolution config = .ok ()) : Even config := by
  simp only [checkResolution] at ok
  split at ok
  · cases ok
  · rename_i positive
    split at ok
    · cases ok
    · rename_i even
      obtain ⟨wide,high⟩ := not_or.mp positive
      obtain ⟨w,h⟩ := not_or.mp even
      exact ⟨⟨wide,high⟩,not_not.mp w,not_not.mp h⟩

theorem ctxNew {config : VideoConfig} {answer : VpxInit} {ctx : VpxCtx} (made : VpxCtx.new config answer = .ok ctx) :
    ctx = ⟨.of config,config.width,config.height⟩ := by
  cases answer with
  | ready => cases made; rfl
  | noInterface => cases made
  | configDefault ret => cases made
  | encInit ret => cases made

theorem resizeLength (buf : List Byte) (size : Nat) : (resizeBuf buf size).length = size := by
  simp only [resizeBuf,List.length_append,List.length_take,List.length_replicate]
  omega

theorem copyLength {target source target' : List Byte} {start : Nat} (copied : copyInto target start source = some target') :
    target'.length = target.length := by
  simp only [copyInto] at copied
  split at copied
  · cases copied
    simp only [List.length_append,List.length_take,List.length_drop]
    omega
  · cases copied

section Vp9
variable {e e' : Vp9Encoder} {config : VideoConfig} {lib : Libraries} {frame : I420Buffer}

theorem vp9New (made : Vp9Encoder.new config lib = .ok e) : e.Sound ∧ e.config = config := by
  simp only [Vp9Encoder.new] at made
  split at made
  · cases made
  · rename_i checked
    split at made
    · cases made
    · rename_i ctx built
      cases made
      exact ⟨⟨ctxNew built,resolutionChecked checked,List.length_replicate⟩,rfl⟩

theorem vp9Reconfigure (done : e.reconfigure config lib = .ok e') :
    e'.Sound ∧ e'.config = config ∧ e'.keyframeRequested = true := by
  simp only [Vp9Encoder.reconfigure] at done
  split at done
  · cases done
  · rename_i checked
    split at done
    · cases done
    · rename_i ctx built
      cases done
      exact ⟨⟨ctxNew built,resolutionChecked checked,resizeLength _ _⟩,rfl,rfl⟩

theorem flattenLength {buf : List Byte} (flat : e.flattenI420 frame = some buf) : buf.length = e.i420Buf.length := by
  simp only [Vp9Encoder.flattenI420] at flat
  split at flat
  · cases flat
  · rename_i first one
    split at flat
    · cases flat
    · rename_i second two
      exact (copyLength flat).trans ((copyLength two).trans (copyLength one))

structure Vp9Encoder.Called (e e' : Vp9Encoder) (lib : Libraries) (result : Except VideoError Encoded) : Prop where
  ctx : e'.ctx = e.ctx
  config : e'.config = e.config
  buf : e'.i420Buf.length = e.i420Buf.length
  consumed : e'.keyframeRequested = false
  failed : ∀ error, result = .error error → e'.ctx.encode e'.i420Buf e.keyframeRequested lib = .error error
  encoded : ∀ made, result = .ok made → made.forced = e.keyframeRequested ∧
    ∃ frames, (lib.vpxEncode e.keyframeRequested).frames = .ok frames ∧ made.packet.data = frames.flatMap (·.data) ∧
      made.packet.isKeyframe = if made.packet.data.isEmpty then e.frameCount == 0 else frames.any (·.key)

theorem vp9Encode {result : Except VideoError Encoded} (done : e.encode frame lib = some (e',result)) :
    (e' = e ∧ ∃ error, result = .error error) ∨
      (frame.width = e.config.width ∧ frame.height = e.config.height ∧ e.Called e' lib result) := by
  simp only [Vp9Encoder.encode] at done
  split at done
  · cases done
    exact .inl ⟨rfl,_,rfl⟩
  · rename_i same
    obtain ⟨width,height⟩ := not_or.mp same
    refine .inr ⟨not_not.mp width,not_not.mp height,?_⟩
    split at done
    · cases done
    · rename_i buf flat
      have length := flattenLength flat
      split at done
      · rename_i error refused
        cases done
        refine ⟨rfl,rfl,length,rfl,?_,fun made same => nomatch same⟩
        intro error' same
        cases same
        exact refused
      · rename_i frames accepted
        split at done
        · cases done
        · cases done
          refine ⟨rfl,rfl,length,rfl,?_,?_⟩
          · intro error same
            cases same
          · intro made same
            cases same
            simp only [VpxCtx.encode] at accepted
            split at accepted
            · cases accepted
            · exact ⟨rfl,frames,accepted,rfl,rfl⟩

theorem Vp9Encoder.Called.sound {result : Except VideoError Encoded} (called : e.Called e' lib result) (sound : e.Sound) :
    e'.Sound where
  ctx := by rw [called.ctx,called.config]; exact sound.ctx
  even := by rw [called.config]; exact sound.even
  buf := by rw [called.buf,called.config]; exact sound.buf

end Vp9

section H264
variable {e e' : H264Encoder} {config : VideoConfig} {lib : Libraries} {frame : I420Buffer}

theorem buildEncoderSpec {encoder : OpenH264Encoder} (built : H264Encoder.buildEncoder config lib = .ok encoder) :
    encoder = ⟨.of config,false⟩ := by
  simp only [H264Encoder.buildEncoder] at built
  split at built
  · cases built
  · cases built; rfl

theorem h264New (made : H264Encoder.new config lib = .ok e) : e.Sound ∧ e.config = config := by
  simp only [H264Encoder.new] at made
  split at made
  · cases made
  · rename_i checked
    split at made
    · cases made
    · rename_i encoder built
      cases made
      exact ⟨⟨by rw [buildEncoderSpec built],resolutionChecked checked⟩,rfl⟩

theorem h264Reconfigure (done : e.reconfigure config lib = .ok e') :
    e'.Sound ∧ e'.config = config ∧ e'.keyframeRequested = true := by
  simp only [H264Encoder.reconfigure] at done
  split at done
  · cases done
  · rename_i checked
    split at done
    · cases done
    · rename_i encoder built
      cases done
      exact ⟨⟨by rw [buildEncoderSpec built],resolutionChecked checked⟩,rfl,rfl⟩

structure H264Encoder.Called (e e' : H264Encoder) (lib : Libraries) (result : Except VideoError Encoded) : Prop where
  encoder : e'.encoder.config = e.encoder.config
  config : e'.config = e.config
  failed : ∀ error, result = .error error → e'.encoder.intraForced = (e.keyframeRequested || e.encoder.intraForced)
  encoded : ∀ made, result = .ok made → made.forced = (e.keyframeRequested || e.encoder.intraForced) ∧
    ∃ frameType data, lib.h264Encode made.forced = .ok (frameType,data) ∧ made.packet.isKeyframe = frameType.isKeyframe

theorem h264Encode {result : Except VideoError Encoded} (done : e.encode frame lib = some (e',result)) :
    (e' = e ∧ ∃ error, result = .error error) ∨
      (frame.width = e.config.width ∧ frame.height = e.config.height ∧ e.Called e' lib result) := by
  simp only [H264Encoder.encode] at done
  split at done
  · cases done
    exact .inl ⟨rfl,_,rfl⟩
  · rename_i same
    obtain ⟨width,height⟩ := not_or.mp same
    refine .inr ⟨not_not.mp width,not_not.mp height,?_⟩
    split at done
    · cases done
      exact ⟨rfl,rfl,fun error same => rfl,fun made same => nomatch same⟩
    · rename_i frameType data answered
      split at done
      · cases done
      · cases done
        refine ⟨rfl,rfl,?_,?_⟩
        · intro error same
          cases same
        · intro made same
          cases same
          exact ⟨rfl,frameType,data,answered,rfl⟩

theorem H264Encoder.Called.sound {result : Except VideoError Encoded} (called : e.Called e' lib result) (sound : e.Sound) :
    e'.Sound where
  encoder := by rw [called.encoder,called.config]; exact sound.encoder
  even := by rw [called.config]; exact sound.even

end H264

section Encoder
variable {encoder encoder' : VideoEncoder} {config : VideoConfig} {lib : Libraries}

theorem makeEncoderSpec {codec : VideoCodec} (made : VideoPipeline.makeEncoder config lib codec = .ok encoder) :
    encoder.Sound ∧ encoder.config = config ∧ encoder.codec = codec := by
  cases codec with
  | vp9 =>
    simp only [VideoPipeline.makeEncoder] at made
    split at made
    · cases made
    · rename_i e new
      cases made
      exact ⟨(vp9New new).1,(vp9New new).2,rfl⟩
  | h264 =>
    simp only [VideoPipeline.makeEncoder] at made
    split at made
    · cases made
    · rename_i e new
      cases made
      exact ⟨(h264New new).1,(h264New new).2,rfl⟩

structure Reconfigured (encoder encoder' : VideoEncoder) (config : VideoConfig) : Prop where
  sound : encoder'.Sound
  config : encoder'.config = config
  codec : encoder'.codec = encoder.codec
  pending : encoder'.pending = true

theorem encoderReconfigure (done : encoder.reconfigure config lib = .ok encoder') : Reconfigured encoder encoder' config := by
  cases encoder with
  | vp9 e =>
    simp only [VideoEncoder.reconfigure] at done
    split at done
    · cases done
    · rename_i e' changed
      cases done
      obtain ⟨sound,config,requested⟩ := vp9Reconfigure changed
      exact ⟨sound,config,rfl,requested⟩
  | h264 e =>
    simp only [VideoEncoder.reconfigure] at done
    split at done
    · cases done
    · rename_i e' changed
      cases done
      obtain ⟨sound,config,requested⟩ := h264Reconfigure changed
      exact ⟨sound,config,rfl,by rw [VideoEncoder.pending,requested]; rfl⟩

theorem encoderEncode {frame : I420Buffer} {result : Except VideoError Encoded} (sound : encoder.Sound)
    (done : encoder.encode frame lib = some (encoder',result)) :
    encoder'.Sound ∧ encoder'.config = encoder.config ∧ encoder'.codec = encoder.codec := by
  cases encoder with
  | vp9 e =>
    obtain ⟨⟨e',r⟩,called,same⟩ := Option.map_eq_some_iff.mp done
    cases same
    rcases vp9Encode called with ⟨rfl,-⟩ | ⟨-,-,called⟩
    · exact ⟨sound,rfl,rfl⟩
    · exact ⟨called.sound sound,called.config,rfl⟩
  | h264 e =>
    obtain ⟨⟨e',r⟩,called,same⟩ := Option.map_eq_some_iff.mp done
    cases same
    rcases h264Encode called with ⟨rfl,-⟩ | ⟨-,-,called⟩
    · exact ⟨sound,rfl,rfl⟩
    · exact ⟨called.sound sound,called.config,rfl⟩

end Encoder

section Pipeline
variable {p p' : VideoPipeline} {config : VideoConfig} {lib : Libraries}

theorem withCodecSpec {codec : VideoCodec} (made : VideoPipeline.withCodec config codec lib = .ok p) :
    p.Sound ∧ p.config = config := by
  simp only [VideoPipeline.withCodec] at made
  split at made
  · cases made
  · rename_i encoder new
    cases made
    obtain ⟨sound,same,codec⟩ := makeEncoderSpec new
    exact ⟨⟨sound,same,codec⟩,rfl⟩

theorem reconfigureSpec (sound : p.Sound) (done : p.reconfigure config lib = .ok p') :
    p'.Sound ∧ p'.config = config ∧ p'.codec = p.codec ∧ p'.encoder.pending = true := by
  simp only [VideoPipeline.reconfigure] at done
  split at done
  · cases done
  · rename_i encoder changed
    cases done
    have facts := encoderReconfigure changed
    exact ⟨⟨facts.sound,facts.config,facts.codec.trans sound.codec⟩,rfl,rfl,facts.pending⟩

theorem resizeSpec {frame : RgbFrame} (sound : p.Sound) (done : p.resize frame lib = .ok p') :
    p'.Sound ∧ p'.codec = p.codec ∧ p'.config.bitrateKbps = p.config.bitrateKbps ∧
      (p' = p ∨ p'.encoder.pending = true) := by
  simp only [VideoPipeline.resize,VideoPipeline.resized] at done
  split at done
  · cases done
    exact ⟨sound,rfl,rfl,.inl rfl⟩
  · rename_i config differs
    obtain ⟨sound',same,codec,pending⟩ := reconfigureSpec sound done
    split at differs
    · cases differs
      exact ⟨sound',codec,by rw [same],.inr pending⟩
    · cases differs

theorem encodeFrameSpec {frame : I420Buffer} {result : Except VideoError Encoded} (sound : p.Sound)
    (done : p.encodeFrame frame lib = some (p',result)) :
    p'.Sound ∧ p'.codec = p.codec ∧ p'.config = p.config ∧ p.encoder.encode frame lib = some (p'.encoder,result) := by
  simp only [VideoPipeline.encodeFrame] at done
  split at done
  · cases done
  · rename_i encoder error called
    cases done
    obtain ⟨kept,config,codec⟩ := encoderEncode sound.encoder called
    exact ⟨⟨kept,config.trans sound.config,codec.trans sound.codec⟩,rfl,rfl,called⟩
  · rename_i encoder encoded called
    cases done
    obtain ⟨kept,config,codec⟩ := encoderEncode sound.encoder called
    exact ⟨⟨kept,config.trans sound.config,codec.trans sound.codec⟩,rfl,rfl,called⟩

structure Reached (p p₁ p' : VideoPipeline) (lib : Libraries) (result : Except VideoError Encoded) : Prop where
  sound : p₁.Sound
  codec : p₁.codec = p.codec
  bitrate : p₁.config.bitrateKbps = p.config.bitrateKbps
  kept : p₁ = p ∨ p₁.encoder.pending = true
  stopped : (p' = p₁ ∧ ∃ error, result = .error error) ∨
    ∃ frame i420, Converted frame i420 ∧ p₁.encodeFrame i420 lib = some (p',result)

theorem processCases {colours : Colours} {jpegData : List Byte} {result : Except VideoError Encoded} (sound : p.Sound)
    (done : p.process colours jpegData lib = some (p',result)) : ∃ p₁, Reached p p₁ p' lib result := by
  simp only [VideoPipeline.process] at done
  split at done
  · cases done
    exact ⟨p,sound,rfl,rfl,.inl rfl,.inl ⟨rfl,_,rfl⟩⟩
  · split at done
    · cases done
    · rename_i frame padded
      split at done
      · cases done
        exact ⟨p,sound,rfl,rfl,.inl rfl,.inl ⟨rfl,_,rfl⟩⟩
      · rename_i p₁ resized
        obtain ⟨sound₁,codec,bitrate,kept⟩ := resizeSpec sound resized
        split at done
        · cases done
        · cases done
          exact ⟨_,sound₁,codec,bitrate,kept,.inl ⟨rfl,_,rfl⟩⟩
        · rename_i i420 converted
          exact ⟨p₁,sound₁,codec,bitrate,kept,.inr ⟨frame,i420,rgbToI420Spec converted,done⟩⟩

theorem processSound {colours : Colours} {jpegData : List Byte} {result : Except VideoError Encoded} (sound : p.Sound)
    (done : p.process colours jpegData lib = some (p',result)) :
    p'.Sound ∧ p'.codec = p.codec ∧ p'.config.bitrateKbps = p.config.bitrateKbps := by
  obtain ⟨p₁,reached⟩ := processCases sound done
  rcases reached.stopped with ⟨rfl,-⟩ | ⟨frame,i420,-,encoded⟩
  · exact ⟨reached.sound,reached.codec,reached.bitrate⟩
  · obtain ⟨kept,codec,config,-⟩ := encodeFrameSpec reached.sound encoded
    exact ⟨kept,codec.trans reached.codec,by rw [config]; exact reached.bitrate⟩

theorem reconfigureBitrateSound {bitrateKbps : UInt32} (sound : p.Sound) : (p.reconfigureBitrate bitrateKbps lib).Sound := by
  simp only [VideoPipeline.reconfigureBitrate]
  split
  · exact sound
  · rename_i p' done
    exact (reconfigureSpec sound done).1

theorem requestKeyframeSound (sound : p.Sound) : p.requestKeyframe.Sound := by
  obtain ⟨encoder,codec,config,processed,dropped⟩ := p
  cases encoder with
  | vp9 e => exact ⟨⟨sound.encoder.ctx,sound.encoder.even,sound.encoder.buf⟩,sound.config,sound.codec⟩
  | h264 e => exact ⟨⟨sound.encoder.encoder,sound.encoder.even⟩,sound.config,sound.codec⟩

end Pipeline

def Session.Sound (s : Session) : Prop := ∀ p, s.pipeline = some p → p.Sound

section Session
variable {colours : Colours} {s s' : Session} {event : Event} {out : List Output}

theorem stepCases (taken : (session colours).step s event = some (s',out)) :
    (∃ config codec lib, event = .start config codec lib ∧ s.start config codec lib = (s',out)) ∨
      ∃ p, s.pipeline = some p ∧ s.call colours p event = (s',out) := by
  simp only [session,Session.step] at taken
  split at taken
  · rename_i p running
    exact .inr ⟨p,running,Option.some.inj taken⟩
  · exact .inl ⟨_,_,_,rfl,Option.some.inj taken⟩
  · cases taken

theorem soundOf {p : VideoPipeline} {owed : Bool} (sound : p.Sound) : (⟨some p,owed⟩ : Session).Sound := by
  intro p' same
  cases same
  exact sound

theorem startSound {config : VideoConfig} {codec : VideoCodec} {lib : Libraries} (sound : s.Sound)
    (done : s.start config codec lib = (s',out)) : s'.Sound := by
  simp only [Session.start] at done
  split at done
  · cases done; exact sound
  · rename_i p made
    cases done
    exact soundOf (withCodecSpec made).1

theorem callSound {p : VideoPipeline} (sound : s.Sound) (running : s.pipeline = some p)
    (done : s.call colours p event = (s',out)) : s'.Sound := by
  cases event with
  | start config codec lib => exact startSound sound done
  | requestKeyframe =>
    cases done
    exact soundOf (requestKeyframeSound (sound p running))
  | process jpegData lib =>
    simp only [Session.call,Session.process] at done
    split at done
    · cases done
      intro p' same
      cases same
    · rename_i p₁ error processed
      cases done
      exact soundOf (processSound (sound p running) processed).1
    · rename_i p₁ encoded processed
      cases done
      exact soundOf (processSound (sound p running) processed).1
  | reconfigure config lib =>
    simp only [Session.call,Session.reconfigure] at done
    split at done
    · cases done; exact sound
    · rename_i p₁ changed
      cases done
      exact soundOf (reconfigureSpec (sound p running) changed).1
  | reconfigureBitrate bitrateKbps lib =>
    cases done
    exact soundOf (reconfigureBitrateSound (sound p running))
  | recordDrop =>
    cases done
    exact soundOf ⟨(sound p running).encoder,(sound p running).config,(sound p running).codec⟩

theorem stepSound (sound : s.Sound) (taken : (session colours).step s event = some (s',out)) : s'.Sound := by
  rcases stepCases taken with ⟨config,codec,lib,-,done⟩ | ⟨p,running,done⟩
  · exact startSound sound done
  · exact callSound sound running done

theorem runSound {guard : Session → Event → Prop} {trace : List Output}
    (run : Machine.Run (session colours) guard s trace) : s.Sound :=
  Machine.runInvariant (fun s _ => s.Sound) (fun p absent => by cases absent) (fun sound _ taken => stepSound sound taken) run

end Session
end Vscreen.Video
