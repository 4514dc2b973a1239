import Vscreen.VideoAgreement

/-! A keyframe request until it is honoured. The VP9 encoder consumes it before it
calls the codec, so that a frame which the codec fails on takes it along; openh264
keeps it. -/
namespace Vscreen.Video

def Honoured (trace : List Output) : Prop := ∀ encoded, .packet encoded true ∈ trace →
  encoded.forced = true ∧ encoded.packet.isKeyframe = true

structure RequestKept (s : Session) (trace : List Output) : Prop where
  pending : s.owed = true → ∃ p, s.pipeline = some p ∧ p.encoder.pending = true
  honoured : Honoured trace

/-- libvpx does not fail on a frame while a keyframe is owed. -/
def Spared (s : Session) : Event → Prop
  | .process _ lib => ∀ p, s.pipeline = some p → p.codec = .vp9 → s.owed = true →
      ∃ frames, (lib.vpxEncode true).frames = .ok frames
  | _ => True

theorem honouredAppend {trace out : List Output} (before : Honoured trace) (now : Honoured out) : Honoured (trace ++ out) := by
  intro encoded member
  rcases List.mem_append.mp member with old | new
  · exact before encoded old
  · exact now encoded new

theorem evenHalf {n : UInt32} (even : n % 2 = 0) : ((n + 1) / 2).toNat = n.toNat / 2 ∧ n.toNat = n.toNat / 2 * 2 := by
  have remainder : n.toNat % 2 = 0 := by
    have := congrArg UInt32.toNat even
    rwa [UInt32.toNat_mod] at this
  have bound := UInt32.toNat_lt n
  have next : (n + 1).toNat = n.toNat + 1 := by
    rw [UInt32.toNat_add]
    exact Nat.mod_eq_of_lt (by change n.toNat + 1 < 2^32; omega)
  refine ⟨?_,by omega⟩
  rw [UInt32.toNat_div,next]
  change (n.toNat + 1) / 2 = _
  omega

theorem bufferEnough {e : Vp9Encoder} {frame : RgbFrame} {i420 : I420Buffer} (sound : e.Sound)
    (converted : Converted frame i420) (width : i420.width = e.config.width) (height : i420.height = e.config.height) :
    e.ctx.expectedSize ≤ bufSize e.config := by
  obtain ⟨halfW,evenW⟩ := evenHalf sound.even.even.1
  obtain ⟨halfH,evenH⟩ := evenHalf sound.even.even.2
  have area := converted.area
  rw [← converted.width,← converted.height,width,height] at area
  simp only [VpxCtx.expectedSize,sound.ctx,bufSize,ySize,uvSize,UInt32.toNat_mul,halfW,halfH]
  rw [Nat.mod_eq_of_lt area]
  generalize e.config.width.toNat / 2 = a at evenW ⊢
  generalize e.config.height.toNat / 2 = b at evenH ⊢
  rw [evenW,evenH] at area ⊢
  have quarter : a * 2 * (b * 2) = 4 * (a * b) := by
    rw [Nat.mul_mul_mul_comm,Nat.mul_comm]
  rw [quarter] at area ⊢
  rw [Nat.mod_eq_of_lt (by omega)]
  omega

structure Served (encoder' : VideoEncoder) (result : Except VideoError Encoded) : Prop where
  failed : ∀ error, result = .error error → encoder'.pending = true
  encoded : ∀ made, result = .ok made → made.forced = true ∧ made.packet.isKeyframe = true

section Encode
variable {lib : Libraries} {frame : RgbFrame} {i420 : I420Buffer} {result : Except VideoError Encoded}

theorem vp9Served {e e' : Vp9Encoder} (sound : e.Sound) (converted : Converted frame i420) (requested : e.keyframeRequested = true)
    (spared : ∃ frames, (lib.vpxEncode true).frames = .ok frames) (done : e.encode i420 lib = some (e',result)) :
    Served (.vp9 e') result := by
  rcases vp9Encode done with ⟨rfl,error,rfl⟩ | ⟨width,height,called⟩
  · exact ⟨fun _ _ => requested,fun made same => by cases same⟩
  · constructor
    · intro error same
      have failed := called.failed error same
      obtain ⟨frames,accepted⟩ := spared
      have enough := bufferEnough sound converted width height
      rw [requested,VpxCtx.encode,called.buf,sound.buf,called.ctx,if_neg (Nat.not_lt.mpr enough),accepted] at failed
      cases failed
    · intro made same
      obtain ⟨forced,frames,accepted,data,keyframe⟩ := called.encoded made same
      rw [requested] at forced accepted
      obtain ⟨f,member,key,bytes⟩ := lib.vpxForced frames accepted
      have filled : made.packet.data.isEmpty = false := by
        rw [data,List.isEmpty_eq_false_iff]
        exact fun empty => bytes (List.flatMap_eq_nil_iff.mp empty f member)
      rw [filled] at keyframe
      refine ⟨forced,keyframe.trans ?_⟩
      exact List.any_eq_true.mpr ⟨f,member,key⟩

theorem h264Served {e e' : H264Encoder} (pending : (e.keyframeRequested || e.encoder.intraForced) = true)
    (done : e.encode i420 lib = some (e',result)) : Served (.h264 e') result := by
  rcases h264Encode done with ⟨rfl,error,rfl⟩ | ⟨-,-,called⟩
  · exact ⟨fun _ _ => pending,fun made same => by cases same⟩
  · constructor
    · intro error same
      rw [VideoEncoder.pending,called.failed error same,pending,Bool.or_true]
    · intro made same
      obtain ⟨forced,frameType,data,answered,keyframe⟩ := called.encoded made same
      rw [pending] at forced
      rw [forced] at answered
      exact ⟨forced,keyframe.trans (lib.h264Forced frameType data answered)⟩

theorem encodeServed {encoder encoder' : VideoEncoder} (sound : encoder.Sound) (converted : Converted frame i420)
    (pending : encoder.pending = true)
    (spared : encoder.codec = .vp9 → ∃ frames, (lib.vpxEncode true).frames = .ok frames)
    (done : encoder.encode i420 lib = some (encoder',result)) : Served encoder' result := by
  cases encoder with
  | vp9 e =>
    obtain ⟨⟨e',r⟩,called,same⟩ := Option.map_eq_some_iff.mp done
    cases same
    exact vp9Served sound converted pending (spared rfl) called
  | h264 e =>
    obtain ⟨⟨e',r⟩,called,same⟩ := Option.map_eq_some_iff.mp done
    cases same
    exact h264Served pending called

theorem processServed {colours : Colours} {p p' : VideoPipeline} {jpegData : List Byte} (sound : p.Sound)
    (pending : p.encoder.pending = true) (spared : p.codec = .vp9 → ∃ frames, (lib.vpxEncode true).frames = .ok frames)
    (done : p.process colours jpegData lib = some (p',result)) : Served p'.encoder result := by
  obtain ⟨p₁,reached⟩ := processCases sound done
  have pending₁ : p₁.encoder.pending = true := by
    rcases reached.kept with rfl | asked
    · exact pending
    · exact asked
  rcases reached.stopped with ⟨rfl,error,rfl⟩ | ⟨frame,i420,converted,encoded⟩
  · exact ⟨fun _ _ => pending₁,fun made same => by cases same⟩
  · obtain ⟨-,-,-,called⟩ := encodeFrameSpec reached.sound encoded
    refine encodeServed reached.sound.encoder converted pending₁ ?_ called
    intro vp9
    exact spared (reached.codec.symm.trans (reached.sound.codec.symm.trans vp9))

end Encode

section Runs
variable {colours : Colours} {s s' : Session} {event : Event} {out : List Output}

theorem quietStep {pipeline : Option VideoPipeline} {owed : Bool} {out : List Output}
    (pending : owed = true → ∃ p, pipeline = some p ∧ p.encoder.pending = true)
    (quiet : ∀ output ∈ out, ∀ encoded owed, output ≠ .packet encoded owed) : RequestKept ⟨pipeline,owed⟩ out :=
  ⟨pending,fun encoded member => absurd rfl (quiet _ member encoded true)⟩

theorem reconfigurePending {p p' : VideoPipeline} {config : VideoConfig} {lib : Libraries}
    (done : p.reconfigure config lib = .ok p') : p'.encoder.pending = true := by
  simp only [VideoPipeline.reconfigure] at done
  split at done
  · cases done
  · rename_i encoder changed
    cases done
    exact (encoderReconfigure changed).pending

theorem startKept {config : VideoConfig} {codec : Rtsp.VideoCodec} {lib : Libraries}
    (pending : s.owed = true → ∃ p, s.pipeline = some p ∧ p.encoder.pending = true)
    (done : s.start config codec lib = (s',out)) : RequestKept s' out := by
  simp only [Session.start] at done
  split at done
  · cases done
    exact quietStep pending (by simp)
  · cases done
    exact quietStep (fun absurd => by cases absurd) (by simp)

theorem processKept {p : VideoPipeline} {jpegData : List Byte} {lib : Libraries} (sound : s.Sound)
    (running : s.pipeline = some p) (pending : s.owed = true → p.encoder.pending = true)
    (spared : Spared s (.process jpegData lib)) (done : s.process colours p jpegData lib = (s',out)) : RequestKept s' out := by
  simp only [Session.process] at done
  split at done
  · cases done
    exact quietStep (fun absurd => by cases absurd) (by simp)
  · rename_i p' error processed
    cases done
    refine quietStep (fun owed => ⟨p',rfl,?_⟩) (by simp)
    exact (processServed (sound p running) (pending owed) (fun vp9 => spared p running vp9 owed) processed).failed error rfl
  · rename_i p' encoded processed
    cases done
    refine ⟨fun absurd => (by cases absurd),fun made member => ?_⟩
    have same := List.mem_singleton.mp member
    simp only [Output.packet.injEq] at same
    obtain ⟨rfl,owed⟩ := same
    exact (processServed (sound p running) (pending owed.symm) (fun vp9 => spared p running vp9 owed.symm) processed).encoded
      made rfl

theorem callKept {p : VideoPipeline} (sound : s.Sound) (running : s.pipeline = some p)
    (pending : s.owed = true → p.encoder.pending = true) (spared : Spared s event)
    (done : s.call colours p event = (s',out)) : RequestKept s' out := by
  have before : s.owed = true → ∃ p, s.pipeline = some p ∧ p.encoder.pending = true :=
    fun owed => ⟨p,running,pending owed⟩
  cases event with
  | start config codec lib => exact startKept before done
  | requestKeyframe =>
    cases done
    refine quietStep (fun _ => ⟨_,rfl,?_⟩) (by simp)
    obtain ⟨encoder,codec,config,processed,dropped⟩ := p
    cases encoder with
    | vp9 e => rfl
    | h264 e => rfl
  | process jpegData lib => exact processKept sound running pending spared done
  | reconfigure config lib =>
    simp only [Session.call,Session.reconfigure] at done
    split at done
    · cases done
      exact quietStep before (by simp)
    · rename_i p' changed
      cases done
      exact quietStep (fun _ => ⟨p',rfl,reconfigurePending changed⟩) (by simp)
  | reconfigureBitrate bitrateKbps lib =>
    cases done
    refine quietStep (fun owed => ⟨_,rfl,?_⟩) (by simp)
    simp only [VideoPipeline.reconfigureBitrate]
    split
    · exact pending owed
    · rename_i p' changed
      exact reconfigurePending changed
  | recordDrop =>
    cases done
    exact quietStep (fun owed => ⟨_,rfl,pending owed⟩) (by simp)

theorem stepKept (sound : s.Sound) (pending : s.owed = true → ∃ p, s.pipeline = some p ∧ p.encoder.pending = true)
    (spared : Spared s event) (taken : (session colours).step s event = some (s',out)) : RequestKept s' out := by
  rcases stepCases taken with ⟨config,codec,lib,-,done⟩ | ⟨p,running,done⟩
  · exact startKept pending done
  · refine callKept sound running ?_ spared done
    intro owed
    obtain ⟨p',same,asked⟩ := pending owed
    cases running.symm.trans same
    exact asked

theorem requestsKept {trace : List Output} (run : Machine.Run (session colours) Spared s trace) : RequestKept s trace := by
  have both : s.Sound ∧ RequestKept s trace := by
    refine Machine.runInvariant (fun s trace => s.Sound ∧ RequestKept s trace) ?_ ?_ run
    · refine ⟨?_,?_,?_⟩
      · intro p absent; cases absent
      · intro owed; cases owed
      · intro encoded member; cases member
    · intro s trace event s' out inv spared taken
      have kept := stepKept inv.1 inv.2.pending spared taken
      exact ⟨stepSound inv.1 taken,kept.pending,honouredAppend inv.2.honoured kept.honoured⟩
  exact both.2

end Runs

section Run

theorem requestHonoured : ∃ s trace, Machine.Run (session grey) Spared s trace ∧ trace.length = 2 ∧ RequestKept s trace := by
  have started := Machine.runStep (.start : (session grey).Run Spared _ _) (.start (small 6000 .vp9) .vp9 willing) trivial rfl
  have asked := Machine.runStep started .requestKeyframe trivial rfl
  have encoded := Machine.runStep asked (.process [0xFF] willing) (fun _ _ _ _ => ⟨[⟨[1],true⟩],rfl⟩) rfl
  exact ⟨_,_,encoded,rfl,requestsKept encoded⟩

def refusing : Libraries where
  decoder := willing.decoder
  vpxInit := .ready
  vpxEncode _ := .failed "VPX_CODEC_MEM_ERROR".toList
  h264Init := willing.h264Init
  h264Encode := willing.h264Encode
  vpxForced frames answer := by cases answer
  h264Forced := willing.h264Forced

theorem requestLost : ∃ s trace, Machine.Reaches (session grey) s trace ∧ ¬ RequestKept s trace := by
  obtain ⟨s,trace,reached,lost⟩ := Machine.execWitness (session grey)
    [.start (small 6000 .vp9) .vp9 willing,.process [0xFF] willing,.requestKeyframe,.process [0xFF] refusing,
     .process [0xFF] willing]
    (fun _ trace => decide (.packet ⟨⟨[1],false,1,some 33,some .vp9⟩,false⟩ true ∈ trace)) (by decide +kernel)
  refine ⟨s,trace,reached,fun kept => ?_⟩
  obtain ⟨forced,-⟩ := kept.honoured _ (of_decide_eq_true lost)
  cases forced

end Run
end Vscreen.Video
