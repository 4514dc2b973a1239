import Vscreen.VideoInvariant

/-! The configuration that a pipeline keeps and the one its codec runs with. The two
are written together; they differ where a number does not fit the codec's type. -/
namespace Vscreen.Video
open Rtsp (VideoCodec)

structure Running where
  width : UInt32
  height : UInt32
  bitsPerSecond : Nat
  framerate : Int
  deriving DecidableEq, Repr

def running (config : VideoConfig) : Running :=
  ⟨config.width,config.height,1000 * config.bitrateKbps.toNat,config.framerate.toNat⟩

def VideoEncoder.running : VideoEncoder → Running
  | .vp9 e => ⟨e.ctx.cfg.gW,e.ctx.cfg.gH,1000 * e.ctx.cfg.rcTargetBitrate.toNat,e.ctx.cfg.gTimebaseDen⟩
  | .h264 e => ⟨e.config.width,e.config.height,e.encoder.config.bitrateBps.toNat,e.encoder.config.maxFrameRate⟩

def Short (n : Nat) : Prop := ∃ m k, m < 2^24 ∧ n = m * 2^k

def Fits (config : VideoConfig) : VideoCodec → Prop
  | .vp9 => config.framerate.toNat < 2^31
  | .h264 => config.bitrateKbps.toNat * 1000 < 2^32 ∧ Short config.framerate.toNat

theorem shortUnit {n : Nat} : Short n ↔ 2^(Nat.log2 n - 23) ∣ n := by
  constructor
  · rintro ⟨m,k,short,rfl⟩
    rcases Nat.eq_zero_or_pos m with rfl | positive
    · simp
    · have nonzero : m * 2^k ≠ 0 := Nat.mul_ne_zero positive.ne' (Nat.two_pow_pos k).ne'
      have bound : Nat.log2 (m * 2^k) < 24 + k := by
        rw [Nat.log2_lt nonzero,Nat.pow_add]
        exact Nat.mul_lt_mul_of_pos_right short (Nat.two_pow_pos k)
      have unit : Nat.log2 (m * 2^k) - 23 ≤ k := by omega
      exact Nat.dvd_trans (Nat.pow_dvd_pow 2 unit) (Nat.dvd_mul_left _ _)
  · rintro ⟨m,same⟩
    refine ⟨m,Nat.log2 n - 23,?_,by rw [Nat.mul_comm]; exact same⟩
    by_contra long
    have least : 2^24 * 2^(Nat.log2 n - 23) ≤ n :=
      calc 2^24 * 2^(Nat.log2 n - 23) ≤ m * 2^(Nat.log2 n - 23) := Nat.mul_le_mul_right _ (Nat.le_of_not_lt long)
        _ = n := (Nat.mul_comm _ _).trans same.symm
    have nonzero : n ≠ 0 := by
      rintro rfl
      have := Nat.two_pow_pos (Nat.log2 0 - 23)
      omega
    have below : n < 2^(Nat.log2 n + 1) := Nat.lt_log2_self
    rw [← Nat.pow_add] at least
    have := (Nat.pow_lt_pow_iff_right (by decide : 1 < 2)).mp (least.trans_lt below)
    omega

theorem asF32Exact {n : Nat} : asF32 n = n ↔ Short n := by
  rw [shortUnit]
  have split : n / 2^(Nat.log2 n - 23) * 2^(Nat.log2 n - 23) + n % 2^(Nat.log2 n - 23) = n := Nat.div_add_mod' n _
  constructor
  · intro same
    by_contra cut
    have rest : n % 2^(Nat.log2 n - 23) ≠ 0 := fun none => cut (Nat.dvd_of_mod_eq_zero none)
    -- a rounded number is a multiple of the unit
    have multiple : 2^(Nat.log2 n - 23) ∣ asF32 n := by
      simp only [asF32,if_neg rest]
      split
      · exact Nat.dvd_mul_left _ _
      · split
        · exact Nat.dvd_mul_left _ _
        · exact Nat.dvd_mul_left _ _
    rw [same] at multiple
    exact cut multiple
  · intro whole
    simp only [asF32,Nat.mod_eq_zero_of_dvd whole,if_true]

theorem asI32Exact {n : UInt32} : asI32 n = n.toNat ↔ n.toNat < 2^31 := by
  simp only [asI32]
  split
  · rename_i small
    exact ⟨fun _ => small,fun _ => rfl⟩
  · rename_i large
    constructor
    · intro same; omega
    · intro small; exact absurd small large

theorem bitsExact {kbps : UInt32} : (kbps * 1000).toNat = 1000 * kbps.toNat ↔ kbps.toNat * 1000 < 2^32 := by
  have product : (kbps * 1000).toNat = kbps.toNat * 1000 % 2^32 := UInt32.toNat_mul kbps 1000
  rw [product]
  constructor
  · intro same
    have := Nat.mod_lt (kbps.toNat * 1000) (by decide : 0 < 2^32)
    omega
  · intro small
    rw [Nat.mod_eq_of_lt small,Nat.mul_comm]

theorem encoderFits {encoder : VideoEncoder} (sound : encoder.Sound) :
    encoder.running = running encoder.config ↔ Fits encoder.config encoder.codec := by
  cases encoder with
  | vp9 e =>
    simp only [VideoEncoder.running,VideoEncoder.config,sound.ctx,VpxEncCfg.of,running,Running.mk.injEq,true_and]
    exact asI32Exact
  | h264 e =>
    simp only [VideoEncoder.running,VideoEncoder.config,sound.encoder,EncoderConfig.of,running,Running.mk.injEq,true_and,
      bitsExact,Int.ofNat_inj,asF32Exact]
    rfl

structure FailureKeeps (colours : Colours) (p : VideoPipeline) : Prop where
  reconfigure : ∀ (s : Session) config lib error, s.pipeline = some p →
    p.encoder.reconfigure config lib = .error error → (s.reconfigure p config lib).1 = s
  bitrate : ∀ kbps lib error, p.encoder.reconfigure {p.config with bitrateKbps := kbps} lib = .error error →
    p.reconfigureBitrate kbps lib = p
  process : ∀ jpegData lib decoded frame config error, decodeJpeg jpegData lib.decoder = .ok decoded →
    padToEven decoded = some frame → p.resized frame = some config →
    p.encoder.reconfigure config lib = .error error → p.process colours jpegData lib = some (p,.error error)

theorem failureKeeps (colours : Colours) (p : VideoPipeline) : FailureKeeps colours p where
  reconfigure s config lib error running failed := by
    simp only [Session.reconfigure,VideoPipeline.reconfigure,failed]
  bitrate kbps lib error failed := by
    simp only [VideoPipeline.reconfigureBitrate,VideoPipeline.reconfigure,failed]
  process jpegData lib decoded frame config error decodes pads resizes failed := by
    simp only [VideoPipeline.process,decodes,pads,VideoPipeline.resize,resizes,VideoPipeline.reconfigure,failed]

section Runs
variable {colours : Colours} {s : Session} {trace : List Output} {p : VideoPipeline}

theorem configurationsAgree (run : Machine.Reaches (session colours) s trace) (runs : s.pipeline = some p) :
    (p.encoder.running = running p.config ∧ FailureKeeps colours p) ↔ Fits p.config p.codec := by
  have sound := runSound run p runs
  have fits := encoderFits sound.encoder
  rw [sound.config,sound.codec] at fits
  constructor
  · intro agrees
    exact fits.mp agrees.1
  · intro fit
    exact ⟨fits.mpr fit,failureKeeps colours p⟩

end Runs

section Run

def willing : Libraries where
  decoder := ⟨.ok (),some (2,2),.ok (List.replicate 12 0)⟩
  vpxInit := .ready
  vpxEncode force := .packets [some ⟨[1],force⟩]
  h264Init := .ok ()
  h264Encode force := .ok (if force then .idr else .p,[1])
  vpxForced frames answer := by
    have one : collectFrames [some ⟨[1],true⟩] = .ok [⟨[1],true⟩] := by decide
    cases one.symm.trans answer
    exact ⟨⟨[1],true⟩,List.mem_singleton.mpr rfl,rfl,by decide⟩
  h264Forced frameType data answer := by
    cases answer
    rfl

def grey : Colours := ⟨fun r _ _ => r,fun _ g _ => g,fun _ _ b => b⟩

def small (bitrateKbps : UInt32) (codec : VideoCodec) : VideoConfig :=
  {VideoConfig.default with width := 2, height := 2, bitrateKbps := bitrateKbps, codec := codec}

def unwilling : Libraries := {willing with h264Init := .error "out of memory".toList}

theorem changesAgree : ∃ s trace p, Machine.Reaches (session grey) s trace ∧ s.pipeline = some p ∧
    p.config = small 2000 .h264 ∧ p.encoder.running = running p.config ∧ FailureKeeps grey p := by
  have started := Machine.runStep (.start : Machine.Reaches (session grey) _ _)
    (.start .default .h264 willing) trivial rfl
  have changed := Machine.runStep started (.reconfigure (small 2000 .h264) willing) trivial rfl
  have refused := Machine.runStep changed (.reconfigureBitrate 3000 unwilling) trivial rfl
  have odd := Machine.runStep refused (.reconfigure {small 2000 .h264 with width := 3} willing) trivial rfl
  exact ⟨_,_,_,odd,rfl,rfl,(configurationsAgree odd rfl).mpr ⟨by decide,30,0,by decide,rfl⟩⟩

theorem bitrateWraps : ∃ s trace p, Machine.Reaches (session grey) s trace ∧ s.pipeline = some p ∧
    ¬ (p.encoder.running = running p.config ∧ FailureKeeps grey p) := by
  obtain ⟨s,trace,reached,wrapped⟩ := Machine.execWitness (session grey)
    [.start (small 6000 .h264) .h264 willing,.reconfigureBitrate 4294968 willing]
    (fun s _ => s.pipeline.any fun p => decide (p.encoder.running ≠ running p.config)) (by decide +kernel)
  obtain ⟨p,runs,differ⟩ := (Option.any_eq_true _ _).mp wrapped
  exact ⟨s,trace,p,reached,runs,fun agrees => of_decide_eq_true differ agrees.1⟩

end Run
end Vscreen.Video
