import Mathlib.Algebra.Group.Int.Defs
import Vscreen.RtpClock
import Vscreen.VideoAgreement
import Vscreen.VideoPlanes

/-! The arithmetic on configuration values in the three encoders (h264_encode.rs and
encode.rs of vscreen-video, encode.rs of vscreen-audio), operation by operation in the
order in which they are computed. Divisions by constants and the frame counters are
left out. -/
namespace Vscreen
open Audio (AudioConfig LibOpus OpusEncoder sampleRateFromHz channelsFromCount)
open Video

namespace Video.H264Encoder

def newArith (config : VideoConfig) : List Arith := match checkResolution config with
  | .error _ => []
  | .ok () => [.mulU32 config.bitrateKbps 1000]

def encodeArith (e : H264Encoder) (input : I420Buffer × Libraries) : List Arith :=
  if input.1.width ≠ e.config.width ∨ input.1.height ≠ e.config.height then []
  else .addU32 input.1.width 1::match input.2.h264Encode (e.keyframeRequested || e.encoder.intraForced) with
    | .error _ => []
    | .ok _ => [.div 1000 e.config.framerate.toNat]

def sessionArith (config : VideoConfig) (lib : Libraries) (inputs : List (I420Buffer × Libraries)) : List Arith :=
  newArith config ++ match H264Encoder.new config lib with
  | .error _ => []
  | .ok e => runArith encodeArith (fun e input => (e.encode input.1 input.2).map Prod.fst) e inputs

end Video.H264Encoder

namespace Video.VpxCtx

def newArith (config : VideoConfig) : VpxInit → List Arith
  | .noInterface => []
  | .configDefault _ => []
  | .encInit _ => [.toI32 config.framerate]
  | .ready => [.toI32 config.framerate,.toI32 config.cpuUsed]

def encodeArith (ctx : VpxCtx) : List Arith :=
  [.mulUsize ctx.width.toNat ctx.height.toNat,.mulUsize (ctx.width.toNat * ctx.height.toNat) 3]

end Video.VpxCtx

namespace Video.Vp9Encoder

def bufArith (config : VideoConfig) : List Arith :=
  [.mulU32 config.width config.height,.addU32 config.width 1,.addU32 config.height 1,
    .mulU32 ((config.width + 1) / 2) ((config.height + 1) / 2),.mulUsize 2 (uvSize config.width config.height),
    .addUsize (ySize config.width config.height) (2 * uvSize config.width config.height)]

def newArith (config : VideoConfig) (lib : Libraries) : List Arith := match checkResolution config with
  | .error _ => []
  | .ok () => VpxCtx.newArith config lib.vpxInit ++ match VpxCtx.new config lib.vpxInit with
    | .error _ => []
    | .ok _ => bufArith config

def encodeArith (e : Vp9Encoder) (input : I420Buffer × Libraries) : List Arith :=
  if input.1.width ≠ e.config.width ∨ input.1.height ≠ e.config.height then []
  else match e.flattenI420 input.1 with
  | none => []
  | some buf => e.ctx.encodeArith ++ match e.ctx.encode buf e.keyframeRequested input.2 with
    | .error _ => []
    | .ok _ => [.div 1000 e.config.framerate.toNat]

def sessionArith (config : VideoConfig) (lib : Libraries) (inputs : List (I420Buffer × Libraries)) : List Arith :=
  newArith config lib ++ match Vp9Encoder.new config lib with
  | .error _ => []
  | .ok e => runArith encodeArith (fun e input => (e.encode input.1 input.2).map Prod.fst) e inputs

end Video.Vp9Encoder

namespace Audio.OpusEncoder
variable {σ Sample : Type} (opus : LibOpus σ Sample)

-- `initialized`: libopus has made its encoder and waits for the bitrate. `encode`
-- only compares lengths.
def newArith (config : AudioConfig) (initialized : Bool) : List Arith :=
  match sampleRateFromHz config.sampleRate,channelsFromCount config.channels with
  | some sr,some ch =>
    if initialized then
      [.toI32 config.bitrateKbps,.mulI32 (asI32 config.bitrateKbps) 1000] ++
        match opus.newEncoder sr ch config.bitrateKbps with
        | none => []
        | some _ => [.mulUsize config.sampleRate.toNat config.frameDurationMs.toNat,
            .mulUsize (config.sampleRate.toNat * config.frameDurationMs.toNat / 1000) config.channels.toNat]
    else []
  | _,_ => []

def consumed : OpusEncoder σ → List (List Sample) → List Nat
  | _,[] => []
  | e,samples::rest => match e.encode opus samples with
    | (e',none) => consumed e' rest
    | (e',some _) => (samples.take e.config.samplesPerFrame).length::consumed e' rest

end Audio.OpusEncoder

/-- What the encoders make of the defaults of a configuration, whatever the libraries
answer and whatever they are given to encode. -/
structure MediaSound (c : AppConfig) : Prop where
  h264 : ∀ lib inputs, AllSound (H264Encoder.sessionArith c.defaults.video lib inputs)
  vp9 : ∀ lib inputs, AllSound (Vp9Encoder.sessionArith c.defaults.video lib inputs)
  opus : ∀ (σ Sample : Type) (opus : LibOpus σ Sample) initialized,
    AllSound (OpusEncoder.newArith opus c.defaults.audio initialized)
  consumes : ∀ (σ Sample : Type) (opus : LibOpus σ Sample), opus.Documented → ∀ e,
    OpusEncoder.new opus c.defaults.audio = some e → ∀ buffers, ∀ n ∈ e.consumed opus buffers,
      c.defaults.audio.channels.toNat ≤ n

section Validated
variable {c : AppConfig}

theorem validFramerate (valid : c.validate = .ok ()) :
    1 ≤ c.defaults.video.framerate.toNat ∧ c.defaults.video.framerate.toNat ≤ 60 := by
  simp only [AppConfig.validate] at valid
  split at valid
  · rename_i none
    simp only [AppConfig.errors,List.isEmpty_iff,List.append_eq_nil_iff] at none
    have range := none.1.2
    simp only [AppConfig.within] at range
    split at range
    · cases range
    · rename_i inside
      obtain ⟨low,high⟩ := not_or.mp inside
      exact ⟨Nat.not_lt.mp low,Nat.not_lt.mp high⟩
  · cases valid

end Validated

theorem castSound {n : UInt32} : (Arith.toI32 n).Sound ↔ n.toNat < 2^31 := by
  have := n.toNat_lt
  simp only [Arith.Sound,asI32]
  split <;> omega

theorem checkEven {config : VideoConfig} (even : Even config) : checkResolution config = .ok () := by
  have positive := not_or.mpr even.positive
  have halves : ¬ (config.width % 2 ≠ 0 ∨ config.height % 2 ≠ 0) :=
    not_or.mpr ⟨not_not.mpr even.even.1,not_not.mpr even.even.2⟩
  rw [checkResolution,if_neg positive,if_neg halves]

section H264
variable {config : VideoConfig} {lib : Libraries}

theorem h264NewArith : AllSound (H264Encoder.newArith config) ↔
    (Even config → config.bitrateKbps.toNat * 1000 < 2^32) := by
  constructor
  · intro sound even
    rw [H264Encoder.newArith,checkEven even] at sound
    exact sound _ (List.mem_singleton.mpr rfl)
  · intro fits op member
    rw [H264Encoder.newArith] at member
    split at member
    · cases member
    · rename_i checked
      cases List.mem_singleton.mp member
      exact fits (resolutionChecked checked)

theorem evenToNat {n : UInt32} (even : n % 2 = 0) : n.toNat % 2 = 0 := by simpa using congrArg UInt32.toNat even

theorem evenIncrement {n : UInt32} (even : n % 2 = 0) : (Arith.addU32 n 1).Sound := evenBelow (evenToNat even)

theorem h264EncodeArith {e : H264Encoder} (even : Even e.config) (framerate : e.config.framerate.toNat ≠ 0)
    (input : I420Buffer × Libraries) : AllSound (e.encodeArith input) := by
  rw [H264Encoder.encodeArith]
  split
  · exact fun op member => nomatch member
  · rename_i same
    have width := not_not.mp (not_or.mp same).1
    refine List.forall_mem_cons.mpr ⟨width ▸ evenIncrement even.even.1,?_⟩
    split
    · exact fun op member => nomatch member
    · exact List.forall_mem_singleton.mpr framerate

theorem h264Session (framerate : config.framerate.toNat ≠ 0)
    (fits : Even config → config.bitrateKbps.toNat * 1000 < 2^32) (inputs : List (I420Buffer × Libraries)) :
    AllSound (H264Encoder.sessionArith config lib inputs) := by
  refine List.forall_mem_append.mpr ⟨h264NewArith.mpr fits,?_⟩
  cases made : H264Encoder.new config lib with
  | error e => exact fun op member => nomatch member
  | ok e =>
    obtain ⟨sound,same⟩ := h264New made
    refine runSound (fun (e : H264Encoder) _ => Even e.config ∧ e.config.framerate.toNat ≠ 0)
      (fun e input _ inv => h264EncodeArith inv.1 inv.2 input) ?_ ⟨sound.even,same.symm ▸ framerate⟩
    intro e input _ e' inv taken
    obtain ⟨⟨_,result⟩,done,rfl⟩ := Option.map_eq_some_iff.mp taken
    rcases h264Encode done with ⟨rfl,_⟩ | ⟨_,_,called⟩
    · exact inv
    · rw [called.config]
      exact inv

end H264

section Vp9
variable {config : VideoConfig} {lib : Libraries}

theorem bufArithSound (even : Even config) (area : config.width.toNat * config.height.toNat < 2^32) :
    AllSound (Vp9Encoder.bufArith config) := by
  have evenW := evenToNat even.even.1
  have evenH := evenToNat even.even.2
  have quarter : ((config.width + 1) / 2).toNat * ((config.height + 1) / 2).toNat < 2^32 := by
    rw [halfExact evenW,halfExact evenH]
    exact quarterBelow area
  have luma : ySize config.width config.height < 2^32 := ySizeExact area ▸ area
  have chroma : uvSize config.width config.height < 2^32 := uvSizeExact area evenW evenH ▸ quarterBelow area
  simp only [Vp9Encoder.bufArith,AllSound,List.forall_mem_cons]
  refine ⟨area,evenIncrement even.even.1,evenIncrement even.even.2,quarter,?_,?_,fun op member => nomatch member⟩
  · simp only [Arith.Sound]
    omega
  · simp only [Arith.Sound]
    omega

structure Vp9Fits (config : VideoConfig) : Prop where
  cpuUsed : config.cpuUsed.toNat < 2^31
  area : config.width.toNat * config.height.toNat < 2^32

theorem vp9NewArith (framerate : config.framerate.toNat < 2^31) (fits : Even config → Vp9Fits config) :
    AllSound (Vp9Encoder.newArith config lib) := by
  rw [Vp9Encoder.newArith]
  split
  · exact fun op member => nomatch member
  · rename_i checked
    have even := resolutionChecked checked
    refine List.forall_mem_append.mpr ⟨?_,?_⟩
    · cases lib.vpxInit with
      | noInterface => exact fun op member => nomatch member
      | configDefault ret => exact fun op member => nomatch member
      | encInit ret => exact List.forall_mem_singleton.mpr (castSound.mpr framerate)
      | ready =>
        exact List.forall_mem_cons.mpr
          ⟨castSound.mpr framerate,List.forall_mem_singleton.mpr (castSound.mpr (fits even).cpuUsed)⟩
    · split
      · exact fun op member => nomatch member
      · exact bufArithSound even (fits even).area

theorem vp9NewFits (ready : lib.vpxInit = .ready) (sound : AllSound (Vp9Encoder.newArith config lib))
    (even : Even config) : Vp9Fits config := by
  rw [Vp9Encoder.newArith,checkEven even,ready] at sound
  obtain ⟨casts,buf⟩ := List.forall_mem_append.mp sound
  exact ⟨castSound.mp (casts (.toI32 config.cpuUsed) (by simp [VpxCtx.newArith])),
    buf (.mulU32 config.width config.height) (by simp [VpxCtx.new,Vp9Encoder.bufArith])⟩

theorem vp9EncodeArith {e : Vp9Encoder} (sound : e.Sound) (framerate : e.config.framerate.toNat ≠ 0)
    (area : e.config.width.toNat * e.config.height.toNat < 2^32) (input : I420Buffer × Libraries) :
    AllSound (e.encodeArith input) := by
  rw [Vp9Encoder.encodeArith]
  split
  · exact fun op member => nomatch member
  · split
    · exact fun op member => nomatch member
    · refine List.forall_mem_append.mpr ⟨?_,?_⟩
      · simp only [VpxCtx.encodeArith,List.forall_mem_cons,sound.ctx,Arith.Sound]
        exact ⟨by omega,by omega,fun op member => nomatch member⟩
      · split
        · exact fun op member => nomatch member
        · exact List.forall_mem_singleton.mpr framerate

theorem vp9Session (framerate : config.framerate.toNat ≠ 0 ∧ config.framerate.toNat < 2^31)
    (fits : Even config → Vp9Fits config) (inputs : List (I420Buffer × Libraries)) :
    AllSound (Vp9Encoder.sessionArith config lib inputs) := by
  refine List.forall_mem_append.mpr ⟨vp9NewArith framerate.2 fits,?_⟩
  cases made : Vp9Encoder.new config lib with
  | error e => exact fun op member => nomatch member
  | ok e =>
    obtain ⟨sound,same⟩ := vp9New made
    have area := (fits (same ▸ sound.even)).area
    refine runSound (fun (e : Vp9Encoder) _ => e.Sound ∧ e.config = config) ?_ ?_ ⟨sound,same⟩
    · intro e input _ inv
      exact vp9EncodeArith inv.1 (inv.2.symm ▸ framerate.1) (inv.2.symm ▸ area) input
    · intro e input _ e' inv taken
      obtain ⟨⟨_,result⟩,done,rfl⟩ := Option.map_eq_some_iff.mp taken
      rcases vp9Encode done with ⟨rfl,_⟩ | ⟨_,_,called⟩
      · exact inv
      · exact ⟨called.sound inv.1,called.config.trans inv.2⟩

end Vp9

section Opus
variable {σ Sample : Type} {opus : LibOpus σ Sample} {config : AudioConfig} {initialized : Bool}

theorem admittedNames (admitted : config.Admitted) :
    sampleRateFromHz config.sampleRate = some config.sampleRate ∧
      channelsFromCount config.channels = some config.channels :=
  ⟨if_pos admitted.1,if_pos admitted.2⟩

theorem namesAdmitted {sr : UInt32} {ch : UInt16} (rate : sampleRateFromHz config.sampleRate = some sr)
    (count : channelsFromCount config.channels = some ch) : config.Admitted := by
  rw [sampleRateFromHz] at rate
  rw [channelsFromCount] at count
  split at rate
  · rename_i known
    split at count
    · rename_i few
      exact ⟨known,few⟩
    · cases count
  · cases rate

theorem rateBelow {rate : UInt32} (known : rate ∈ Audio.sampleRates) : rate.toNat ≤ 48000 ∧ 0 < rate.toNat := by
  exact forallListed (p := fun rate => rate.toNat ≤ 48000 ∧ 0 < rate.toNat) (l := Audio.sampleRates) (by decide) rate known

theorem bitrateSound {kbps : UInt32} (fits : kbps.toNat * 1000 < 2^31) :
    (Arith.toI32 kbps).Sound ∧ (Arith.mulI32 (asI32 kbps) 1000).Sound := by
  have small : kbps.toNat < 2^31 := by omega
  refine ⟨castSound.mpr small,?_⟩
  rw [Arith.Sound,asI32,if_pos small]
  omega

theorem opusNewArith (fits : config.Admitted → config.bitrateKbps.toNat * 1000 < 2^31) :
    AllSound (OpusEncoder.newArith opus config initialized) := by
  rw [OpusEncoder.newArith]
  split
  · rename_i sr ch rate count
    have admitted := namesAdmitted rate count
    obtain ⟨cast,product⟩ := bitrateSound (fits admitted)
    split
    · refine List.forall_mem_append.mpr ⟨List.forall_mem_cons.mpr ⟨cast,List.forall_mem_singleton.mpr product⟩,?_⟩
      split
      · exact fun op member => nomatch member
      · have slow := (rateBelow admitted.1).1
        have duration := config.frameDurationMs.toNat_lt
        have samples : config.sampleRate.toNat * config.frameDurationMs.toNat ≤ 48000 * 2^32 :=
          Nat.mul_le_mul slow (Nat.le_of_lt duration)
        have channels := config.channels.toNat_lt
        have all : config.sampleRate.toNat * config.frameDurationMs.toNat / 1000 * config.channels.toNat ≤
            48000 * 2^32 / 1000 * 2^16 := Nat.mul_le_mul (Nat.div_le_div_right samples) (Nat.le_of_lt channels)
        exact List.forall_mem_cons.mpr ⟨samples.trans_lt (by decide),List.forall_mem_singleton.mpr (all.trans_lt (by decide))⟩
    · exact fun op member => nomatch member
  · exact fun op member => nomatch member

theorem opusNewFits (sound : AllSound (OpusEncoder.newArith opus config true)) (admitted : config.Admitted) :
    config.bitrateKbps.toNat * 1000 < 2^31 := by
  rw [OpusEncoder.newArith,(admittedNames admitted).1,(admittedNames admitted).2] at sound
  have casts := (List.forall_mem_append.mp sound).1
  have small := castSound.mp (casts (.toI32 config.bitrateKbps) (by simp))
  have product := casts (.mulI32 (asI32 config.bitrateKbps) 1000) (by simp)
  rw [Arith.Sound,asI32,if_pos small] at product
  omega

theorem frameConsumes (documented : opus.Documented) {e e' : OpusEncoder σ} {samples : List Sample}
    {packet : EncodedPacket} (encoded : e.encode opus samples = (e',some packet)) :
    e.config.channels.toNat ≤ (samples.take e.config.samplesPerFrame).length := by
  unfold OpusEncoder.encode at encoded
  split at encoded
  · cases encoded
  · dsimp only at encoded
    split at encoded
    · cases encoded
    · rename_i frame made
      obtain ⟨units,known,size⟩ := documented _ _ _ _ (Option.isSome_of_eq_some made)
      have some_ : 0 < units := by
        have all : ∀ units ∈ Audio.frameUnits, 0 < units := by decide
        exact all units known
      have positive := Nat.mul_pos some_ (rateBelow e.admitted.1).2
      by_contra few
      rw [Nat.div_eq_of_lt (Nat.not_le.mp few)] at size
      omega

theorem packetConsumes (documented : opus.Documented) {e : OpusEncoder σ} (buffers : List (List Sample)) {n : Nat}
    (member : n ∈ e.consumed opus buffers) : e.config.channels.toNat ≤ n := by
  induction buffers generalizing e with
  | nil => cases member
  | cons samples rest ih =>
    rw [OpusEncoder.consumed] at member
    split at member
    · rename_i e' skipped
      rw [← (Audio.skippedSpec skipped).2]
      exact ih member
    · rename_i e' packet encoded
      rcases List.mem_cons.mp member with rfl | later
      · exact frameConsumes documented encoded
      · rw [← (Audio.encodedSpec documented encoded).2.2.1]
        exact ih later

end Opus

theorem configMediaSound (c : AppConfig) (valid : c.validate = .ok ()) : MediaSound c ↔
    (Even c.defaults.video → c.defaults.video.bitrateKbps.toNat * 1000 < 2^32 ∧ c.defaults.video.cpuUsed.toNat < 2^31 ∧
      c.defaults.video.width.toNat * c.defaults.video.height.toNat < 2^32) ∧
    (c.defaults.audio.Admitted → c.defaults.audio.bitrateKbps.toNat * 1000 < 2^31) := by
  obtain ⟨least,most⟩ := validFramerate valid
  constructor
  · intro sound
    refine ⟨fun even => ?_,fun admitted => ?_⟩
    · have h264 := (List.forall_mem_append.mp (sound.h264 willing [])).1
      have vp9 := vp9NewFits rfl (List.forall_mem_append.mp (sound.vp9 willing [])).1 even
      exact ⟨h264NewArith.mp h264 even,vp9.cpuUsed,vp9.area⟩
    · exact opusNewFits (sound.opus Unit Unit Audio.twentyMs true) admitted
  · rintro ⟨video,audio⟩
    refine ⟨fun lib inputs => ?_,fun lib inputs => ?_,fun σ Sample opus initialized => opusNewArith audio,?_⟩
    · exact h264Session (by omega) (fun even => (video even).1) inputs
    · exact vp9Session ⟨by omega,by omega⟩ (fun even => ⟨(video even).2.1,(video even).2.2⟩) inputs
    · intro σ Sample opus documented e made buffers n member
      rw [← (OpusEncoder.makeConfig opus made).1]
      exact packetConsumes documented buffers member

theorem defaultMediaSound : MediaSound AppConfig.default :=
  (configMediaSound AppConfig.default (by decide)).mpr ⟨fun _ => by decide,fun _ => by decide⟩

def fastVideo : AppConfig :=
  {AppConfig.default with defaults := {DefaultsConfig.default with video := {VideoConfig.default with bitrateKbps := 4294968}}}

theorem fastVideoWraps : ¬ ∀ c : AppConfig, c.validate = .ok () → MediaSound c := by
  intro all
  have sound := (List.forall_mem_append.mp ((all fastVideo (by decide)).h264 willing [])).1
  have overflow : ¬ AllSound (H264Encoder.newArith fastVideo.defaults.video) := by decide
  exact overflow sound

end Vscreen
