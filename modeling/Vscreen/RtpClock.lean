import Vscreen.AudioEncode
import Vscreen.Rtp

/-! The multicast audio sender (vscreen-transport, sender.rs) fed by one encoder. It
takes the presentation time of a packet for milliseconds; the encoder counts
frames, and no Opus frame lasts one millisecond. -/
namespace Vscreen.Audio

structure RtpSender where
  bound : Bool
  packetsSent : UInt64
  sequenceNumber : UInt16
  ssrc : UInt32

namespace RtpSender

def timestampOf (packet : EncodedPacket) : UInt32 := (packet.pts * 48000 / 1000).toUInt32

def header (s : RtpSender) (packet : EncodedPacket) : Rtp.Header :=
  ⟨packet.isKeyframe,111,s.sequenceNumber,timestampOf packet,s.ssrc⟩

def buildRtpPacket (s : RtpSender) (packet : EncodedPacket) : List Byte := Rtp.packet (s.header packet) packet.data

def send (s : RtpSender) (accepted : Bool) : Option RtpSender :=
  if s.bound && accepted then some {s with packetsSent := s.packetsSent + 1, sequenceNumber := s.sequenceNumber + 1}
  else none

end RtpSender

inductive AudioTurn (Sample : Type) where
  | buffer (samples : List Sample) (accepted : Bool)
  | reconfigure (config : AudioConfig)

structure AudioSent where
  packet : EncodedPacket
  rtp : List Byte
  sent : Bool

section Feed
variable {σ Sample : Type} (opus : LibOpus σ Sample)

def feed : OpusEncoder σ → RtpSender → List (AudioTurn Sample) → List AudioSent
  | _,_,[] => []
  | e,s,.reconfigure config::turns => feed ((e.reconfigure opus config).getD e) s turns
  | e,s,.buffer samples accepted::turns => match e.encode opus samples with
    | (e',none) => feed e' s turns
    | (e',some packet) =>
      ⟨packet,s.buildRtpPacket packet,(s.send accepted).isSome⟩::feed e' ((s.send accepted).getD s) turns

end Feed

def Neighbours (outs : List AudioSent) (a b : AudioSent) : Prop :=
  ∃ i : Nat, outs[i]? = some a ∧ outs[i + 1]? = some b ∧ a.sent ∧ b.sent

def Clock48 (frameDurationMs : UInt32) (outs : List AudioSent) : Prop := ∀ a b, Neighbours outs a b →
  Rtp.timestampOf b.rtp = (Rtp.timestampOf a.rtp).map (· + 48 * frameDurationMs)

def durations : List UInt32 := [5,10,20,40,60,80,100,120]

theorem admittedDuration {config : AudioConfig} (admitted : config.Admitted) {units : Nat} (known : units ∈ frameUnits)
    (size : 400 * (config.samplesPerFrame / config.channels.toNat) = units * config.sampleRate.toNat) :
    config.frameDurationMs ∈ durations := by
  obtain ⟨rate,count⟩ := admitted
  have channels : 0 < config.channels.toNat := by rcases count with one | two <;> simp [*]
  rw [AudioConfig.samplesPerFrame,Nat.mul_div_cancel _ channels] at size
  -- a rate is a whole number of samples for each millisecond
  have whole : 400 * config.frameDurationMs.toNat = 1000 * units := by
    simp only [sampleRates,List.mem_cons,List.not_mem_nil,or_false] at rate
    rcases rate with rate | rate | rate | rate | rate <;> (rw [rate] at size; simp at size; omega)
  simp only [frameUnits,List.mem_cons,List.not_mem_nil,or_false] at known
  simp only [durations,List.mem_cons,List.not_mem_nil,or_false,← UInt32.toNat_inj]
  rcases known with known | known | known | known | known | known | known | known | known <;>
    (subst known; simp; omega)

theorem unitsApart (y : Nat) (bound : y < 2^64) : ∃ step ∈ [48,3023657024,3023657025],
    (y + 48000) % 2^64 / 1000 % 2^32 = (y / 1000 + step) % 2^32 := by
  by_cases wraps : y + 48000 < 2^64
  · refine ⟨48,by simp,?_⟩
    rw [Nat.mod_eq_of_lt wraps]
    omega
  · have wrapped : (y + 48000) % 2^64 = y + 48000 - 2^64 := by omega
    rw [wrapped]
    by_cases low : y % 1000 < 616
    · exact ⟨3023657024,by simp,by omega⟩
    · exact ⟨3023657025,by simp,by omega⟩

theorem nextTimestamp {a b : EncodedPacket} (next : b.pts = a.pts + 1) {d : UInt32} (known : d ∈ durations) :
    RtpSender.timestampOf b ≠ RtpSender.timestampOf a + 48 * d := by
  obtain ⟨step,possible,apart⟩ := unitsApart (a.pts.toNat * 48000 % 2^64) (Nat.mod_lt _ (by decide))
  have before : (RtpSender.timestampOf a).toNat = a.pts.toNat * 48000 % 2^64 / 1000 % 2^32 := by
    simp [RtpSender.timestampOf]
  have after : (RtpSender.timestampOf b).toNat = (a.pts.toNat * 48000 % 2^64 + 48000) % 2^64 / 1000 % 2^32 := by
    simp [RtpSender.timestampOf,next,Nat.add_mul]
  intro same
  rw [← UInt32.toNat_inj,after,apart,UInt32.toNat_add,before] at same
  generalize a.pts.toNat * 48000 % 2^64 / 1000 = units at same
  -- none of the three steps is the length of an Opus frame
  have apart : ∀ step ∈ [48,3023657024,3023657025], durations.all (fun d => step ≠ (48 * d).toNat) = true := by decide
  have differs := of_decide_eq_true (List.all_eq_true.mp (apart step possible) d known)
  have small : step < 2^32 := by
    have all : ∀ step ∈ [48,3023657024,3023657025], step < 2^32 := by decide
    exact all step possible
  have room := (48 * d).toNat_lt
  omega

section Run
variable {σ Sample : Type} {opus : LibOpus σ Sample}

theorem encodedSpec {e e' : OpusEncoder σ} {samples : List Sample} {packet : EncodedPacket}
    (documented : opus.Documented) (encoded : e.encode opus samples = (e',some packet)) :
    packet.pts = e.frameCount ∧ e'.frameCount = e.frameCount + 1 ∧ e'.config = e.config ∧
      e.config.frameDurationMs ∈ durations := by
  unfold OpusEncoder.encode at encoded
  split at encoded
  · cases encoded
  · rename_i enough
    dsimp only at encoded
    split at encoded
    · cases encoded
    · rename_i frame made
      cases encoded
      refine ⟨rfl,rfl,rfl,?_⟩
      obtain ⟨units,known,size⟩ := documented _ _ _ _ (Option.isSome_of_eq_some made)
      rw [List.length_take_of_le (Nat.not_lt.mp enough)] at size
      exact admittedDuration e.admitted known size

theorem skippedSpec {e e' : OpusEncoder σ} {samples : List Sample} (skipped : e.encode opus samples = (e',none)) :
    e'.frameCount = e.frameCount ∧ e'.config = e.config := by
  unfold OpusEncoder.encode at skipped
  split at skipped
  · cases skipped
    exact ⟨rfl,rfl⟩
  · dsimp only at skipped
    split at skipped <;> cases skipped
    exact ⟨rfl,rfl⟩

def Keeps (d : UInt32) (turns : List (AudioTurn Sample)) : Prop :=
  ∀ config, AudioTurn.reconfigure config ∈ turns → config.frameDurationMs = d

theorem feedSpec (documented : opus.Documented) (turns : List (AudioTurn Sample)) {e : OpusEncoder σ} {s : RtpSender}
    {d : UInt32} (duration : e.config.frameDurationMs = d) (keeps : Keeps d turns) :
    Numbered e.frameCount ((feed opus e s turns).map AudioSent.packet) ∧ ∀ out ∈ feed opus e s turns,
      Rtp.timestampOf out.rtp = some (RtpSender.timestampOf out.packet) ∧ d ∈ durations := by
  induction turns generalizing e s with
  | nil => exact ⟨.nil _,by simp [feed]⟩
  | cons turn turns ih =>
    have later : Keeps d turns := fun config member => keeps config (List.mem_cons_of_mem _ member)
    cases turn with
    | reconfigure config =>
      rw [feed]
      cases made : e.reconfigure opus config with
      | none => exact ih duration later
      | some e' =>
        obtain ⟨same,count⟩ := OpusEncoder.makeConfig opus made
        have kept := ih (e := e') (s := s) (same ▸ keeps config List.mem_cons_self) later
        rw [count] at kept
        exact kept
    | buffer samples accepted =>
      rw [feed]
      split
      · rename_i e' skipped
        obtain ⟨count,same⟩ := skippedSpec skipped
        have kept := ih (e := e') (s := s) (same ▸ duration) later
        rw [count] at kept
        exact kept
      · rename_i e' packet encoded
        obtain ⟨pts,count,same,known⟩ := encodedSpec documented encoded
        obtain ⟨numbered,stamped⟩ := ih (e := e') (s := (s.send accepted).getD s) (same ▸ duration) later
        rw [count] at numbered
        refine ⟨.cons pts numbered,?_⟩
        intro out member
        rcases List.mem_cons.mp member with rfl | member
        · refine ⟨?_,duration ▸ known⟩
          rw [Rtp.timestampOf,RtpSender.buildRtpPacket,Rtp.readPacket _ (show Rtp.Seven 111 by decide)]
          rfl
        · exact stamped out member

theorem numberedNext {pts : UInt64} {packets : List EncodedPacket} (numbered : Numbered pts packets) {i : Nat}
    {a b : EncodedPacket} (first : packets[i]? = some a) (second : packets[i + 1]? = some b) : b.pts = a.pts + 1 := by
  induction numbered generalizing i with
  | nil => contradiction
  | cons counted rest ih =>
    cases i with
    | zero =>
      cases first
      cases rest with
      | nil => contradiction
      | cons counted' _ =>
        cases second
        rw [counted,counted']
    | succ i => exact ih first second

theorem clockNeverRuns (documented : opus.Documented) {config : AudioConfig} {e : OpusEncoder σ}
    (made : OpusEncoder.new opus config = some e) (s : RtpSender) (turns : List (AudioTurn Sample))
    (keeps : Keeps config.frameDurationMs turns) :
    Clock48 config.frameDurationMs (feed opus e s turns) ↔ ¬ ∃ a b, Neighbours (feed opus e s turns) a b := by
  constructor
  · rintro clock ⟨a,b,neighbours⟩
    have apart := clock a b neighbours
    obtain ⟨i,first,second,-,-⟩ := neighbours
    obtain ⟨numbered,stamped⟩ := feedSpec documented turns (s := s)
      (congrArg AudioConfig.frameDurationMs (OpusEncoder.makeConfig opus made).1) keeps
    obtain ⟨stampA,known⟩ := stamped a (List.mem_of_getElem? first)
    obtain ⟨stampB,-⟩ := stamped b (List.mem_of_getElem? second)
    have next : b.packet.pts = a.packet.pts + 1 :=
      numberedNext numbered (i := i) (by rw [List.getElem?_map,first]; rfl) (by rw [List.getElem?_map,second]; rfl)
    rw [stampA,stampB,Option.map_some,Option.some.injEq] at apart
    exact nextTimestamp next known apart
  · intro never a b neighbours
    exact (never ⟨a,b,neighbours⟩).elim

def twentyMs : LibOpus Unit Unit where
  newEncoder _ _ _ := some ()
  encodeFloat rate channels _ samples :=
    ((),if rate = 48000 ∧ channels = 2 ∧ samples.length = 1920 then some ⟨[0xFC],by decide⟩ else none)

theorem twentyMsDocumented : twentyMs.Documented := by
  intro rate channels state samples encoded
  simp only [twentyMs] at encoded
  split at encoded
  · rename_i size
    obtain ⟨rfl,rfl,size⟩ := size
    exact ⟨8,by decide,by rw [size]; decide⟩
  · contradiction

def defaultEncoder : OpusEncoder Unit := ⟨(),⟨48000,2,128,20⟩,0,⟨by decide,.inr rfl⟩⟩

def frames (n : Nat) : List (AudioTurn Unit) := List.replicate n (.buffer (List.replicate 1920 ()) true)

theorem clockNeverRunsRun : Clock48 20 (feed twentyMs defaultEncoder ⟨true,0,0,7⟩ (frames 1)) := by
  have made : OpusEncoder.new twentyMs ⟨48000,2,128,20⟩ = some defaultEncoder := rfl
  have keeps : Keeps 20 (frames 1) := by
    intro config member
    cases List.eq_of_mem_replicate member
  have one : (feed twentyMs defaultEncoder ⟨true,0,0,7⟩ (frames 1)).length = 1 := by decide +kernel
  refine (clockNeverRuns twentyMsDocumented made ⟨true,0,0,7⟩ (frames 1) keeps).mpr ?_
  generalize feed twentyMs defaultEncoder ⟨true,0,0,7⟩ (frames 1) = outs at one
  rintro ⟨a,b,i,-,second,-⟩
  rw [List.getElem?_eq_none (by omega)] at second
  contradiction

theorem twoFramesApart : ¬ Clock48 20 (feed twentyMs defaultEncoder ⟨true,0,0,7⟩ (frames 2)) := by
  intro clock
  have outs : (feed twentyMs defaultEncoder ⟨true,0,0,7⟩ (frames 2)).map
      (fun out => (out.sent,Rtp.timestampOf out.rtp)) = [(true,some 0),(true,some 48)] := by decide +kernel
  generalize feed twentyMs defaultEncoder ⟨true,0,0,7⟩ (frames 2) = sent at clock outs
  obtain ⟨a,rest,all,first,others⟩ := List.map_eq_cons_iff.mp outs
  obtain ⟨b,only,second⟩ := List.map_eq_singleton_iff.mp others
  rw [Prod.mk.injEq] at first second
  have apart := clock a b ⟨0,by rw [all]; rfl,by rw [all,only]; rfl,first.1,second.1⟩
  rw [first.2,second.2] at apart
  contradiction

end Run
end Vscreen.Audio
