import Vscreen.VideoAgreement

/-! Bitrate hints from the clients' data channel to the codec (supervisor.rs and
data_channel.rs). The relay and the video task pass them on through bounded channels,
the encode thread applies them; none of them asks for the range of the configuration. -/
namespace Vscreen.Video
open Rtsp (VideoCodec)

inductive InputEvent where
  | bitrateHint (kbps : UInt32)
  | other
  deriving DecidableEq, Repr

structure EncodeCommand where
  data : List Byte
  forceKeyframe : Bool
  bitrateHint : Option UInt32
  deriving DecidableEq, Repr

-- `sending` is a command that the video task is about to send, `taken` the one that the encode
-- thread has received and works on; the pipeline is that of the thread, and gone when it is
structure Supervisor where
  started : Bool
  inputs : List InputEvent
  hints : List UInt32
  keyframeFlag : Bool
  sending : Option EncodeCommand
  commands : List EncodeCommand
  taken : Option EncodeCommand
  pipeline : Option VideoPipeline

namespace Supervisor

inductive Event where
  | start (lib : Libraries)
  | input (event : InputEvent)
  | relay
  | requestKeyframe
  | frame (data : List Byte)
  | send
  -- `encode_rx.recv()`, which frees the command's place in the channel.
  | recv
  | encode (hintLib lib : Libraries)

inductive Output where
  | converted (kbps : UInt32)
  | packet (packet : EncodedPacket)
  | dropped (error : VideoError)
  | panicked
  deriving DecidableEq

def trySend {α : Type} (capacity : Nat) (queue : List α) (x : α) : List α :=
  if queue.length < capacity then queue ++ [x] else queue

def conversions (config : VideoConfig) : VideoCodec → List Output
  | .vp9 => []
  | .h264 => [.converted config.bitrateKbps]

def sizeAsked (p : VideoPipeline) (data : List Byte) (lib : Libraries) : Option VideoConfig :=
  match decodeJpeg data lib.decoder with
  | .error _ => none
  | .ok decoded => match padToEven decoded with
    | none => none
    | some frame => p.resized frame

def applyHint (p : VideoPipeline) (lib : Libraries) : Option UInt32 → VideoPipeline × List Output
  | none => (p,[])
  | some kbps => (p.reconfigureBitrate kbps lib,conversions {p.config with bitrateKbps := kbps} p.codec)

def applyRequest (p : VideoPipeline) (force : Bool) : VideoPipeline := if force then p.requestKeyframe else p

def encodeData (colours : Colours) (p : VideoPipeline) (data : List Byte) (lib : Libraries) :
    Option VideoPipeline × List Output :=
  let asked := match sizeAsked p data lib with
    | none => []
    | some config => conversions config p.codec
  match p.process colours data lib with
  | none => (none,asked ++ [.panicked])
  | some (p,.error e) => (some p.recordDrop,asked ++ [.dropped e])
  | some (p,.ok encoded) => (some p,asked ++ [.packet encoded.packet])

def encode (colours : Colours) (s : Supervisor) (p : VideoPipeline) (cmd : EncodeCommand)
    (hintLib lib : Libraries) : Supervisor × List Output :=
  let hinted := applyHint p hintLib cmd.bitrateHint
  let encoded := encodeData colours (applyRequest hinted.1 cmd.forceKeyframe) cmd.data lib
  ({s with taken := none, pipeline := encoded.1},hinted.2 ++ encoded.2)

def start (s : Supervisor) (config : VideoConfig) (lib : Libraries) : Supervisor × List Output :=
  match VideoPipeline.withCodec config config.codec lib with
  | .error _ => ({s with started := true},conversions config config.codec)
  | .ok p => ({s with started := true, pipeline := some p},conversions config config.codec)

def relay (s : Supervisor) : InputEvent → List InputEvent → Supervisor
  | .bitrateHint kbps,rest => {s with inputs := rest, hints := trySend 8 s.hints kbps}
  | .other,rest => {s with inputs := rest}

def takeFrame (s : Supervisor) (data : List Byte) : Supervisor :=
  {s with keyframeFlag := false, hints := [], sending := some ⟨data,s.keyframeFlag,s.hints.getLast?⟩}

def step (colours : Colours) (config : VideoConfig) (s : Supervisor) : Event → Option (Supervisor × List Output)
  | .start lib => if s.started then none else some (s.start config lib)
  | .input event => some ({s with inputs := trySend 100 s.inputs event},[])
  | .relay => match s.inputs with
    | [] => none
    | event::rest => some (s.relay event rest,[])
  | .requestKeyframe => some ({s with keyframeFlag := true},[])
  | .frame data => match s.sending with
    | some _ => none
    | none => some (s.takeFrame data,[])
  | .send => match s.sending with
    | none => none
    | some cmd => if s.commands.length < 2 then some ({s with sending := none, commands := s.commands ++ [cmd]},[]) else none
  | .recv => match s.pipeline,s.taken,s.commands with
    | some _,none,cmd::rest => some ({s with taken := some cmd, commands := rest},[])
    | _,_,_ => none
  | .encode hintLib lib => match s.pipeline,s.taken with
    | some p,some cmd => some (s.encode colours p cmd hintLib lib)
    | _,_ => none

inductive Stepped (colours : Colours) (config : VideoConfig) (s : Supervisor) : Event → Supervisor → List Output → Prop where
  | started {lib s' out} (idle : s.started = false) (done : s.start config lib = (s',out)) :
      Stepped colours config s (.start lib) s' out
  | input (event) : Stepped colours config s (.input event) {s with inputs := trySend 100 s.inputs event} []
  | relayed {event rest} (waiting : s.inputs = event::rest) : Stepped colours config s .relay (s.relay event rest) []
  | requested : Stepped colours config s .requestKeyframe {s with keyframeFlag := true} []
  | framed {data} (free : s.sending = none) : Stepped colours config s (.frame data) (s.takeFrame data) []
  | sent {cmd} (held : s.sending = some cmd) (room : s.commands.length < 2) :
      Stepped colours config s .send {s with sending := none, commands := s.commands ++ [cmd]} []
  | received {p cmd rest} (runs : s.pipeline = some p) (idle : s.taken = none) (queued : s.commands = cmd::rest) :
      Stepped colours config s .recv {s with taken := some cmd, commands := rest} []
  | encoded {p cmd hintLib lib s' out} (runs : s.pipeline = some p) (received : s.taken = some cmd)
      (done : s.encode colours p cmd hintLib lib = (s',out)) : Stepped colours config s (.encode hintLib lib) s' out

theorem stepped {colours : Colours} {config : VideoConfig} {s s' : Supervisor} {event : Event} {out : List Output}
    (taken : s.step colours config event = some (s',out)) : Stepped colours config s event s' out := by
  cases event with
  | start lib =>
    simp only [step] at taken
    split at taken
    · cases taken
    · rename_i idle
      exact .started (Bool.eq_false_iff.mpr idle) (Option.some.inj taken)
  | input event => cases taken; exact .input event
  | relay =>
    simp only [step] at taken
    split at taken
    · cases taken
    · rename_i event rest waiting
      cases taken
      exact .relayed waiting
  | requestKeyframe => cases taken; exact .requested
  | frame data =>
    simp only [step] at taken
    split at taken
    · cases taken
    · rename_i free
      cases taken
      exact .framed free
  | send =>
    simp only [step] at taken
    split at taken
    · cases taken
    · rename_i cmd held
      split at taken
      · rename_i room
        cases taken
        exact .sent held room
      · cases taken
  | recv =>
    simp only [step] at taken
    split at taken
    · rename_i p cmd rest runs idle queued
      cases taken
      exact .received runs idle queued
    · cases taken
  | encode hintLib lib =>
    simp only [step] at taken
    split at taken
    · rename_i p cmd runs received
      exact .encoded runs received (Option.some.inj taken)
    · cases taken

end Supervisor

def supervisor (colours : Colours) (config : VideoConfig) : Machine Supervisor Supervisor.Event Supervisor.Output where
  init := ⟨false,[],[],false,none,[],none,none⟩
  step := Supervisor.step colours config

def InRange (config : VideoConfig) (p : VideoPipeline) : Prop :=
  1000 * config.minBitrateKbps.toNat ≤ p.encoder.running.bitsPerSecond ∧
    p.encoder.running.bitsPerSecond ≤ 1000 * config.maxBitrateKbps.toNat

def NoOverflow (trace : List Supervisor.Output) : Prop := ∀ kbps, .converted kbps ∈ trace → kbps.toNat * 1000 < 2^32

/-- A bitrate in the range, and for openh264 one whose bits per second fit `u32`. -/
structure Allowed (config : VideoConfig) (kbps : UInt32) : Prop where
  least : config.minBitrateKbps.toNat ≤ kbps.toNat
  most : kbps.toNat ≤ config.maxBitrateKbps.toNat
  fits : config.codec = .h264 → kbps.toNat * 1000 < 2^32

def HintsAllowed (config : VideoConfig) (s : Supervisor) : Supervisor.Event → Prop
  | .frame _ => ∀ kbps, s.hints.getLast? = some kbps → Allowed config kbps
  | _ => True

theorem encoderBits {encoder : VideoEncoder} (sound : encoder.Sound) :
    encoder.running.bitsPerSecond = match encoder.codec with
      | .vp9 => 1000 * encoder.config.bitrateKbps.toNat
      | .h264 => (encoder.config.bitrateKbps * 1000).toNat := by
  cases encoder with
  | vp9 e => simp only [VideoEncoder.running,VideoEncoder.codec,VideoEncoder.config,sound.ctx,VpxEncCfg.of]
  | h264 e => simp only [VideoEncoder.running,VideoEncoder.codec,VideoEncoder.config,sound.encoder,EncoderConfig.of]

theorem allowedRunning {config : VideoConfig} {p : VideoPipeline} (sound : p.Sound) (codec : p.codec = config.codec) :
    Allowed config p.config.bitrateKbps ↔
      InRange config p ∧ (p.codec = .h264 → p.config.bitrateKbps.toNat * 1000 < 2^32) := by
  have bits := encoderBits sound.encoder
  rw [sound.config,sound.codec] at bits
  have exactly : (p.codec = .h264 → p.config.bitrateKbps.toNat * 1000 < 2^32) →
      p.encoder.running.bitsPerSecond = 1000 * p.config.bitrateKbps.toNat := by
    intro fits
    cases kind : p.codec with
    | vp9 => rw [kind] at bits; exact bits
    | h264 => rw [kind] at bits; exact bits.trans (bitsExact.mpr (fits kind))
  constructor
  · intro allowed
    have fits : p.codec = .h264 → p.config.bitrateKbps.toNat * 1000 < 2^32 :=
      fun h264 => allowed.fits (codec.symm.trans h264)
    refine ⟨?_,fits⟩
    rw [InRange,exactly fits]
    exact ⟨Nat.mul_le_mul_left _ allowed.least,Nat.mul_le_mul_left _ allowed.most⟩
  · rintro ⟨within,fits⟩
    rw [InRange,exactly fits] at within
    exact ⟨by omega,by omega,fun h264 => fits (codec.trans h264)⟩

structure Steady (config : VideoConfig) (p : VideoPipeline) : Prop where
  sound : p.Sound
  codec : p.codec = config.codec
  allowed : Allowed config p.config.bitrateKbps

structure Tame (config : VideoConfig) (s : Supervisor) : Prop where
  pipeline : ∀ p, s.pipeline = some p → Steady config p
  sending : ∀ cmd, s.sending = some cmd → ∀ kbps, cmd.bitrateHint = some kbps → Allowed config kbps
  commands : ∀ cmd ∈ s.commands, ∀ kbps, cmd.bitrateHint = some kbps → Allowed config kbps
  taken : ∀ cmd, s.taken = some cmd → ∀ kbps, cmd.bitrateHint = some kbps → Allowed config kbps

theorem noOverflowAppend {trace out : List Supervisor.Output} (before : NoOverflow trace) (now : NoOverflow out) :
    NoOverflow (trace ++ out) := by
  intro kbps member
  rcases List.mem_append.mp member with old | new
  · exact before kbps old
  · exact now kbps new

section Steps
variable {colours : Colours} {config : VideoConfig} {s s' : Supervisor} {p : VideoPipeline} {out : List Supervisor.Output}

theorem conversionsFit {asked : VideoConfig} (allowed : Allowed config asked.bitrateKbps) :
    NoOverflow (Supervisor.conversions asked config.codec) := by
  intro kbps member
  cases codec : config.codec with
  | vp9 => rw [codec] at member; cases member
  | h264 =>
    rw [codec] at member
    cases List.mem_singleton.mp member
    exact allowed.fits codec

theorem hintTaken (kbps : UInt32) (lib : Libraries) (sound : p.Sound) :
    (p.reconfigureBitrate kbps lib).Sound ∧ (p.reconfigureBitrate kbps lib).codec = p.codec ∧
      (p.reconfigureBitrate kbps lib = p ∨ (p.reconfigureBitrate kbps lib).config.bitrateKbps = kbps) := by
  simp only [VideoPipeline.reconfigureBitrate]
  split
  · exact ⟨sound,rfl,.inl rfl⟩
  · rename_i p' changed
    obtain ⟨sound',same,codec,-⟩ := reconfigureSpec sound changed
    exact ⟨sound',codec,.inr (by rw [same])⟩

theorem hintSteady {kbps : UInt32} {lib : Libraries} (steady : Steady config p) (allowed : Allowed config kbps) :
    Steady config (p.reconfigureBitrate kbps lib) := by
  obtain ⟨sound,codec,taken⟩ := hintTaken kbps lib steady.sound
  refine ⟨sound,codec.trans steady.codec,?_⟩
  rcases taken with same | same
  · rw [same]; exact steady.allowed
  · rw [same]; exact allowed

theorem applyHintSteady {hint : Option UInt32} (lib : Libraries) (steady : Steady config p)
    (allowed : ∀ kbps, hint = some kbps → Allowed config kbps) :
    Steady config (Supervisor.applyHint p lib hint).1 ∧ NoOverflow (Supervisor.applyHint p lib hint).2 := by
  cases hint with
  | none => exact ⟨steady,fun kbps member => by cases member⟩
  | some kbps =>
    refine ⟨hintSteady steady (allowed kbps rfl),?_⟩
    rw [Supervisor.applyHint,steady.codec]
    exact conversionsFit (allowed kbps rfl)

theorem applyRequestSteady (steady : Steady config p) (force : Bool) : Steady config (Supervisor.applyRequest p force) := by
  simp only [Supervisor.applyRequest]
  split
  · exact ⟨requestKeyframeSound steady.sound,steady.codec,steady.allowed⟩
  · exact steady

theorem sizeAskedBitrate {data : List Byte} {lib : Libraries} {asked : VideoConfig}
    (asks : Supervisor.sizeAsked p data lib = some asked) : asked.bitrateKbps = p.config.bitrateKbps := by
  simp only [Supervisor.sizeAsked,VideoPipeline.resized] at asks
  split at asks
  · cases asks
  · split at asks
    · cases asks
    · split at asks
      · cases asks; rfl
      · cases asks

theorem sizeConversions (data : List Byte) (lib : Libraries) (steady : Steady config p) :
    NoOverflow (match Supervisor.sizeAsked p data lib with
      | none => []
      | some asked => Supervisor.conversions asked p.codec) := by
  split
  · intro kbps member; cases member
  · rename_i asked asks
    rw [steady.codec]
    exact conversionsFit (by rw [sizeAskedBitrate asks]; exact steady.allowed)

theorem encodeDataSteady (colours : Colours) (data : List Byte) (lib : Libraries) (steady : Steady config p) :
    (∀ p', (Supervisor.encodeData colours p data lib).1 = some p' → Steady config p') ∧
      NoOverflow (Supervisor.encodeData colours p data lib).2 := by
  have conversions := sizeConversions data lib steady
  simp only [Supervisor.encodeData]
  split
  · exact ⟨fun p' absent => (by cases absent),noOverflowAppend conversions (by simp [NoOverflow])⟩
  · rename_i p₁ e processed
    obtain ⟨sound,codec,bitrate⟩ := processSound steady.sound processed
    refine ⟨?_,noOverflowAppend conversions (by simp [NoOverflow])⟩
    intro p' same
    cases same
    exact ⟨⟨sound.encoder,sound.config,sound.codec⟩,codec.trans steady.codec,bitrate ▸ steady.allowed⟩
  · rename_i p₁ encoded processed
    obtain ⟨sound,codec,bitrate⟩ := processSound steady.sound processed
    refine ⟨?_,noOverflowAppend conversions (by simp [NoOverflow])⟩
    intro p' same
    cases same
    exact ⟨sound,codec.trans steady.codec,bitrate ▸ steady.allowed⟩

theorem startTame {lib : Libraries} (start : Allowed config config.bitrateKbps) (tame : Tame config s)
    (done : s.start config lib = (s',out)) : Tame config s' ∧ NoOverflow out := by
  simp only [Supervisor.start] at done
  split at done
  · cases done
    exact ⟨⟨tame.pipeline,tame.sending,tame.commands,tame.taken⟩,conversionsFit start⟩
  · rename_i p made
    cases done
    refine ⟨⟨?_,tame.sending,tame.commands,tame.taken⟩,conversionsFit start⟩
    intro p' same
    cases same
    obtain ⟨sound,own⟩ := withCodecSpec made
    refine ⟨sound,?_,by rw [own]; exact start⟩
    simp only [VideoPipeline.withCodec] at made
    split at made
    · cases made
    · cases made; rfl

theorem sendTame {cmd : EncodeCommand} (tame : Tame config s) (held : s.sending = some cmd) :
    Tame config {s with sending := none, commands := s.commands ++ [cmd]} := by
  refine ⟨tame.pipeline,fun cmd absent => (by cases absent),?_,tame.taken⟩
  intro cmd' member
  rcases List.mem_append.mp member with old | new
  · exact tame.commands cmd' old
  · cases List.mem_singleton.mp new
    exact tame.sending cmd held

theorem recvTame {cmd : EncodeCommand} {rest : List EncodeCommand} (tame : Tame config s) (queued : s.commands = cmd::rest) :
    Tame config {s with taken := some cmd, commands := rest} := by
  have fits : ∀ cmd' ∈ cmd::rest, ∀ kbps, cmd'.bitrateHint = some kbps → Allowed config kbps :=
    fun cmd' member => tame.commands cmd' (by rw [queued]; exact member)
  refine ⟨tame.pipeline,tame.sending,fun cmd' member => fits cmd' (List.mem_cons_of_mem _ member),?_⟩
  intro cmd' same
  cases same
  exact fits cmd List.mem_cons_self

theorem encodeTame {cmd : EncodeCommand} {hintLib lib : Libraries} (tame : Tame config s)
    (runs : s.pipeline = some p) (taken : s.taken = some cmd) (done : s.encode colours p cmd hintLib lib = (s',out)) :
    Tame config s' ∧ NoOverflow out := by
  cases done
  obtain ⟨hinted,first⟩ := applyHintSteady hintLib (tame.pipeline p runs) (tame.taken cmd taken)
  obtain ⟨kept,second⟩ := encodeDataSteady colours cmd.data lib (applyRequestSteady hinted cmd.forceKeyframe)
  exact ⟨⟨kept,tame.sending,tame.commands,fun cmd absent => (by cases absent)⟩,noOverflowAppend first second⟩

theorem tameStep {event : Supervisor.Event} (start : Allowed config config.bitrateKbps) (tame : Tame config s)
    (hints : HintsAllowed config s event) (taken : (supervisor colours config).step s event = some (s',out)) :
    Tame config s' ∧ NoOverflow out := by
  have silent : NoOverflow [] := fun kbps member => by cases member
  cases Supervisor.stepped taken with
  | started _ done => exact startTame start tame done
  | input event => exact ⟨⟨tame.pipeline,tame.sending,tame.commands,tame.taken⟩,silent⟩
  | @relayed event rest _ =>
    refine ⟨?_,silent⟩
    cases event with
    | bitrateHint kbps => exact ⟨tame.pipeline,tame.sending,tame.commands,tame.taken⟩
    | other => exact ⟨tame.pipeline,tame.sending,tame.commands,tame.taken⟩
  | requested => exact ⟨⟨tame.pipeline,tame.sending,tame.commands,tame.taken⟩,silent⟩
  | framed _ =>
    refine ⟨⟨tame.pipeline,?_,tame.commands,tame.taken⟩,silent⟩
    intro cmd same
    cases same
    exact hints
  | sent held _ => exact ⟨sendTame tame held,silent⟩
  | received _ _ queued => exact ⟨recvTame tame queued,silent⟩
  | encoded runs received done => exact encodeTame tame runs received done

end Steps

theorem bitrateInRange {colours : Colours} {config : VideoConfig} {s : Supervisor} {trace : List Supervisor.Output}
    (start : Allowed config config.bitrateKbps)
    (run : Machine.Run (supervisor colours config) (HintsAllowed config) s trace) :
    (∀ p, s.pipeline = some p → InRange config p) ∧ NoOverflow trace := by
  have tame : Tame config s ∧ NoOverflow trace := by
    refine Machine.runInvariant (fun s trace => Tame config s ∧ NoOverflow trace) ?_ ?_ run
    · refine ⟨⟨?_,?_,?_,?_⟩,?_⟩
      · intro p absent; cases absent
      · intro cmd absent; cases absent
      · intro cmd member; cases member
      · intro cmd absent; cases absent
      · intro kbps member; cases member
    · intro s trace event s' out inv hints taken
      have kept := tameStep start inv.1 hints taken
      exact ⟨kept.1,noOverflowAppend inv.2 kept.2⟩
  refine ⟨fun p runs => ?_,tame.2⟩
  have steady := tame.1.pipeline p runs
  exact ((allowedRunning steady.sound steady.codec).mp steady.allowed).1

section Run

def defaultVideo : VideoConfig := AppConfig.default.defaults.video

theorem defaultAllowed : Allowed defaultVideo defaultVideo.bitrateKbps := ⟨by decide,by decide,fun _ => by decide⟩

theorem hintFollowed : ∃ s trace, Machine.Run (supervisor grey defaultVideo) (HintsAllowed defaultVideo) s trace ∧
    s.pipeline.map (·.encoder.running.bitsPerSecond) = some 2000000 ∧ (∀ p, s.pipeline = some p → InRange defaultVideo p) ∧ NoOverflow trace := by
  have started := Machine.runStep (.start : (supervisor grey defaultVideo).Run (HintsAllowed defaultVideo) _ _)
    (.start willing) trivial rfl
  have hinted := Machine.runStep started (.input (.bitrateHint 2000)) trivial rfl
  have relayed := Machine.runStep hinted .relay trivial rfl
  have allowed : Allowed defaultVideo 2000 := ⟨by decide,by decide,fun _ => by decide⟩
  have framed := Machine.runStep relayed (.frame [0xFF]) (fun kbps same => by cases same; exact allowed) rfl
  have sent := Machine.runStep framed .send trivial rfl
  have received := Machine.runStep sent .recv trivial rfl
  have encoded := Machine.runStep received (.encode willing willing) trivial rfl
  exact ⟨_,_,encoded,rfl,bitrateInRange defaultAllowed encoded⟩

theorem hintWraps : AppConfig.default.validate = .ok () ∧
    ∃ s trace, Machine.Reaches (supervisor grey defaultVideo) s trace ∧
      ¬ (∀ p, s.pipeline = some p → InRange defaultVideo p) ∧ ¬ NoOverflow trace := by
  refine ⟨by decide,?_⟩
  obtain ⟨s,trace,reached,wrapped⟩ := Machine.execWitness (supervisor grey defaultVideo)
    [.start willing,.input (.bitrateHint 4294968),.relay,.frame [0xFF],.send,.recv,.encode willing willing]
    (fun s trace => (s.pipeline.any fun (p : VideoPipeline) => decide (p.encoder.running.bitsPerSecond = 704)) &&
      decide (Supervisor.Output.converted 4294968 ∈ trace)) (by decide +kernel)
  obtain ⟨slow,converted⟩ := Bool.and_eq_true_iff.mp wrapped
  obtain ⟨p,runs,bits⟩ := (Option.any_eq_true _ _).mp slow
  refine ⟨s,trace,reached,?_,?_⟩
  · intro inRange
    have least := (inRange p runs).1
    rw [of_decide_eq_true bits] at least
    exact absurd least (by decide)
  · intro none
    exact absurd (none 4294968 (of_decide_eq_true converted)) (by decide)

end Run
end Vscreen.Video
