import Mathlib.Logic.Function.Basic
import Vscreen.AdaptiveBitrate
import Vscreen.KeyframeRequests
import Vscreen.MediaArithmetic

/-! The loop of the adaptive bitrate: viewers (client.ts), whose hints reach the encode
thread over data channels and the queues of a supervisor (data_channel.rs, supervisor.rs).
A hint is sent once; none of the queues asks for one that it had no room for again. -/
namespace Vscreen.Video
open Viewer (Abr Rounding)

structure Viewing where
  abr : Abr
  opened : Bool
  channel : List UInt32
  deriving DecidableEq

structure Loop where
  viewers : Nat → Viewing
  server : Supervisor

namespace Loop

inductive Event where
  | opens (viewer : Nat)
  | closes (viewer : Nat)
  | second (viewer : Nat) (lossPercent : ℚ)
  | deliver (viewer : Nat)
  | server (event : Supervisor.Event)

inductive Output where
  | heard (viewer : Nat) (kbps : UInt32)
  | encoder (output : Supervisor.Output)
  deriving DecidableEq

end Loop

def hint (kbps : Int) : UInt32 := .ofNat kbps.toNat

namespace Viewing

def second (r : Rounding) (v : Viewing) (lossPercent : ℚ) : Viewing :=
  let adapted := v.abr.adaptBitrate r lossPercent
  {v with abr := adapted.1, channel := if v.opened then v.channel ++ (adapted.2.map hint).toList else v.channel}

end Viewing

def fromViewer : Supervisor.Event → Bool
  | .input (.bitrateHint _) => true
  | _ => false

namespace Loop

def put (s : Loop) (viewer : Nat) (v : Viewing) : Loop := {s with viewers := Function.update s.viewers viewer v}

def serve (colours : Colours) (config : VideoConfig) (s : Loop) (event : Supervisor.Event) : Option (Loop × List Output) :=
  match (supervisor colours config).step s.server event with
  | none => none
  | some (server,out) => some ({s with server := server},out.map .encoder)

def step (r : Rounding) (colours : Colours) (config : VideoConfig) (s : Loop) : Event → Option (Loop × List Output)
  | .opens i => some (s.put i {s.viewers i with opened := true},[])
  | .closes i => some (s.put i {s.viewers i with opened := false, channel := []},[])
  | .second i lossPercent => some (s.put i ((s.viewers i).second r lossPercent),[])
  | .deliver i => match (s.viewers i).channel with
    | [] => none
    | kbps::rest => match (s.put i {s.viewers i with channel := rest}).serve colours config (.input (.bitrateHint kbps)) with
      | none => none
      | some (s',out) => some (s',.heard i kbps::out)
  | .server event => if fromViewer event then none else s.serve colours config event

end Loop

def bitrateLoop (r : Rounding) (colours : Colours) (config : VideoConfig) : Machine Loop Loop.Event Loop.Output where
  init := ⟨fun _ => ⟨.init,false,[]⟩,(supervisor colours config).init⟩
  step := Loop.step r colours config

def Fair (kbps : UInt32) : Prop := 1000 ≤ kbps.toNat ∧ kbps.toNat ≤ 6000

structure Covers (config : VideoConfig) : Prop where
  least : config.minBitrateKbps.toNat ≤ 1000
  most : 6000 ≤ config.maxBitrateKbps.toNat

theorem fairAllowed {config : VideoConfig} {kbps : UInt32} (covers : Covers config) (fair : Fair kbps) : Allowed config kbps where
  least := covers.least.trans fair.1
  most := fair.2.trans covers.most
  fits := fun _ => by have most := fair.2; omega

theorem hintExact {kbps : Int} (least : Viewer.abrMinKbps ≤ kbps) (most : kbps ≤ Viewer.abrMaxKbps) :
    ((hint kbps).toNat : Int) = kbps := by
  simp only [Viewer.abrMinKbps,Viewer.abrMaxKbps] at least most
  have small : kbps.toNat < 2^32 := by omega
  rw [hint,UInt32.toNat_ofNat',Nat.mod_eq_of_lt small]
  omega

theorem hintFair {kbps : Int} (least : Viewer.abrMinKbps ≤ kbps) (most : kbps ≤ Viewer.abrMaxKbps) : Fair (hint kbps) := by
  have same := hintExact least most
  simp only [Viewer.abrMinKbps,Viewer.abrMaxKbps] at least most
  exact ⟨by omega,by omega⟩

def fairInput : InputEvent → Prop
  | .bitrateHint kbps => Fair kbps
  | .other => True

structure Viewing.Well (v : Viewing) : Prop where
  within : v.abr.Within
  last : v.abr.lastSentBitrate = 0 ∨ v.abr.lastSentBitrate = v.abr.currentBitrateKbps
  fair : ∀ kbps ∈ v.channel, Fair kbps

structure Fed (s : Supervisor) : Prop where
  inputs : ∀ event ∈ s.inputs, fairInput event
  hints : ∀ kbps ∈ s.hints, Fair kbps

theorem adaptedLast (r : Rounding) (abr : Abr) (loss : ℚ) :
    (abr.adaptBitrate r loss).1.Within ∧
      (abr.adaptBitrate r loss).1.lastSentBitrate = (abr.adaptBitrate r loss).1.currentBitrateKbps ∧
      (((abr.adaptBitrate r loss).2 = none ∧ (abr.adaptBitrate r loss).1.lastSentBitrate = abr.lastSentBitrate) ∨
        (abr.adaptBitrate r loss).2 = some (abr.adaptBitrate r loss).1.lastSentBitrate) := by
  obtain ⟨least,most⟩ := Viewer.clampedWithin (abr.asked r loss).1
  simp only [Abr.adaptBitrate]
  split
  · exact ⟨⟨least,most⟩,rfl,.inr rfl⟩
  · rename_i same
    exact ⟨⟨least,most⟩,(not_not.mp same).symm,.inl ⟨rfl,rfl⟩⟩

theorem secondWell (r : Rounding) {v : Viewing} (loss : ℚ) (well : v.Well) : (v.second r loss).Well := by
  obtain ⟨within,last,sent⟩ := adaptedLast r v.abr loss
  refine ⟨within,.inr last,?_⟩
  intro kbps member
  simp only [Viewing.second] at member
  split at member
  · rcases List.mem_append.mp member with old | new
    · exact well.fair kbps old
    · rcases sent with ⟨silent,-⟩ | said
      · rw [silent] at new
        cases new
      · rw [said,last] at new
        cases List.mem_singleton.mp new
        exact hintFair within.least within.most
  · exact well.fair kbps member

theorem trySendMember {α : Type} {capacity : Nat} {queue : List α} {x y : α} (member : y ∈ Supervisor.trySend capacity queue x) :
    y ∈ queue ∨ y = x := by
  simp only [Supervisor.trySend] at member
  split at member
  · exact (List.mem_append.mp member).imp_right List.mem_singleton.mp
  · exact .inl member

section Server
variable {colours : Colours} {config : VideoConfig} {s s' : Supervisor} {out : List Supervisor.Output}

theorem fedStep {event : Supervisor.Event} (fed : Fed s) (fair : ∀ input, event = .input input → fairInput input)
    (taken : (supervisor colours config).step s event = some (s',out)) : Fed s' := by
  cases Supervisor.stepped taken with
  | started _ done =>
    simp only [Supervisor.start] at done
    split at done
    · cases done; exact ⟨fed.inputs,fed.hints⟩
    · cases done; exact ⟨fed.inputs,fed.hints⟩
  | input event =>
    refine ⟨fun event' member => ?_,fed.hints⟩
    rcases trySendMember member with old | rfl
    · exact fed.inputs event' old
    · exact fair _ rfl
  | @relayed event rest waiting =>
    have first : fairInput event := fed.inputs event (by rw [waiting]; exact List.mem_cons_self)
    have others : ∀ event ∈ rest, fairInput event :=
      fun event member => fed.inputs event (by rw [waiting]; exact List.mem_cons_of_mem _ member)
    cases event with
    | other => exact ⟨others,fed.hints⟩
    | bitrateHint kbps =>
      refine ⟨others,fun kbps' member => ?_⟩
      rcases trySendMember member with old | rfl
      · exact fed.hints kbps' old
      · exact first
  | requested => exact ⟨fed.inputs,fed.hints⟩
  | framed _ => exact ⟨fed.inputs,fun kbps absent => by cases absent⟩
  | sent _ _ => exact ⟨fed.inputs,fed.hints⟩
  | received _ _ _ => exact ⟨fed.inputs,fed.hints⟩
  | encoded _ _ done => cases done; exact ⟨fed.inputs,fed.hints⟩

theorem fedHints {event : Supervisor.Event} (covers : Covers config) (fed : Fed s) : HintsAllowed config s event := by
  cases event with
  | frame data => exact fun kbps last => fairAllowed covers (fed.hints kbps (List.mem_of_getLast? last))
  | _ => trivial

end Server

section Steps
variable {r : Rounding} {colours : Colours} {config : VideoConfig} {s s' : Loop}

inductive Went (r : Rounding) (colours : Colours) (config : VideoConfig) (s : Loop) : Loop.Event → Loop → List Loop.Output → Prop where
  | opens (i : Nat) : Went r colours config s (.opens i) (s.put i {s.viewers i with opened := true}) []
  | closes (i : Nat) : Went r colours config s (.closes i) (s.put i {s.viewers i with opened := false, channel := []}) []
  | second (i : Nat) (loss : ℚ) : Went r colours config s (.second i loss) (s.put i ((s.viewers i).second r loss)) []
  | deliver {i : Nat} {kbps : UInt32} {rest : List UInt32} {server : Supervisor} {out : List Supervisor.Output}
      (there : (s.viewers i).channel = kbps::rest)
      (served : (supervisor colours config).step s.server (.input (.bitrateHint kbps)) = some (server,out)) :
      Went r colours config s (.deliver i) {s.put i {s.viewers i with channel := rest} with server := server}
        (.heard i kbps::out.map .encoder)
  | server {event : Supervisor.Event} {server : Supervisor} {out : List Supervisor.Output} (own : fromViewer event = false)
      (served : (supervisor colours config).step s.server event = some (server,out)) :
      Went r colours config s (.server event) {s with server := server} (out.map .encoder)

theorem loopWent {event : Loop.Event} {out : List Loop.Output} (taken : (bitrateLoop r colours config).step s event = some (s',out)) :
    Went r colours config s event s' out := by
  simp only [bitrateLoop,Loop.step] at taken
  cases event with
  | opens i => cases taken; exact .opens i
  | closes i => cases taken; exact .closes i
  | second i loss => cases taken; exact .second i loss
  | deliver i =>
    dsimp only at taken
    split at taken
    · cases taken
    · rename_i kbps rest there
      simp only [Loop.serve] at taken
      split at taken
      · cases taken
      · rename_i s₁ out₁ served
        split at served
        · cases served
        · rename_i server out₂ arrived
          cases served
          cases taken
          exact .deliver there arrived
  | server event =>
    dsimp only at taken
    split at taken
    · cases taken
    · rename_i own
      simp only [Loop.serve] at taken
      split at taken
      · cases taken
      · rename_i server out served
        cases taken
        exact .server (Bool.eq_false_iff.mpr own) served

theorem putWell {i : Nat} {v : Viewing} (well : ∀ j, (s.viewers j).Well) (now : v.Well) (j : Nat) : ((s.put i v).viewers j).Well := by
  simp only [Loop.put,Function.update]
  split
  · rename_i same
    cases same
    exact now
  · exact well j

def encoderOf : Loop.Output → Option Supervisor.Output
  | .encoder output => some output
  | .heard _ _ => none

theorem encoderOfMap (out : List Supervisor.Output) : (out.map Loop.Output.encoder).filterMap encoderOf = out := by
  rw [List.filterMap_map]
  exact List.filterMap_some

structure Ruled (config : VideoConfig) (s : Loop) (trace : List Loop.Output) : Prop where
  viewers : ∀ i, (s.viewers i).Well
  fed : Fed s.server
  tame : Tame config s.server
  exact : NoOverflow (trace.filterMap encoderOf)

theorem servedRuled {event : Supervisor.Event} {server : Supervisor} {trace : List Loop.Output} {out : List Supervisor.Output}
    (covers : Covers config) (start : Allowed config config.bitrateKbps) (ruled : Ruled config s trace)
    (fair : ∀ input, event = .input input → fairInput input)
    (served : (supervisor colours config).step s.server event = some (server,out)) :
    Fed server ∧ Tame config server ∧ NoOverflow (trace.filterMap encoderOf ++ out) := by
  obtain ⟨tame,fits⟩ := tameStep start ruled.tame (fedHints covers ruled.fed) served
  exact ⟨fedStep ruled.fed fair served,tame,noOverflowAppend ruled.exact fits⟩

theorem ruledStep {event : Loop.Event} {trace out : List Loop.Output} (covers : Covers config)
    (start : Allowed config config.bitrateKbps) (ruled : Ruled config s trace) (went : Went r colours config s event s' out) :
    Ruled config s' (trace ++ out) := by
  have well := ruled.viewers
  cases went with
  | opens i =>
    rw [List.append_nil]
    exact ⟨putWell well ⟨(well i).within,(well i).last,(well i).fair⟩,ruled.fed,ruled.tame,ruled.exact⟩
  | closes i =>
    rw [List.append_nil]
    exact ⟨putWell well ⟨(well i).within,(well i).last,fun kbps absent => (by cases absent)⟩,ruled.fed,ruled.tame,ruled.exact⟩
  | second i loss =>
    rw [List.append_nil]
    exact ⟨putWell well (secondWell r loss (well i)),ruled.fed,ruled.tame,ruled.exact⟩
  | @deliver i kbps rest server out there served =>
    have inChannel : ∀ kbps' ∈ kbps::rest, Fair kbps' := fun kbps' member => (well i).fair kbps' (by rw [there]; exact member)
    have fair : ∀ input, Supervisor.Event.input (.bitrateHint kbps) = .input input → fairInput input := by
      intro input same
      cases same
      exact inChannel kbps List.mem_cons_self
    obtain ⟨fed,tame,fits⟩ := servedRuled covers start ruled fair served
    refine ⟨putWell well ⟨(well i).within,(well i).last,?_⟩,fed,tame,?_⟩
    · exact fun kbps' member => inChannel kbps' (List.mem_cons_of_mem _ member)
    · rw [List.filterMap_append,List.filterMap_cons_none rfl,encoderOfMap]
      exact fits
  | @server event server out own served =>
    have fair : ∀ input, event = .input input → fairInput input := by
      intro input same
      cases same
      cases input with
      | other => trivial
      | bitrateHint kbps => cases own
    obtain ⟨fed,tame,fits⟩ := servedRuled covers start ruled fair served
    refine ⟨well,fed,tame,?_⟩
    rw [List.filterMap_append,encoderOfMap]
    exact fits

end Steps

section Runs
variable {r : Rounding} {colours : Colours} {config : VideoConfig} {s : Loop} {trace : List Loop.Output}

theorem bitrateStarted : (⟨.init,false,[]⟩ : Viewing).Well := by
  refine ⟨⟨by decide,by decide⟩,.inl rfl,?_⟩
  intro kbps absent
  cases absent

theorem loopInRange (covers : Covers config) (start : Allowed config config.bitrateKbps)
    (run : Machine.Reaches (bitrateLoop r colours config) s trace) :
    (∀ p, s.server.pipeline = some p → InRange config p) ∧ NoOverflow (trace.filterMap encoderOf) := by
  have ruled : Ruled config s trace := by
    refine Machine.runInvariant (Ruled config) ?_ (fun ruled _ taken => ruledStep covers start ruled (loopWent taken)) run
    refine ⟨fun _ => bitrateStarted,⟨?_,?_⟩,⟨?_,?_,?_,?_⟩,?_⟩
    · intro event absent; cases absent
    · intro kbps absent; cases absent
    · intro p absent; cases absent
    · intro cmd absent; cases absent
    · intro cmd absent; cases absent
    · intro cmd absent; cases absent
    · intro kbps absent; cases absent
  refine ⟨fun p runs => ?_,ruled.exact⟩
  have steady := ruled.tame.pipeline p runs
  exact ((allowedRunning steady.sound steady.codec).mp steady.allowed).1

end Runs

def hintOf : InputEvent → Option UInt32
  | .bitrateHint kbps => some kbps
  | .other => none

def Supervisor.underway (s : Supervisor) : List UInt32 :=
  s.queue.filterMap (·.bitrateHint) ++ s.hints ++ s.inputs.filterMap hintOf

structure Ready (lib : Libraries) : Prop where
  vpx : lib.vpxInit = .ready
  h264 : lib.h264Init = .ok ()

/-- There is room in the queues and the codec takes the hint; a viewer's data channel is open
from its first second on, and nothing is in it when it closes. -/
def Faithful (s : Loop) : Loop.Event → Prop
  | .opens _ => True
  | .closes i => (s.viewers i).channel = []
  | .second i _ => (s.viewers i).opened = true
  | .deliver _ => s.server.inputs.length < 100
  | .server .relay => s.server.hints.length < 8
  | .server (.encode hintLib _) => Ready hintLib
  | .server _ => True

structure Following (config : VideoConfig) (s : Supervisor) (said : Option UInt32) : Prop where
  runs : ∀ p, s.pipeline = some p → p.Sound ∧ s.underway.getLast?.getD p.config.bitrateKbps = said.getD config.bitrateKbps
  waits : s.started = false → s.pipeline = none ∧ s.underway.getLast? = said

section Underway
variable {colours : Colours} {config : VideoConfig} {s s' : Supervisor} {p : VideoPipeline} {said : Option UInt32}
  {out : List Supervisor.Output}

theorem followingSame (following : Following config s said) (pipeline : s'.pipeline = s.pipeline) (started : s'.started = s.started)
    (same : s'.underway.getLast? = s.underway.getLast?) : Following config s' said where
  runs p runs := by rw [same]; exact following.runs p (pipeline ▸ runs)
  waits idle := by rw [pipeline,same]; exact following.waits (started ▸ idle)

theorem hintApplied {kbps : UInt32} {lib : Libraries} (ready : Ready lib) (sound : p.Sound) :
    (p.reconfigureBitrate kbps lib).config.bitrateKbps = kbps := by
  have even : Even p.config := by
    rw [← sound.config]
    cases kind : p.encoder with
    | vp9 e => have own := sound.encoder; rw [kind] at own; exact own.even
    | h264 e => have own := sound.encoder; rw [kind] at own; exact own.even
  have checked : checkResolution {p.config with bitrateKbps := kbps} = .ok () := checkEven ⟨even.positive,even.even⟩
  simp only [VideoPipeline.reconfigureBitrate,VideoPipeline.reconfigure]
  cases p.encoder with
  | vp9 e => simp only [VideoEncoder.reconfigure,Vp9Encoder.reconfigure,checked,VpxCtx.new,ready.vpx]
  | h264 e => simp only [VideoEncoder.reconfigure,H264Encoder.reconfigure,checked,H264Encoder.buildEncoder,ready.h264]

theorem applyHintBitrate {lib : Libraries} (ready : Ready lib) (sound : p.Sound) (hint : Option UInt32) :
    (Supervisor.applyHint p lib hint).1.config.bitrateKbps = hint.getD p.config.bitrateKbps := by
  cases hint with
  | none => rfl
  | some kbps => exact hintApplied ready sound

theorem encodeDataBitrate {data : List Byte} {lib : Libraries} {p' : VideoPipeline} (sound : p.Sound)
    (kept : (Supervisor.encodeData colours p data lib).1 = some p') : p'.Sound ∧ p'.config.bitrateKbps = p.config.bitrateKbps := by
  simp only [Supervisor.encodeData] at kept
  split at kept
  · cases kept
  · rename_i p₁ e processed
    cases kept
    obtain ⟨sound',-,bitrate⟩ := processSound sound processed
    exact ⟨⟨sound'.encoder,sound'.config,sound'.codec⟩,bitrate⟩
  · rename_i p₁ encoded processed
    cases kept
    obtain ⟨sound',-,bitrate⟩ := processSound sound processed
    exact ⟨sound',bitrate⟩

theorem encodeFollows {cmd : EncodeCommand} {hintLib lib : Libraries} (ready : Ready hintLib)
    (following : Following config s said) (runs : s.pipeline = some p) (taken : s.taken = some cmd) (begun : s.started = true)
    (done : s.encode colours p cmd hintLib lib = (s',out)) : Following config s' said := by
  cases done
  refine ⟨?_,fun idle => absurd (begun.symm.trans idle) (by decide)⟩
  intro p' kept
  obtain ⟨sound,said'⟩ := following.runs p runs
  obtain ⟨sound₁,-,-,-⟩ := applyHintSound hintLib cmd.bitrateHint sound
  obtain ⟨sound₂,-,-⟩ := applyRequestSound cmd.forceKeyframe sound₁
  obtain ⟨sound',bitrate⟩ := encodeDataBitrate sound₂ kept
  refine ⟨sound',?_⟩
  have asked : (Supervisor.applyRequest (Supervisor.applyHint p hintLib cmd.bitrateHint).1 cmd.forceKeyframe).config.bitrateKbps =
      cmd.bitrateHint.getD p.config.bitrateKbps := by
    rw [← applyHintBitrate ready sound]
    cases cmd.forceKeyframe with
    | false => rfl
    | true => rfl
  rw [bitrate,asked,← said']
  have split : s.underway = cmd.bitrateHint.toList ++ ({s with taken := none} : Supervisor).underway := by
    simp only [Supervisor.underway,Supervisor.queue,taken,Option.toList_some,Option.toList_none,List.nil_append,
      List.cons_append,List.filterMap_cons]
    cases cmd.bitrateHint with
    | none => rfl
    | some kbps => rfl
  rw [split]
  cases cmd.bitrateHint with
  | none => rfl
  | some kbps =>
    change _ = (kbps::({s with taken := none} : Supervisor).underway).getLast?.getD p.config.bitrateKbps
    rw [List.getLast?_cons]
    rfl

theorem startFollows {lib : Libraries} (following : Following config s said) (idle : s.started = false)
    (done : s.start config lib = (s',out)) : Following config s' said := by
  obtain ⟨absent,waiting⟩ := following.waits idle
  simp only [Supervisor.start] at done
  split at done
  · cases done
    exact ⟨fun p runs => (by cases absent.symm.trans runs),fun idle => (by cases idle)⟩
  · rename_i p made
    cases done
    refine ⟨fun p' same => ?_,fun idle => (by cases idle)⟩
    cases same
    obtain ⟨sound,own⟩ := withCodecSpec made
    refine ⟨sound,?_⟩
    rw [own]
    exact congrArg (Option.getD · config.bitrateKbps) waiting

theorem relayUnderway {event : InputEvent} {rest : List InputEvent} (room : s.hints.length < 8) (waiting : s.inputs = event::rest) :
    (s.relay event rest).underway = s.underway := by
  cases event with
  | other => simp only [Supervisor.relay,Supervisor.underway,Supervisor.queue,waiting,List.filterMap_cons,hintOf]
  | bitrateHint kbps =>
    simp only [Supervisor.relay,Supervisor.underway,Supervisor.queue,waiting,List.filterMap_cons,hintOf,Supervisor.trySend,
      if_pos room,List.append_assoc,List.singleton_append]

theorem frameUnderway {data : List Byte} (free : s.sending = none) :
    (s.takeFrame data).underway.getLast? = s.underway.getLast? := by
  have along : (s.takeFrame data).underway = s.queue.filterMap (·.bitrateHint) ++ s.hints.getLast?.toList ++ s.inputs.filterMap hintOf := by
    simp only [Supervisor.takeFrame,Supervisor.underway,Supervisor.queue,free,Option.toList_some,Option.toList_none,
      List.append_nil,List.filterMap_append,List.append_assoc,List.filterMap_cons,List.filterMap_nil]
    cases s.hints.getLast? with
    | none => rfl
    | some kbps => rfl
  rw [along,Supervisor.underway,List.getLast?_append,List.getLast?_append,List.getLast?_append,List.getLast?_append]
  cases s.hints.getLast? with
  | none => rfl
  | some kbps => rfl

theorem serverFollows {event : Supervisor.Event} {loop : Loop} (server : loop.server = s) (own : fromViewer event = false)
    (faithful : Faithful loop (.server event)) (following : Following config s said)
    (taken : (supervisor colours config).step s event = some (s',out)) : Following config s' said := by
  subst server
  cases Supervisor.stepped taken with
  | started idle done => exact startFollows following idle done
  | input event =>
    cases event with
    | bitrateHint kbps => cases own
    | other =>
      refine followingSame following rfl rfl ?_
      have silent : (Supervisor.trySend 100 loop.server.inputs .other).filterMap hintOf = loop.server.inputs.filterMap hintOf := by
        simp only [Supervisor.trySend]
        split
        · rw [List.filterMap_append]
          exact List.append_nil _
        · rfl
      simp only [Supervisor.underway,Supervisor.queue,silent]
  | @relayed event rest waiting =>
    refine followingSame following ?_ ?_ (by rw [relayUnderway faithful waiting])
    · cases event with
      | other => rfl
      | bitrateHint kbps => rfl
    · cases event with
      | other => rfl
      | bitrateHint kbps => rfl
  | requested => exact followingSame following rfl rfl rfl
  | framed free => exact followingSame following rfl rfl (frameUnderway free)
  | sent held _ =>
    refine followingSame following rfl rfl ?_
    simp only [Supervisor.underway,Supervisor.queue,held,Option.toList_none,Option.toList_some,List.append_nil,
      List.append_assoc]
  | received _ idle queued =>
    refine followingSame following rfl rfl ?_
    simp only [Supervisor.underway,Supervisor.queue,idle,queued,Option.toList_none,Option.toList_some,List.nil_append,
      List.cons_append]
  | encoded runs received done =>
    have begun : loop.server.started = true := by
      cases started : loop.server.started with
      | true => rfl
      | false => exact absurd ((following.waits started).1.symm.trans runs) (by simp)
    exact encodeFollows faithful following runs received begun done

theorem heardFollows {kbps : UInt32} (room : s.inputs.length < 100) (following : Following config s said)
    (taken : (supervisor colours config).step s (.input (.bitrateHint kbps)) = some (s',out)) :
    Following config s' (some kbps) ∧ out = [] := by
  cases taken
  have longer : ({s with inputs := Supervisor.trySend 100 s.inputs (.bitrateHint kbps)} : Supervisor).underway =
      s.underway ++ [kbps] := by
    simp only [Supervisor.underway,Supervisor.queue,Supervisor.trySend,if_pos room,List.filterMap_append,List.append_assoc]
    rfl
  refine ⟨⟨fun p runs => ⟨(following.runs p runs).1,?_⟩,fun idle => ⟨(following.waits idle).1,?_⟩⟩,rfl⟩
  · rw [longer,List.getLast?_concat]
    rfl
  · rw [longer,List.getLast?_concat]

end Underway

section Following
variable {r : Rounding} {colours : Colours} {config : VideoConfig} {s s' : Loop} {trace : List Loop.Output}

def heardOf : Loop.Output → Option (Nat × UInt32)
  | .heard viewer kbps => some (viewer,kbps)
  | .encoder _ => none

def heard (trace : List Loop.Output) : List (Nat × UInt32) := trace.filterMap heardOf

def fromOf (viewer : Nat) (h : Nat × UInt32) : Option UInt32 := if h.1 = viewer then some h.2 else none

def heardFrom (viewer : Nat) (trace : List Loop.Output) : List UInt32 := (heard trace).filterMap (fromOf viewer)

structure Viewing.Followed (v : Viewing) (said : List UInt32) : Prop where
  well : v.Well
  last : (said ++ v.channel).getLast? = if v.abr.lastSentBitrate = 0 then none else some (hint v.abr.lastSentBitrate)

structure Tracked (config : VideoConfig) (s : Loop) (trace : List Loop.Output) : Prop where
  server : Following config s.server ((heard trace).getLast?.map (·.2))
  viewers : ∀ i, (s.viewers i).Followed (heardFrom i trace)

theorem secondFollowed {v : Viewing} {said : List UInt32} (loss : ℚ) (opened : v.opened = true) (followed : v.Followed said) :
    (v.second r loss).Followed said := by
  have well := secondWell r loss followed.well
  refine ⟨well,?_⟩
  obtain ⟨within,last,sent⟩ := adaptedLast r v.abr loss
  have channel : (v.second r loss).channel = v.channel ++ ((v.abr.adaptBitrate r loss).2.map hint).toList := by
    simp only [Viewing.second,opened,if_true]
  have abr : (v.second r loss).abr = (v.abr.adaptBitrate r loss).1 := rfl
  rw [channel,abr]
  rcases sent with ⟨silent,same⟩ | spoken
  · rw [silent,same]
    change (said ++ (v.channel ++ [])).getLast? = _
    rw [List.append_nil]
    exact followed.last
  · have positive : (v.abr.adaptBitrate r loss).1.lastSentBitrate ≠ 0 := by
      have least := within.least
      simp only [Viewer.abrMinKbps] at least
      omega
    rw [spoken,if_neg positive,← List.append_assoc]
    exact List.getLast?_concat

theorem putFollowed {i : Nat} {v : Viewing} (followed : ∀ j, (s.viewers j).Followed (heardFrom j trace))
    (now : v.Followed (heardFrom i trace)) (j : Nat) : ((s.put i v).viewers j).Followed (heardFrom j trace) := by
  simp only [Loop.put,Function.update]
  split
  · rename_i same
    cases same
    exact now
  · exact followed j

theorem encoderHeard (out : List Supervisor.Output) : heard (out.map .encoder) = [] := by
  rw [heard,List.filterMap_map,List.filterMap_eq_nil_iff]
  intro output member
  rfl

theorem heardAppend (trace out : List Loop.Output) : heard (trace ++ out) = heard trace ++ heard out := List.filterMap_append

theorem trackedStep {event : Loop.Event} {out : List Loop.Output} (faithful : Faithful s event) (tracked : Tracked config s trace)
    (went : Went r colours config s event s' out) : Tracked config s' (trace ++ out) := by
  have followed := tracked.viewers
  cases went with
  | opens i =>
    rw [List.append_nil]
    exact ⟨tracked.server,putFollowed followed ⟨⟨(followed i).well.within,(followed i).well.last,(followed i).well.fair⟩,(followed i).last⟩⟩
  | closes i =>
    rw [List.append_nil]
    have empty : (s.viewers i).channel = [] := faithful
    refine ⟨tracked.server,putFollowed followed ⟨⟨(followed i).well.within,(followed i).well.last,?_⟩,?_⟩⟩
    · intro kbps absent; cases absent
    · have last := (followed i).last
      rw [empty] at last
      exact last
  | second i loss =>
    rw [List.append_nil]
    exact ⟨tracked.server,putFollowed followed (secondFollowed loss faithful (followed i))⟩
  | @deliver i kbps rest server out there served =>
    obtain ⟨follows,silent⟩ := heardFollows faithful tracked.server served
    cases silent
    have longer : heard (trace ++ [.heard i kbps]) = heard trace ++ [(i,kbps)] := heardAppend _ _
    refine ⟨?_,fun j => ?_⟩
    · change Following config server ((heard (trace ++ [.heard i kbps])).getLast?.map (·.2))
      rw [longer,List.getLast?_concat]
      exact follows
    · simp only [Loop.put,Function.update]
      split
      · rename_i same
        cases same
        have moved : heardFrom i (trace ++ [.heard i kbps]) = heardFrom i trace ++ [kbps] := by
          rw [heardFrom,longer,List.filterMap_append,List.filterMap_cons,fromOf,if_pos rfl]
          rfl
        refine ⟨⟨(followed i).well.within,(followed i).well.last,?_⟩,?_⟩
        · exact fun kbps' member => (followed i).well.fair kbps' (by rw [there]; exact List.mem_cons_of_mem _ member)
        · have last := (followed i).last
          rw [there] at last
          change (heardFrom i (trace ++ [.heard i kbps]) ++ rest).getLast? = _
          rw [moved,List.append_assoc]
          exact last
      · rename_i other
        have kept : heardFrom j (trace ++ [.heard i kbps]) = heardFrom j trace := by
          rw [heardFrom,longer,List.filterMap_append,List.filterMap_cons,fromOf,if_neg (Ne.symm other)]
          exact List.append_nil _
        change (s.viewers j).Followed (heardFrom j (trace ++ [.heard i kbps]))
        rw [kept]
        exact followed j
  | @server event server out own served =>
    have kept : heard (trace ++ out.map .encoder) = heard trace := by
      rw [heardAppend,encoderHeard,List.append_nil]
    refine ⟨?_,fun j => ?_⟩
    · rw [kept]
      exact serverFollows rfl own faithful tracked.server served
    · rw [heardFrom,kept]
      exact followed j

theorem trackedRun (run : Machine.Run (bitrateLoop r colours config) Faithful s trace) : Tracked config s trace := by
  refine Machine.runInvariant (Tracked config) ?_ (fun tracked faithful taken => trackedStep faithful tracked (loopWent taken)) run
  refine ⟨⟨fun p absent => (by cases absent),fun _ => ⟨rfl,rfl⟩⟩,fun i => ⟨bitrateStarted,rfl⟩⟩

theorem lastHeard (tracked : Tracked config s trace) {i : Nat} {kbps : UInt32} (last : (heard trace).getLast? = some (i,kbps))
    (drained : (s.viewers i).channel = []) : (kbps.toNat : Int) = (s.viewers i).abr.currentBitrateKbps := by
  obtain ⟨earlier,whole⟩ := List.getLast?_eq_some_iff.mp last
  have own : (heardFrom i trace).getLast? = some kbps := by
    rw [heardFrom,whole,List.filterMap_append,List.filterMap_cons,fromOf,if_pos rfl]
    exact List.getLast?_concat
  have sent := (tracked.viewers i).last
  have well := (tracked.viewers i).well
  rw [drained,List.append_nil,own] at sent
  split at sent
  · cases sent
  · rename_i positive
    cases sent
    rw [well.last.resolve_left positive]
    exact hintExact well.within.least well.within.most

theorem encoderFollows {p : VideoPipeline} {i : Nat} {kbps : UInt32}
    (run : Machine.Run (bitrateLoop r colours config) Faithful s trace) (runs : s.server.pipeline = some p)
    (last : (heard trace).getLast? = some (i,kbps)) :
    s.server.underway.getLast?.getD p.config.bitrateKbps = kbps ∧
      ((s.viewers i).channel = [] → (kbps.toNat : Int) = (s.viewers i).abr.currentBitrateKbps ∧
        (s.server.underway = [] → (p.encoder.running.bitsPerSecond : Int) = 1000 * (s.viewers i).abr.currentBitrateKbps)) := by
  have tracked := trackedRun run
  obtain ⟨sound,follows⟩ := tracked.server.runs p runs
  rw [last] at follows
  refine ⟨follows,fun drained => ?_⟩
  have same := lastHeard tracked last drained
  refine ⟨same,fun settled => ?_⟩
  rw [settled] at follows
  have bitrate : p.config.bitrateKbps = kbps := follows
  have small : kbps.toNat * 1000 < 2^32 := by
    have most := (tracked.viewers i).well.within.most
    simp only [Viewer.abrMaxKbps] at most
    omega
  have bits := encoderBits sound.encoder
  rw [sound.config,bitrate] at bits
  have exactly : p.encoder.running.bitsPerSecond = 1000 * kbps.toNat := by
    cases kind : p.encoder.codec with
    | vp9 => rw [kind] at bits; exact bits
    | h264 => rw [kind] at bits; exact bits.trans (bitsExact.mpr small)
  rw [exactly,← same]
  omega

end Following

section Witness

theorem defaultCovers : Covers defaultVideo := ⟨by decide,by decide⟩

theorem firstHint : ∃ s trace p, Machine.Run (bitrateLoop Viewer.exactly grey defaultVideo) Faithful s trace ∧
    s.server.pipeline = some p ∧ (heard trace).getLast? = some (0,4000) ∧ (s.viewers 0).channel = [] ∧ s.server.underway = [] := by
  have opened := Machine.runStep (.start : (bitrateLoop Viewer.exactly grey defaultVideo).Run Faithful _ _) (.opens 0) trivial rfl
  have started := Machine.runStep opened (.server (.start willing)) trivial rfl
  have good := Machine.runStep started (.second 0 0) rfl rfl
  have arrived := Machine.runStep good (.deliver 0) (by decide : 0 < 100) rfl
  have relayed := Machine.runStep arrived (.server .relay) (by decide : 0 < 8) rfl
  have framed := Machine.runStep relayed (.server (.frame [0xFF])) trivial rfl
  have sent := Machine.runStep framed (.server .send) trivial rfl
  have received := Machine.runStep sent (.server .recv) trivial rfl
  have encoded := Machine.runStep received (.server (.encode willing willing)) ⟨rfl,rfl⟩ rfl
  exact ⟨_,_,_,encoded,rfl,rfl,rfl,rfl⟩

theorem loopStays : ∃ (s : Loop) (trace : List Loop.Output), s.server.pipeline.isSome = true ∧
    Machine.Reaches (bitrateLoop Viewer.exactly grey defaultVideo) s trace ∧
    (∀ p, s.server.pipeline = some p → InRange defaultVideo p) ∧ NoOverflow (trace.filterMap encoderOf) := by
  obtain ⟨s,trace,p,run,runs,-⟩ := firstHint
  have reached := Machine.runReaches run
  exact ⟨s,trace,by rw [runs]; rfl,reached,loopInRange defaultCovers defaultAllowed reached⟩

theorem encoderCatchesUp : ∃ (s : Loop) (p : VideoPipeline), s.server.pipeline = some p ∧
    (p.encoder.running.bitsPerSecond : Int) = 1000 * (s.viewers 0).abr.currentBitrateKbps := by
  obtain ⟨s,trace,p,run,runs,last,drained,settled⟩ := firstHint
  exact ⟨s,p,runs,((encoderFollows run runs last).2 drained).2 settled⟩

end Witness
end Vscreen.Video
