import Vscreen.VideoBitrate
import Vscreen.VideoKeyframes

/-! Keyframe requests on their way through a supervisor (supervisor.rs): the flag, the
command that the video task sends, the queue of the encode thread, the encoder. A peer
that was answered and a session that plays ask for one. -/
namespace Vscreen.Video

inductive Seen where
  | requested
  | output (output : Supervisor.Output)
  deriving DecidableEq

def seen (out : List Supervisor.Output) : Supervisor.Event → List Seen
  | .requestKeyframe => [.requested]
  | _ => out.map .output

def watched (colours : Colours) (config : VideoConfig) : Machine Supervisor Supervisor.Event Seen where
  init := (supervisor colours config).init
  step s event := match (supervisor colours config).step s event with
    | none => none
    | some (s',out) => some (s',seen out event)

def unservedNext : Option Nat → Seen → Option Nat
  | none,.requested => some 0
  | none,_ => none
  | some n,.output (.packet packet) => if packet.isKeyframe then none else some (n + 1)
  | some n,_ => some n

def unserved (trace : List Seen) : Option Nat := trace.foldl unservedNext none

namespace Supervisor

def queue (s : Supervisor) : List EncodeCommand := s.taken.toList ++ s.commands ++ s.sending.toList

/-- A request is in the encoder, or in the command that comes after `ahead` others, or in
the flag when that is the next one. -/
inductive Carried (s : Supervisor) (ahead : Nat) : Prop where
  | encoder (p : VideoPipeline) (runs : s.pipeline = some p) (pending : p.encoder.pending = true)
  | command (cmd : EncodeCommand) (there : s.queue[ahead]? = some cmd) (forced : cmd.forceKeyframe = true)
  | flag (next : ahead = s.queue.length) (set : s.keyframeFlag = true)

def Ended (s : Supervisor) : Prop := s.started = true ∧ s.pipeline = none

structure Well (s : Supervisor) : Prop where
  sound : ∀ p, s.pipeline = some p → p.Sound
  begun : ∀ p, s.pipeline = some p → s.started = true
  short : s.commands.length ≤ 2

end Supervisor

open Supervisor

def Obliging (s : Supervisor) : Supervisor.Event → Prop
  | .encode _ lib => ∀ p, s.pipeline = some p → p.codec = .vp9 → ∃ frames, (lib.vpxEncode true).frames = .ok frames
  | _ => True

structure Serving (s : Supervisor) (n : Nat) : Prop where
  within : n ≤ 4
  carried : s.Ended ∨ ∃ ahead, n + ahead ≤ 4 ∧ s.Carried ahead

def Kept (s : Supervisor) (owed : Option Nat) : Prop := ∀ n, owed = some n → Serving s n

theorem queueShort {s : Supervisor} (well : s.Well) : s.queue.length ≤ 4 := by
  have short := well.short
  have single : ∀ cmd : Option EncodeCommand, cmd.toList.length ≤ 1 := by
    intro cmd
    cases cmd <;> simp
  have taken := single s.taken
  have held := single s.sending
  rw [queue,List.length_append,List.length_append]
  omega

theorem unservedAppend (trace out : List Seen) : unserved (trace ++ out) = out.foldl unservedNext (unserved trace) :=
  List.foldl_append

def Quiet (out : List Supervisor.Output) : Prop := ∀ packet, .packet packet ∉ out

theorem quietNext {output : Supervisor.Output} (quiet : ∀ packet, output ≠ .packet packet) (owed : Option Nat) :
    unservedNext owed (.output output) = owed := by
  cases owed with
  | none => rfl
  | some n =>
    cases output with
    | packet packet => exact absurd rfl (quiet packet)
    | _ => rfl

theorem quietUnserved {out : List Supervisor.Output} (quiet : Quiet out) (owed : Option Nat) :
    (out.map Seen.output).foldl unservedNext owed = owed := by
  induction out generalizing owed with
  | nil => rfl
  | cons output rest ih =>
    have first : ∀ packet, output ≠ .packet packet := fun packet same => quiet packet (same ▸ List.mem_cons_self)
    rw [List.map_cons,List.foldl_cons,quietNext first]
    exact ih (fun packet member => quiet packet (List.mem_cons_of_mem _ member)) owed

theorem conversionsQuiet (config : VideoConfig) (codec : Rtsp.VideoCodec) : Quiet (conversions config codec) := by
  intro packet member
  cases codec with
  | vp9 => cases member
  | h264 => cases List.mem_singleton.mp member

theorem quietAppend {first second : List Supervisor.Output} (one : Quiet first) (two : Quiet second) : Quiet (first ++ second) := by
  intro packet member
  rcases List.mem_append.mp member with old | new
  · exact one packet old
  · exact two packet new

section Encode
variable {colours : Colours} {config : VideoConfig} {s s' : Supervisor} {p : VideoPipeline} {out : List Supervisor.Output}

theorem applyHintSound (lib : Libraries) (hint : Option UInt32) (sound : p.Sound) :
    (applyHint p lib hint).1.Sound ∧ (applyHint p lib hint).1.codec = p.codec ∧
      (p.encoder.pending = true → (applyHint p lib hint).1.encoder.pending = true) ∧ Quiet (applyHint p lib hint).2 := by
  cases hint with
  | none => exact ⟨sound,rfl,id,fun packet member => by cases member⟩
  | some kbps =>
    obtain ⟨sound',codec,-⟩ := hintTaken kbps lib sound
    refine ⟨sound',codec,fun pending => ?_,conversionsQuiet _ _⟩
    simp only [applyHint,VideoPipeline.reconfigureBitrate]
    split
    · exact pending
    · rename_i p' changed
      exact reconfigurePending changed

theorem applyRequestSound (force : Bool) (sound : p.Sound) :
    (applyRequest p force).Sound ∧ (applyRequest p force).codec = p.codec ∧
      (p.encoder.pending = true ∨ force = true → (applyRequest p force).encoder.pending = true) := by
  cases force with
  | false => exact ⟨sound,rfl,fun pending => pending.resolve_right (fun absurd => by cases absurd)⟩
  | true =>
    refine ⟨requestKeyframeSound sound,rfl,fun _ => ?_⟩
    obtain ⟨encoder,codec,config,processed,dropped⟩ := p
    cases encoder with
    | vp9 e => rfl
    | h264 e => rfl

inductive Made (p : VideoPipeline) : Option VideoPipeline → List Supervisor.Output → Prop where
  | panicked {out : List Supervisor.Output} (quiet : Quiet out) : Made p none out
  | dropped {p' : VideoPipeline} {out : List Supervisor.Output} (sound : p'.Sound)
      (kept : p.encoder.pending = true → p'.encoder.pending = true) (quiet : Quiet out) : Made p (some p') out
  | packet {p' : VideoPipeline} {packet : EncodedPacket} {out : List Supervisor.Output} (sound : p'.Sound)
      (served : p.encoder.pending = true → packet.isKeyframe = true) (quiet : Quiet out) :
      Made p (some p') (out ++ [.packet packet])

theorem encodeDataMade (colours : Colours) (data : List Byte) {lib : Libraries} (sound : p.Sound)
    (obliging : p.codec = .vp9 → ∃ frames, (lib.vpxEncode true).frames = .ok frames) :
    Made p (encodeData colours p data lib).1 (encodeData colours p data lib).2 := by
  have single : ∀ output : Supervisor.Output, (∀ packet, output ≠ .packet packet) → Quiet [output] := by
    intro output other packet member
    exact other packet (List.mem_singleton.mp member).symm
  generalize same : encodeData colours p data lib = out
  unfold encodeData at same
  extract_lets asked at same
  have quiet : Quiet asked := by
    simp only [asked]
    split
    · intro packet member; cases member
    · exact conversionsQuiet _ _
  split at same
  · cases same
    exact .panicked (quietAppend quiet (single _ fun packet same => by cases same))
  · rename_i p₁ e processed
    cases same
    obtain ⟨sound₁,-⟩ := processSound sound processed
    refine .dropped ⟨sound₁.encoder,sound₁.config,sound₁.codec⟩ (fun pending => ?_)
      (quietAppend quiet (single _ fun packet same => by cases same))
    exact (processServed sound pending obliging processed).failed e rfl
  · rename_i p₁ encoded processed
    cases same
    obtain ⟨sound₁,-⟩ := processSound sound processed
    refine .packet sound₁ (fun pending => ?_) quiet
    exact ((processServed sound pending obliging processed).encoded encoded rfl).2

end Encode

section Steps
variable {colours : Colours} {config : VideoConfig} {s s' : Supervisor} {p : VideoPipeline} {owed : Option Nat}
  {out : List Supervisor.Output}

theorem endedKept (ended : s.Ended) (within : ∀ n, owed = some n → n ≤ 4) : Kept s owed :=
  fun n same => ⟨within n same,.inl ended⟩

theorem carriedOn (kept : Kept s owed) (ended : s.Ended → s'.Ended) (carried : ∀ ahead, s.Carried ahead → s'.Carried ahead) :
    Kept s' owed := by
  intro n same
  obtain ⟨within,before⟩ := kept n same
  refine ⟨within,?_⟩
  rcases before with done | ⟨ahead,room,there⟩
  · exact .inl (ended done)
  · exact .inr ⟨ahead,room,carried ahead there⟩

theorem inputKept {inputs : List InputEvent} {hints : List UInt32} (kept : Kept s owed) :
    Kept {s with inputs := inputs, hints := hints} owed := by
  refine carriedOn kept id fun ahead carried => ?_
  rcases carried with ⟨p,runs,pending⟩ | ⟨cmd,there,forced⟩ | ⟨next,set⟩
  · exact .encoder p runs pending
  · exact .command cmd there forced
  · exact .flag next set

theorem requestKept (well : s.Well) (kept : Kept s owed) :
    Kept {s with keyframeFlag := true} (unservedNext owed .requested) := by
  cases owed with
  | none =>
    intro n same
    cases same
    exact ⟨by decide,.inr ⟨s.queue.length,by have := queueShort well; omega,.flag rfl rfl⟩⟩
  | some n =>
    refine carriedOn kept id fun ahead carried => ?_
    rcases carried with ⟨p,runs,pending⟩ | ⟨cmd,there,forced⟩ | ⟨next,set⟩
    · exact .encoder p runs pending
    · exact .command cmd there forced
    · exact .flag next rfl

theorem frameKept {data : List Byte} (free : s.sending = none) (kept : Kept s owed) : Kept (s.takeFrame data) owed := by
  refine carriedOn kept id fun ahead carried => ?_
  have longer : (s.takeFrame data).queue = s.queue ++ [⟨data,s.keyframeFlag,s.hints.getLast?⟩] := by
    rw [queue,queue,free,Option.toList_none,List.append_nil]
    rfl
  rcases carried with ⟨p,runs,pending⟩ | ⟨cmd,there,forced⟩ | ⟨next,set⟩
  · exact .encoder p runs pending
  · refine .command cmd ?_ forced
    rw [longer,List.getElem?_append_left (List.getElem?_eq_some_iff.mp there).1]
    exact there
  · -- the flag goes along with the new frame
    refine .command ⟨data,s.keyframeFlag,s.hints.getLast?⟩ ?_ set
    rw [longer,next]
    exact List.getElem?_concat_length

theorem sendKept {cmd : EncodeCommand} (held : s.sending = some cmd) (kept : Kept s owed) :
    Kept {s with sending := none, commands := s.commands ++ [cmd]} owed := by
  refine carriedOn kept id fun ahead carried => ?_
  have same : ({s with sending := none, commands := s.commands ++ [cmd]} : Supervisor).queue = s.queue := by
    simp only [queue,held,Option.toList_none,Option.toList_some,List.append_nil,List.append_assoc]
  rcases carried with ⟨p,runs,pending⟩ | ⟨cmd,there,forced⟩ | ⟨next,set⟩
  · exact .encoder p runs pending
  · exact .command cmd (by rw [same]; exact there) forced
  · exact .flag (by rw [same]; exact next) set

theorem recvKept {cmd : EncodeCommand} {rest : List EncodeCommand} (idle : s.taken = none) (queued : s.commands = cmd::rest)
    (kept : Kept s owed) : Kept {s with taken := some cmd, commands := rest} owed := by
  refine carriedOn kept id fun ahead carried => ?_
  have same : ({s with taken := some cmd, commands := rest} : Supervisor).queue = s.queue := by
    simp only [queue,idle,queued,Option.toList_none,Option.toList_some,List.nil_append,List.cons_append]
  rcases carried with ⟨p,runs,pending⟩ | ⟨cmd,there,forced⟩ | ⟨next,set⟩
  · exact .encoder p runs pending
  · exact .command cmd (by rw [same]; exact there) forced
  · exact .flag (by rw [same]; exact next) set

theorem nearer {cmd : EncodeCommand} {ahead : Nat} (pipeline : Option VideoPipeline)
    (taken : s.taken = some cmd) (outside : ∀ p, s.pipeline = some p → p.encoder.pending = false)
    (unforced : cmd.forceKeyframe = false) (carried : s.Carried ahead) :
    ∃ before, ahead = before + 1 ∧ ({s with taken := none, pipeline := pipeline} : Supervisor).Carried before := by
  have shorter : s.queue = cmd::({s with taken := none, pipeline := pipeline} : Supervisor).queue := by
    rw [queue,queue,taken]
    rfl
  rcases carried with ⟨p,runs,pending⟩ | ⟨cmd',there,forced⟩ | ⟨next,set⟩
  · rw [outside p runs] at pending
    cases pending
  · rw [shorter] at there
    cases ahead with
    | zero =>
      cases there
      rw [unforced] at forced
      cases forced
    | succ before => exact ⟨before,rfl,.command cmd' there forced⟩
  · rw [shorter] at next
    exact ⟨_,next,.flag rfl set⟩

theorem madeKept {cmd : EncodeCommand} {hinted : List Supervisor.Output} {q : VideoPipeline}
    {pipeline : Option VideoPipeline} (begun : s.started = true) (taken : s.taken = some cmd) (runs : s.pipeline = some p)
    (quiet : Quiet hinted) (asked : p.encoder.pending = true ∨ cmd.forceKeyframe = true → q.encoder.pending = true)
    (made : Made q pipeline out) (kept : Kept s owed) :
    Kept {s with taken := none, pipeline := pipeline} (((hinted ++ out).map .output).foldl unservedNext owed) := by
  rw [List.map_append,List.foldl_append,quietUnserved quiet]
  have outside : q.encoder.pending = false → ∀ p', s.pipeline = some p' → p'.encoder.pending = false := by
    intro idle p' same
    cases runs.symm.trans same
    exact Bool.eq_false_iff.mpr fun pending => Bool.eq_false_iff.mp idle (asked (.inl pending))
  have unforced : q.encoder.pending = false → cmd.forceKeyframe = false :=
    fun idle => Bool.eq_false_iff.mpr fun forced => Bool.eq_false_iff.mp idle (asked (.inr forced))
  cases made with
  | panicked silent =>
    rw [quietUnserved silent]
    exact endedKept ⟨begun,rfl⟩ fun n same => (kept n same).within
  | @dropped p' _ sound stays silent =>
    rw [quietUnserved silent]
    intro n same
    obtain ⟨within,before⟩ := kept n same
    refine ⟨within,.inr ?_⟩
    cases pending : q.encoder.pending with
    | true => exact ⟨0,within,.encoder p' rfl (stays pending)⟩
    | false =>
      rcases before with ended | ⟨ahead,room,carried⟩
      · cases ended.2.symm.trans runs
      · obtain ⟨left,rfl,there⟩ := nearer (some p') taken (outside pending) (unforced pending) carried
        exact ⟨left,by omega,there⟩
  | @packet p' packet first sound served silent =>
    rw [List.map_append,List.foldl_append,quietUnserved silent]
    intro n same
    cases owed with
    | none => cases same
    | some m =>
      simp only [List.map_cons,List.map_nil,List.foldl_cons,List.foldl_nil,unservedNext] at same
      split at same
      · cases same
      · rename_i inter
        cases same
        cases pending : q.encoder.pending with
        | true => exact absurd (served pending) inter
        | false =>
          rcases (kept m rfl).carried with ended | ⟨ahead,room,carried⟩
          · cases ended.2.symm.trans runs
          · obtain ⟨left,rfl,there⟩ := nearer (some p') taken (outside pending) (unforced pending) carried
            exact ⟨by omega,.inr ⟨left,by omega,there⟩⟩

theorem threadKept {lib : Libraries} (well : s.Well) (idle : s.started = false) (kept : Kept s owed)
    (done : s.start config lib = (s',out)) : s'.Well ∧ Kept s' ((out.map .output).foldl unservedNext owed) := by
  simp only [start] at done
  split at done
  · cases done
    rw [quietUnserved (conversionsQuiet _ _)]
    refine ⟨⟨well.sound,fun p same => rfl,well.short⟩,?_⟩
    have absent : s.pipeline = none := by
      cases runs : s.pipeline with
      | none => rfl
      | some p => exact absurd (well.begun p runs) (by rw [idle]; decide)
    exact endedKept ⟨rfl,absent⟩ fun n same => (kept n same).within
  · rename_i p made
    cases done
    rw [quietUnserved (conversionsQuiet _ _)]
    refine ⟨⟨?_,fun p same => rfl,well.short⟩,?_⟩
    · intro p' same
      cases same
      exact (withCodecSpec made).1
    · refine carriedOn kept ?_ ?_
      · intro ended
        exact absurd ended.1 (by rw [idle]; decide)
      · intro ahead carried
        rcases carried with ⟨p',runs,pending⟩ | ⟨cmd,there,forced⟩ | ⟨next,set⟩
        · exact absurd (well.begun p' runs) (by rw [idle]; decide)
        · exact .command cmd there forced
        · exact .flag next set

theorem encodeWell {cmd : EncodeCommand} {hintLib lib : Libraries} (well : s.Well)
    (runs : s.pipeline = some p) (taken : s.taken = some cmd)
    (obliging : p.codec = .vp9 → ∃ frames, (lib.vpxEncode true).frames = .ok frames) (kept : Kept s owed)
    (done : s.encode colours p cmd hintLib lib = (s',out)) :
    s'.Well ∧ Kept s' ((out.map .output).foldl unservedNext owed) := by
  cases done
  obtain ⟨sound₁,codec₁,pending₁,quiet⟩ := applyHintSound hintLib cmd.bitrateHint (well.sound p runs)
  obtain ⟨sound₂,codec₂,pending₂⟩ := applyRequestSound cmd.forceKeyframe sound₁
  have made := encodeDataMade colours cmd.data sound₂
    (fun vp9 => obliging (codec₁.symm.trans (codec₂.symm.trans vp9)))
  have asked : p.encoder.pending = true ∨ cmd.forceKeyframe = true →
      (applyRequest (applyHint p hintLib cmd.bitrateHint).1 cmd.forceKeyframe).encoder.pending = true :=
    fun due => pending₂ (due.imp_left pending₁)
  refine ⟨⟨?_,fun _ _ => well.begun p runs,well.short⟩,madeKept (well.begun p runs) taken runs quiet asked made kept⟩
  intro p' same
  revert same
  generalize (encodeData colours _ cmd.data lib).2 = out at made
  generalize (encodeData colours _ cmd.data lib).1 = pipeline at made ⊢
  intro same
  cases same
  cases made with
  | dropped sound => exact sound
  | packet sound => exact sound

theorem watchedStep {trace : List Seen} {event : Supervisor.Event} {labels : List Seen} (well : s.Well)
    (kept : Kept s (unserved trace)) (obliging : Obliging s event)
    (taken : (watched colours config).step s event = some (s',labels)) :
    s'.Well ∧ Kept s' (unserved (trace ++ labels)) := by
  rw [unservedAppend]
  simp only [watched] at taken
  split at taken
  · cases taken
  · rename_i s₁ out step
    cases taken
    cases Supervisor.stepped step with
    | started idle done => exact threadKept well idle kept done
    | input event => exact ⟨⟨well.sound,well.begun,well.short⟩,inputKept kept⟩
    | @relayed event rest _ =>
      cases event with
      | bitrateHint kbps => exact ⟨⟨well.sound,well.begun,well.short⟩,inputKept kept⟩
      | other => exact ⟨⟨well.sound,well.begun,well.short⟩,inputKept kept⟩
    | requested => exact ⟨⟨well.sound,well.begun,well.short⟩,requestKept well kept⟩
    | framed free => exact ⟨⟨well.sound,well.begun,well.short⟩,frameKept free kept⟩
    | sent held room =>
      refine ⟨⟨well.sound,well.begun,?_⟩,sendKept held kept⟩
      rw [List.length_append,List.length_singleton]
      exact room
    | received _ idle queued =>
      have short := well.short
      rw [queued,List.length_cons] at short
      exact ⟨⟨well.sound,well.begun,Nat.le_of_succ_le short⟩,recvKept idle queued kept⟩
    | @encoded p cmd hintLib lib _ _ runs received done =>
      exact encodeWell well runs received (obliging p runs) kept done

end Steps

section Runs
variable {colours : Colours} {config : VideoConfig} {s : Supervisor} {trace : List Seen}

theorem requestServed (run : Machine.Run (watched colours config) Obliging s trace) {n : Nat}
    (owed : unserved trace = some n) :
    n ≤ 4 ∧ ∀ p, s.pipeline = some p → ∃ ahead, n + ahead ≤ 4 ∧ s.Carried ahead := by
  have both : s.Well ∧ Kept s (unserved trace) := by
    refine Machine.runInvariant (fun s trace => s.Well ∧ Kept s (unserved trace)) ?_ ?_ run
    · refine ⟨⟨?_,?_,Nat.zero_le _⟩,?_⟩
      · intro p absent; cases absent
      · intro p absent; cases absent
      · intro n absent; cases absent
    · intro s trace event s' out inv obliging taken
      exact watchedStep inv.1 inv.2 obliging taken
  obtain ⟨within,carried⟩ := both.2 n owed
  refine ⟨within,fun p runs => ?_⟩
  rcases carried with ended | there
  · cases ended.2.symm.trans runs
  · exact there

def crowded : List Supervisor.Event :=
  [.start willing,.frame [0xFF],.send,.recv,.encode willing willing,
    .frame [0xFF],.send,.recv,.frame [0xFF],.send,.frame [0xFF],.send,.frame [0xFF],.requestKeyframe,
    .encode willing willing,.recv,.send,.encode willing willing,.recv,.encode willing willing,.recv,.encode willing willing]

theorem crowdedObliging : ∀ event ∈ crowded, ∀ s, Obliging s event := by
  intro event member s
  cases event with
  | encode hintLib lib =>
    have same : lib = willing := by simp [crowded] at member; exact member.2
    exact fun _ _ _ => ⟨[⟨[1],true⟩],by rw [same]; rfl⟩
  | _ => trivial

theorem requestUnderWay : ∃ s trace, Machine.Run (watched grey defaultVideo) Obliging s trace ∧
    unserved trace = some 4 ∧ 4 ≤ 4 ∧ s.pipeline.isSome = true ∧
    ∀ p, s.pipeline = some p → ∃ ahead, 4 + ahead ≤ 4 ∧ s.Carried ahead := by
  obtain ⟨s,trace,run,reached⟩ := Machine.guardedWitness (watched grey defaultVideo) crowded crowdedObliging
    (fun s trace => unserved trace = some 4 && s.pipeline.isSome) (by decide +kernel)
  obtain ⟨owed,runs⟩ := Bool.and_eq_true_iff.mp reached
  have served := requestServed run (of_decide_eq_true owed)
  exact ⟨s,trace,run,of_decide_eq_true owed,served.1,runs,served.2⟩

end Runs
end Vscreen.Video
