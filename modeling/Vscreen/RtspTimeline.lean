import Mathlib.Algebra.GroupWithZero.Nat
import Vscreen.AudioEncode
import Vscreen.Machine
import Vscreen.RtpNumbering

/-! The loop of an RTSP sender task (handler.rs) between the broadcast channel of an
encoder and its RTP stream. The stream's clock counts the packets that were sent;
the encoder's counts its frames. They part where packets are lost in between. -/
namespace Vscreen.Rtsp

inductive MediaStream where
  | audio (stream : RtpUnicastStream) (transcoding : Bool)
  | video (stream : RtpVideoStream)

namespace MediaStream

def timestamp : MediaStream → UInt32
  | .audio s _ => s.timestamp
  | .video s => s.timestamp

def increment : MediaStream → UInt32
  | .audio _ _ => opusFrameDurationSamples
  | .video s => s.timestampIncrement

def report (elapsed : Duration) : MediaStream → List Byte
  | .audio s _ => s.buildSenderReport elapsed
  | .video s => s.buildSenderReport elapsed

end MediaStream

structure SenderLoop where
  stream : MediaStream
  channel : List EncodedPacket
  running : Bool

inductive Wake where
  | received (transcoded : Option Payload) (failing : Option Nat)
  | lagged (n : Nat)
  | closed
  | cancelled
  | tick (elapsed : Duration)

inductive Output where
  | media (pts : UInt64) (packets : List (List Byte))
  | report (data : List Byte)

namespace SenderLoop

def receive (l : SenderLoop) (packet : EncodedPacket) (rest : List EncodedPacket) (transcoded : Option Payload)
    (failing : Option Nat) : SenderLoop × List Output :=
  match l.stream with
  | .audio s transcoding => match if transcoding then transcoded else some packet.data with
    | none => ({l with channel := rest},[])
    | some data => match s.sendRtp data (failing ≠ some 0) with
      | none => ({l with channel := rest, running := false},[])
      | some (s',rtp) => ({l with stream := .audio s' transcoding, channel := rest},[.media packet.pts [rtp]])
  | .video s =>
    let r := s.sendFrame ⟨packet.data,packet.isKeyframe,failing⟩
    ({l with stream := .video r.1, channel := rest, running := r.2.2},[.media packet.pts r.2.1])

def step (l : SenderLoop) (w : Wake) : Option (SenderLoop × List Output) :=
  if !l.running then none
  else match w with
  | .received transcoded failing => match l.channel with
    | [] => none
    | packet::rest => some (l.receive packet rest transcoded failing)
  | .lagged n => if n ≤ l.channel.length then some ({l with channel := l.channel.drop n},[]) else none
  | .closed => if l.channel.isEmpty then some ({l with running := false},[]) else none
  | .cancelled => some ({l with running := false},[])
  | .tick elapsed => some (l,[.report (l.stream.report elapsed)])

def machine (l : SenderLoop) : Machine SenderLoop Wake Output := ⟨l,step⟩

end SenderLoop

def lostBy (stream : MediaStream) : Wake → Nat
  | .received none _ => match stream with
    | .audio _ transcoding => if transcoding then 1 else 0
    | .video _ => 0
  | .lagged n => n
  | _ => 0

def lost (stream : MediaStream) (wakes : List Wake) : Nat := (wakes.map (lostBy stream)).sum

theorem numberedDrop {pts : UInt64} {packets : List EncodedPacket} (numbered : Numbered pts packets) (n : Nat)
    (room : n ≤ packets.length) : Numbered (pts + .ofNat n) (packets.drop n) := by
  induction n generalizing pts packets with
  | zero => simpa using numbered
  | succ n ih =>
    cases numbered with
    | nil => simp at room
    | cons counted rest =>
      have later := ih rest (by simpa using room)
      rw [UInt64.add_assoc,UInt64.add_comm 1] at later
      rw [UInt64.ofNat_add]
      exact later

def SameStream (stream stream' : MediaStream) : Prop :=
  stream'.increment = stream.increment ∧ ∀ w, lostBy stream' w = lostBy stream w

/-- `frames` further packets were taken from the channel, `missing` of them without
being sent. -/
structure Moved (l l' : SenderLoop) (pts : UInt64) (frames missing : Nat) : Prop where
  channel : Numbered (pts + .ofNat frames) l'.channel
  clock : l'.stream.timestamp + l.stream.increment * .ofNat missing =
    l.stream.timestamp + l.stream.increment * .ofNat frames
  same : SameStream l.stream l'.stream

namespace Moved

theorem refl {l : SenderLoop} {pts : UInt64} (numbered : Numbered pts l.channel) : Moved l l pts 0 0 where
  channel := by simpa using numbered
  clock := rfl
  same := ⟨rfl,fun _ => rfl⟩

theorem trans {l l' l'' : SenderLoop} {pts : UInt64} {frames frames' missing missing' : Nat}
    (first : Moved l l' pts frames missing) (second : Moved l' l'' (pts + .ofNat frames) frames' missing') :
    Moved l l'' pts (frames + frames') (missing + missing') where
  channel := by
    rw [UInt64.ofNat_add,← UInt64.add_assoc]
    exact second.channel
  clock := by
    have clock := second.clock
    rw [first.same.1] at clock
    rw [← addTurn32,← addTurn32,← first.clock]
    grind
  same := ⟨second.same.1.trans first.same.1,fun w => (second.same.2 w).trans (first.same.2 w)⟩

end Moved

section Loop
variable {l l' : SenderLoop} {pts : UInt64}

theorem receiveMoved {packet : EncodedPacket} {rest : List EncodedPacket} {transcoded : Option Payload}
    {failing : Option Nat} (numbered : Numbered (pts + 1) rest) (running : (l.receive packet rest transcoded failing).1.running = true) :
    Moved l (l.receive packet rest transcoded failing).1 pts 1 (lostBy l.stream (.received transcoded failing)) := by
  obtain ⟨stream,channel,active⟩ := l
  cases stream with
  | audio s transcoding =>
    simp only [SenderLoop.receive] at running ⊢
    split at running
    · rename_i failed
      have missing : lostBy (.audio s transcoding) (.received transcoded failing) = 1 := by
        cases transcoding <;> simp_all [lostBy]
      rw [missing]
      exact ⟨numbered,rfl,rfl,fun _ => rfl⟩
    · rename_i data made
      have missing : lostBy (.audio s transcoding) (.received transcoded failing) = 0 := by
        cases transcoding <;> cases transcoded <;> simp_all [lostBy]
      rw [missing]
      split at running
      · contradiction
      · rename_i s' rtp accepted
        refine ⟨numbered,?_,rfl,fun w => by cases w <;> rfl⟩
        unfold RtpUnicastStream.sendRtp at accepted
        dsimp only at accepted
        split at accepted <;> cases accepted
        simp [MediaStream.timestamp,MediaStream.increment]
  | video s =>
    simp only [SenderLoop.receive] at running ⊢
    have call := sendFrameCalled s ⟨packet.data,packet.isKeyframe,failing⟩
    have missing : lostBy (.video s) (.received transcoded failing) = 0 := by cases transcoded <;> rfl
    rw [missing]
    refine ⟨numbered,?_,call.increment,fun w => by cases w <;> rfl⟩
    have clock := call.clock
    rw [running] at clock
    simpa [MediaStream.timestamp,MediaStream.increment] using clock

theorem stepMoved {w : Wake} {out : List Output} (numbered : Numbered pts l.channel)
    (taken : l.step w = some (l',out)) (running : l'.running = true) :
    ∃ frames, Moved l l' pts frames (lostBy l.stream w) := by
  unfold SenderLoop.step at taken
  split at taken
  · contradiction
  · cases w with
    | received transcoded failing =>
      cases found : l.channel with
      | nil =>
        rw [found] at taken
        contradiction
      | cons packet rest =>
        rw [found] at taken numbered
        cases numbered with
        | cons counted later =>
          have same := congrArg Prod.fst (Option.some.inj taken)
          subst same
          exact ⟨1,receiveMoved later running⟩
    | lagged n =>
      dsimp only at taken
      split at taken
      · rename_i room
        cases taken
        exact ⟨n,numberedDrop numbered n room,rfl,rfl,fun _ => rfl⟩
      · contradiction
    | closed =>
      dsimp only at taken
      split at taken <;> cases taken
      contradiction
    | cancelled =>
      cases taken
      contradiction
    | tick elapsed =>
      cases taken
      exact ⟨0,.refl numbered⟩

theorem stoppedStays {w : Wake} (stopped : l.running = false) : l.step w = none := by
  simp [SenderLoop.step,stopped]

open Machine in
theorem execMoved {trace trace' : List Output} (wakes : List Wake) (start : SenderLoop) (numbered : Numbered pts l.channel)
    (ran : exec start.machine l trace wakes = some (l',trace')) (running : l'.running = true) :
    ∃ frames, Moved l l' pts frames (lost l.stream wakes) := by
  induction wakes generalizing l pts trace with
  | nil =>
    simp only [exec,Option.some.injEq,Prod.mk.injEq] at ran
    obtain ⟨rfl,-⟩ := ran
    exact ⟨0,.refl numbered⟩
  | cons w wakes ih =>
    simp only [exec] at ran
    split at ran
    · contradiction
    · rename_i l₁ out taken
      cases alive : l₁.running with
      | false =>
        -- a loop that has ended takes no further turn
        cases wakes with
        | nil =>
          simp only [exec,Option.some.injEq,Prod.mk.injEq] at ran
          rw [← ran.1,alive] at running
          contradiction
        | cons w' wakes =>
          have none_ : start.machine.step l₁ w' = none := stoppedStays alive
          simp only [exec,none_] at ran
          contradiction
      | true =>
        obtain ⟨frames,first⟩ := stepMoved numbered taken alive
        obtain ⟨frames',others⟩ := ih first.channel ran
        refine ⟨frames + frames',?_⟩
        have total : lost l.stream (w::wakes) = lostBy l.stream w + lost l₁.stream wakes := by
          simp only [lost,List.map_cons,List.sum_cons]
          rw [List.map_congr_left fun w _ => first.same.2 w]
        rw [total]
        exact first.trans others

theorem mediaStamped {w : Wake} {p : UInt64} {packets : List (List Byte)} (numbered : Numbered pts l.channel)
    (taken : l.step w = some (l',[.media p packets])) (packet : List Byte) (member : packet ∈ packets) :
    p = pts ∧ Rtp.timestampOf packet = some l.stream.timestamp ∧ lostBy l.stream w = 0 := by
  unfold SenderLoop.step at taken
  split at taken
  · contradiction
  · cases w with
    | received transcoded failing =>
      cases found : l.channel with
      | nil =>
        rw [found] at taken
        contradiction
      | cons source rest =>
        rw [found] at taken numbered
        cases numbered with
        | cons counted later =>
          have outs := congrArg Prod.snd (Option.some.inj taken)
          obtain ⟨stream,channel,active⟩ := l
          cases stream with
          | audio s transcoding =>
            simp only [SenderLoop.receive] at outs
            split at outs
            · contradiction
            · rename_i data made
              split at outs
              · contradiction
              · rename_i s' rtp accepted
                cases outs
                refine ⟨counted,?_,by cases transcoding <;> cases transcoded <;> simp_all [lostBy]⟩
                unfold RtpUnicastStream.sendRtp at accepted
                dsimp only at accepted
                split at accepted <;> cases accepted
                rw [List.mem_singleton.mp member,Rtp.timestampOf,RtpUnicastStream.buildRtpPacket,
                  Rtp.readPacket _ (show Rtp.Seven opusPayloadType by decide)]
                rfl
          | video s =>
            simp only [SenderLoop.receive] at outs
            cases outs
            have call := sendFrameCalled s ⟨source.data,source.isKeyframe,failing⟩
            exact ⟨counted,headedTimestamp call.headers packet member,by cases transcoded <;> rfl⟩
    | lagged n =>
      dsimp only at taken
      split at taken <;> cases taken
    | closed =>
      dsimp only at taken
      split at taken <;> cases taken
    | cancelled => cases taken
    | tick elapsed => cases taken

end Loop

section Pairs
open Machine

/-- In a run of the loop, packets of the source packets `p` and `p'` are sent, at the
timestamps `t` and `t'`, with the turns `between` in between. -/
def SentPair (start : SenderLoop) (between : List Wake) (p p' : UInt64) (t t' : UInt32) : Prop :=
  ∃ before a b l l₁ l₂ l₃ trace trace' packets packets' x x',
    exec start.machine start [] before = some (l,trace) ∧
    start.machine.step l a = some (l₁,[.media p packets]) ∧ x ∈ packets ∧ Rtp.timestampOf x = some t ∧
    exec start.machine l₁ [] between = some (l₂,trace') ∧
    start.machine.step l₂ b = some (l₃,[.media p' packets']) ∧ x' ∈ packets' ∧ Rtp.timestampOf x' = some t'

theorem stepRuns {l l' : SenderLoop} {w : Wake} {out : List Output} (taken : l.step w = some (l',out)) :
    l.running = true := by
  by_contra stopped
  rw [stoppedStays (Bool.not_eq_true _ ▸ stopped)] at taken
  contradiction

theorem execRuns {start l l' : SenderLoop} {trace trace' : List Output} (wakes : List Wake)
    (ran : exec start.machine l trace wakes = some (l',trace')) (running : l'.running = true) : l.running = true := by
  cases wakes with
  | nil =>
    simp only [exec,Option.some.injEq,Prod.mk.injEq] at ran
    rw [ran.1]
    exact running
  | cons w wakes =>
    simp only [exec] at ran
    split at ran
    · contradiction
    · rename_i taken
      exact stepRuns taken

theorem timelineFollows {start : SenderLoop} {pts : UInt64} (numbered : Numbered pts start.channel)
    {between : List Wake} {p p' : UInt64} {t t' : UInt32} (sent : SentPair start between p p' t t') :
    t' - t = start.stream.increment * (p' - p).toUInt32 ↔
      start.stream.increment * .ofNat (lost start.stream between) = 0 := by
  obtain ⟨before,a,b,l,l₁,l₂,l₃,trace,trace',packets,packets',x,x',ran,sentA,inA,stampA,ranOn,sentB,inB,stampB⟩ := sent
  obtain ⟨frames,reached⟩ := execMoved before start numbered ran (stepRuns sentA)
  obtain ⟨rfl,clockA,nothing⟩ := mediaStamped reached.channel sentA x inA
  obtain ⟨one,first⟩ := stepMoved reached.channel sentA (execRuns between ranOn (stepRuns sentB))
  obtain ⟨more,others⟩ := execMoved between start first.channel ranOn (stepRuns sentB)
  obtain ⟨rfl,clockB,-⟩ := mediaStamped others.channel sentB x' inB
  have moved := (first.trans others).clock
  have missing : lost l₁.stream between = lost start.stream between := by
    simp only [lost]
    rw [List.map_congr_left fun w _ => (first.same.2 w).trans (reached.same.2 w)]
  rw [nothing,Nat.zero_add,missing,reached.same.1] at moved
  rw [clockA,Option.some.injEq] at stampA
  rw [clockB,Option.some.injEq] at stampB
  rw [stampA,stampB] at moved
  have apart : (pts + .ofNat frames + .ofNat one + .ofNat more - (pts + .ofNat frames) : UInt64) = .ofNat (one + more) := by
    rw [UInt64.ofNat_add]
    grind
  rw [apart]
  have narrowed : (UInt64.ofNat (one + more)).toUInt32 = .ofNat (one + more) := by simp
  rw [narrowed]
  constructor
  · intro follows
    grind
  · intro vanish
    grind

def opusPacket (pts : UInt64) : EncodedPacket := ⟨[0xFC],false,pts,some 20,none⟩

def audioSender : SenderLoop := ⟨.audio (.new 7 0) false,[opusPacket 0,opusPacket 1,opusPacket 2],true⟩

theorem audioSenderNumbered : Numbered 0 audioSender.channel := .cons rfl (.cons rfl (.cons rfl (.nil 3)))

theorem timelineFollowsRun : (960 : UInt32) - 0 = 960 * ((1 : UInt64) - 0).toUInt32 := by
  have sent : SentPair audioSender [.tick 0] 0 1 0 960 :=
    ⟨[],.received none none,.received none none,_,_,_,_,_,_,_,_,_,_,rfl,rfl,List.mem_singleton_self _,rfl,rfl,rfl,
      List.mem_singleton_self _,rfl⟩
  exact (timelineFollows audioSenderNumbered sent).mpr (by decide)

theorem lagShiftsTime : ¬ ∀ (start : SenderLoop) (pts : UInt64), Numbered pts start.channel → ∀ between p p' t t',
    SentPair start between p p' t t' → t' - t = start.stream.increment * (p' - p).toUInt32 := by
  intro follows
  have sent : SentPair audioSender [.lagged 1] 0 2 0 960 :=
    ⟨[],.received none none,.received none none,_,_,_,_,_,_,_,_,_,_,rfl,rfl,List.mem_singleton_self _,rfl,rfl,rfl,
      List.mem_singleton_self _,rfl⟩
  have apart := follows audioSender 0 audioSenderNumbered [.lagged 1] 0 2 0 960 sent
  exact absurd apart (by decide)

end Pairs
end Vscreen.Rtsp
