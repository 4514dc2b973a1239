import Vscreen.RtspInterleave
import Vscreen.RtspInvariant
import Vscreen.RtspServer

/-! The bytes of an RTSP connection are complete responses and complete frames in every run in
which no sender is dropped inside a frame. -/
namespace Vscreen.Rtsp
open Text

section Measure

theorem newMeasured (status : UInt16) (reason : Text) (cseq : UInt32) : (RtspResponse.new status reason cseq).Measured := rfl

theorem headerMeasured {r : RtspResponse} (measured : r.Measured) {key : Text} (other : key ≠ "Content-Length".toList)
    (value : Text) : (r.header key value).Measured := by
  rw [RtspResponse.Measured,RtspResponse.header,Table.getPut,if_neg other.symm]
  exact measured

theorem sessionMeasured {r : RtspResponse} (measured : r.Measured) (session : SessionId) (timeoutSecs : Nat) :
    (r.withSession session timeoutSecs).Measured := by
  rw [RtspResponse.Measured,RtspResponse.withSession,Table.getPut,if_neg (by decide)]
  exact measured

theorem bodyMeasured (r : RtspResponse) (contentType body : Text) : (r.setBody contentType body).Measured := by
  rw [RtspResponse.Measured,RtspResponse.setBody,Table.getPut,if_pos rfl]
  rfl

theorem setupMeasured (u : CaseMapping) (m : RtspSessionManager) (x : Exchange) : (handleSetup u m x).2.Measured := by
  unfold handleSetup
  split
  · rename_i failed
    obtain ⟨_,_,-,rfl⟩ := planError failed
    exact newMeasured _ _ _
  · rename_i p planned
    have answer (session : SessionId) : (setupResponse p session m.timeoutSecs x.request.cseq).Measured :=
      headerMeasured (sessionMeasured (newMeasured _ _ _) _ _) (by decide) _
    split
    · unfold setupExisting
      repeat' split
      · exact newMeasured _ _ _
      · exact newMeasured _ _ _
      · exact newMeasured _ _ _
      · exact answer _
    · exact answer x.drawn

theorem handledMeasured (u : CaseMapping) (m : RtspSessionManager) (x : Exchange) : (handleRequest u m x).2.Measured := by
  unfold handleRequest
  split
  · exact headerMeasured (newMeasured _ _ _) (by decide) _
  · unfold handleDescribe
    repeat' split
    · exact newMeasured _ _ _
    · exact newMeasured _ _ _
    · exact headerMeasured (bodyMeasured _ _ _) (by decide) _
  · exact setupMeasured u m x
  · rcases playCases m x with ⟨_,_,-,refused⟩ | ⟨_,_,_,-,-,-,done⟩
    · exact refused ▸ newMeasured _ _ _
    · exact done ▸ sessionMeasured (newMeasured _ _ _) _ _
  · rcases pauseCases m x with ⟨_,_,-,refused⟩ | ⟨_,_,_,-,-,-,done⟩
    · exact refused ▸ newMeasured _ _ _
    · exact done ▸ sessionMeasured (newMeasured _ _ _) _ _
  · rcases teardownCases m x with refused | ⟨_,_,_,-,-,done⟩
    · exact refused ▸ newMeasured _ _ _
    · exact done ▸ newMeasured _ _ _
  · exact newMeasured _ _ _

end Measure

section Lengths

theorem frameBoundary (u : CaseMapping) {channel : UInt8} {data : List Byte} (complete : (Outgoing.frame channel data).Complete)
    (rest : List Byte) :
    nextMessage u ((Outgoing.frame channel data).bytes ++ rest) = some (.interleaved channel data rest) := by
  rw [Outgoing.Complete] at complete
  have field : (UInt16.ofNat data.length >>> 8).toUInt8.toNat * 256 + (UInt16.ofNat data.length).toUInt8.toNat =
      data.length := by
    have bound := (UInt16.ofNat data.length).toNat_lt
    simp only [UInt16.toNat_toUInt8,UInt16.toNat_shiftRight,complete]
    rw [complete] at bound
    rw [Nat.shiftRight_eq_div_pow,show (8 : UInt16).toNat % 16 = 8 from rfl]
    omega
  simp only [Outgoing.bytes,Rtp.be16,List.cons_append,List.nil_append,nextMessage,if_true,readInterleaved,field,
    List.length_append,List.take_left,List.drop_left]
  rw [if_neg (by omega)]

theorem smallComplete (channel : UInt8) {data : List Byte} (small : data.length < 2^16) :
    (Outgoing.frame channel data).Complete := by
  rw [Outgoing.Complete,UInt16.toNat_ofNat']
  exact Nat.mod_eq_of_lt small

theorem senderReportLength (ssrc timestamp : UInt32) (startNtp : UInt64) (elapsed : Duration) (health : StreamHealth) :
    (senderReport ssrc timestamp startNtp elapsed health).length = 28 := rfl

theorem sendFrameSize (s : RtpVideoStream) (c : FrameCall) : ∀ packet ∈ (s.sendFrame c).2.1, packet.length ≤ 1212 := by
  have sizes := sendLoopSize 1200 c.failing (s.packetizer.packetize c.frameData c.isKeyframe).2
    {s with packetizer := (s.packetizer.packetize c.frameData c.isKeyframe).1} 0
    (s.packetizer.packetize c.frameData c.isKeyframe).2.length
    (s.packetizer.packetizeSize c.frameData c.isKeyframe)
  simp only [RtpVideoStream.sendFrame]
  split <;> exact sizes

theorem framesComplete (c : SenderCall) (rtpChannel rtcpChannel : UInt8) :
    ∀ message ∈ c.frames rtpChannel rtcpChannel, message.Complete := by
  cases c with
  | rtp s opusData =>
    intro message member
    rw [List.mem_singleton.mp member]
    refine smallComplete rtpChannel ?_
    have bound : opusData.1.length ≤ 4000 := opusData.2
    rw [RtpUnicastStream.buildRtpPacket,Rtp.packetLength]
    omega
  | audioReport s elapsed =>
    intro message member
    rw [List.mem_singleton.mp member]
    exact smallComplete rtcpChannel (by rw [RtpUnicastStream.buildSenderReport,senderReportLength]; decide)
  | frame s frameData isKeyframe =>
    intro message member
    obtain ⟨packet,sent,rfl⟩ := List.mem_map.mp member
    have size := sendFrameSize s _ packet sent
    exact smallComplete rtpChannel (by omega)
  | videoReport s elapsed =>
    intro message member
    rw [List.mem_singleton.mp member]
    exact smallComplete rtcpChannel (by rw [RtpVideoStream.buildSenderReport,senderReportLength]; decide)

theorem responseStart (r : RtspResponse) (order : List (Text × Text)) :
    ∃ tail, (Outgoing.response r order).bytes = 0x52::tail := ⟨_,rfl⟩

theorem leadingFrame {messages : List Outgoing} (complete : ∀ message ∈ messages, message.Complete) {channel high low : Byte}
    {tail : List Byte} (starts : messages.flatMap Outgoing.bytes = 0x24::channel::high::low::tail) :
    high.toNat * 256 + low.toNat ≤ tail.length := by
  cases messages with
  | nil => contradiction
  | cons message rest =>
    obtain ⟨first,-⟩ := List.forall_mem_cons.mp complete
    rw [List.flatMap_cons] at starts
    cases message with
    | response r order =>
      obtain ⟨more,start⟩ := responseStart r order
      rw [start] at starts
      cases (List.cons.inj starts).1
    | frame channel' data =>
      have read := frameBoundary .ascii first (rest.flatMap Outgoing.bytes)
      rw [starts] at read
      simp only [nextMessage,if_true,readInterleaved] at read
      split at read
      · contradiction
      · omega

end Lengths

namespace Wire
variable {u : CaseMapping} {timeout : Duration} {w w' : Wire}

structure Framed (w : Wire) (trace : List Outgoing) : Prop where
  bytes : w.bytes = trace.flatMap Outgoing.bytes ++ w.inFlight
  complete : ∀ message ∈ trace, message.Complete
  current : ∀ c, w.current = some c → c.message.Complete ∧ c.written ≤ c.message.bytes.length
  waiting : ∀ writer, ∀ message ∈ w.waitingOf writer, message.Complete

theorem awaitWaiting (waiting : ∀ writer, ∀ message ∈ w.waitingOf writer, message.Complete) {writer : Writer}
    {messages : List Outgoing} (complete : ∀ message ∈ messages, message.Complete) :
    ∀ writer', ∀ message ∈ (w.await writer messages).waitingOf writer', message.Complete := by
  intro writer' message member
  rw [waitingOf,await,Table.getPut] at member
  split at member
  · exact complete message member
  · exact waiting writer' message member

theorem awaitFramed {trace : List Outgoing} (framed : w.Framed trace) {writer : Writer} {messages : List Outgoing}
    (complete : ∀ message ∈ messages, message.Complete) : (w.await writer messages).Framed trace :=
  ⟨framed.bytes,framed.complete,framed.current,awaitWaiting framed.waiting complete⟩

theorem finishFramed {trace : List Outgoing} (framed : w.Framed trace) {c : Writing} (here : w.current = some c)
    (full : c.written = c.message.bytes.length) : Framed {w with current := none} (trace ++ [c.message]) := by
  obtain ⟨complete,-⟩ := framed.current c here
  refine ⟨?_,?_,by simp,framed.waiting⟩
  · have bytes := framed.bytes
    rw [inFlight,here] at bytes
    simp only [full,List.take_length] at bytes
    simp [bytes,inFlight]
  · intro message member
    rcases List.mem_append.mp member with earlier | last
    · exact framed.complete message earlier
    · rw [List.mem_singleton.mp last]
      exact complete

theorem releaseFramed {trace : List Outgoing} (framed : w.Framed trace) {task : TaskId} (whole : w.Whole (.drop task)) :
    (w.release task).1.Framed (trace ++ (w.release task).2) := by
  unfold release
  split
  · rename_i held
    obtain ⟨c,here,own⟩ := (Option.any_eq_true _ _).mp held
    have own : c.writer = .sender task := of_decide_eq_true own
    have finished : w.finished = if c.written = c.message.bytes.length then [c.message] else [] := by
      rw [Wire.finished,here]
    rw [finished]
    split
    · rename_i full
      exact finishFramed framed here full
    · rename_i short
      -- it has not written anything yet
      have none_ := (whole c here own).resolve_right short
      have bytes := framed.bytes
      rw [inFlight,here] at bytes
      simp only [none_,List.take_zero,List.append_nil] at bytes
      exact ⟨by simp [bytes,inFlight],by simpa using framed.complete,by simp,framed.waiting⟩
  · simpa using framed

theorem writeFramed {trace : List Outgoing} (framed : w.Framed trace) {c : Writing} {n : Nat} (here : w.current = some c)
    (room : c.written + n ≤ c.message.bytes.length) : Framed {w with
      current := some {c with written := c.written + n}
      bytes := w.bytes ++ (c.message.bytes.drop c.written).take n} trace := by
  obtain ⟨complete,-⟩ := framed.current c here
  have bytes := framed.bytes
  rw [inFlight,here] at bytes
  refine ⟨?_,framed.complete,?_,framed.waiting⟩
  · rw [bytes,inFlight,List.append_assoc,← List.take_add]
  · intro c' same
    cases same
    exact ⟨complete,room⟩

theorem sameFramed {trace : List Outgoing} (framed : w.Framed trace) (bytes : w'.bytes = w.bytes)
    (current : w'.current = w.current) (waiting : w'.waiting = w.waiting) : w'.Framed trace where
  bytes := by rw [bytes,framed.bytes,inFlight,inFlight,current]
  complete := framed.complete
  current := by rw [current]; exact framed.current
  waiting := by
    intro writer message member
    rw [waitingOf,waiting] at member
    exact framed.waiting writer message member

theorem requestFramed {trace : List Outgoing} (framed : w.Framed trace) {m : RtspSessionManager} {r : RtspResponse}
    {order : List (Text × Text)} (complete : (Outgoing.response r order).Complete) :
    ((w.handle m).await .handler [.response r order]).Framed trace := by
  have handled : (w.handle m).Framed trace := sameFramed framed rfl rfl rfl
  exact awaitFramed handled (List.forall_mem_singleton.mpr complete)

theorem callFramed {trace out : List Outgoing} {task : TaskId} {c : SenderCall} (framed : w.Framed trace)
    (taken : w.callStep task c = some (w',out)) : w'.Framed (trace ++ out) := by
  unfold callStep at taken
  split at taken
  · contradiction
  · split at taken
    · contradiction
    · obtain ⟨-,same⟩ := Option.ite_none_right_eq_some.mp taken
      cases same
      rw [List.append_nil]
      exact awaitFramed framed (framesComplete c _ _)

theorem lockFramed {trace : List Outgoing} (framed : w.Framed trace) {writer : Writer} {message : Outgoing}
    {rest : List Outgoing} (free : w.current = none) (next : w.waitingOf writer = message::rest) :
    Framed {w.await writer rest with current := some ⟨writer,message,0⟩} trace := by
  have all := framed.waiting writer
  rw [next] at all
  obtain ⟨head,tail⟩ := List.forall_mem_cons.mp all
  have bytes := framed.bytes
  rw [inFlight,free] at bytes
  refine ⟨?_,framed.complete,?_,awaitWaiting framed.waiting tail⟩
  · rw [await,inFlight]
    exact bytes
  · intro c same
    cases same
    exact ⟨head,Nat.zero_le _⟩

theorem dropFramed {trace : List Outgoing} (framed : w.Framed trace) {task : TaskId} (whole : w.Whole (.drop task)) :
    Framed {(w.release task).1.await (.sender task) [] with gone := task::w.gone} (trace ++ (w.release task).2) := by
  have released : ((w.release task).1.await (.sender task) []).Framed (trace ++ (w.release task).2) :=
    awaitFramed (releaseFramed framed whole) (List.forall_mem_nil _)
  exact sameFramed released rfl rfl rfl

theorem stepFramed {trace out : List Outgoing} {e : WireEvent} (framed : w.Framed trace) (whole : w.Whole e)
    (taken : w.step u timeout e = some (w',out)) : w'.Framed (trace ++ out) := by
  cases e with
  | request x order =>
    obtain ⟨⟨-,all⟩,same⟩ := Option.ite_none_right_eq_some.mp taken
    cases same
    rw [List.append_nil]
    exact requestFramed framed ⟨all,handledMeasured u w.manager x⟩
  | badRequest =>
    obtain ⟨-,same⟩ := Option.ite_none_right_eq_some.mp taken
    cases same
    rw [List.append_nil]
    exact awaitFramed framed (List.forall_mem_singleton.mpr ⟨List.Perm.nil,newMeasured _ _ _⟩)
  | server e =>
    obtain ⟨r,-,same⟩ := Option.map_eq_some_iff.mp taken
    cases same
    rw [List.append_nil]
    exact sameFramed framed rfl rfl rfl
  | call task c => exact callFramed framed taken
  | lock writer =>
    simp only [step] at taken
    split at taken
    · rename_i message rest free next
      cases taken
      rw [List.append_nil]
      exact lockFramed framed free next
    · contradiction
  | write n =>
    simp only [step] at taken
    split at taken
    · contradiction
    · rename_i c here
      obtain ⟨room,same⟩ := Option.ite_none_right_eq_some.mp taken
      cases same
      rw [List.append_nil]
      exact writeFramed framed here room
  | unlock =>
    simp only [step] at taken
    split at taken
    · contradiction
    · rename_i c here
      obtain ⟨full,same⟩ := Option.ite_none_right_eq_some.mp taken
      cases same
      exact finishFramed framed here full
  | drop task =>
    obtain ⟨-,same⟩ := Option.ite_none_right_eq_some.mp taken
    cases same
    exact dropFramed framed whole
  | ended task =>
    obtain ⟨-,same⟩ := Option.ite_none_right_eq_some.mp taken
    cases same
    rw [List.append_nil]
    exact sameFramed framed rfl rfl rfl

theorem runFramed {trace : List Outgoing} (run : (machine u timeout).Run Whole w trace) : w.Framed trace := by
  refine Machine.runInvariant (M := machine u timeout) Framed ⟨rfl,by simp,by simp [machine],?_⟩
    (fun framed whole taken => stepFramed framed whole taken) run
  intro writer message member
  simp [machine,waitingOf] at member

theorem streamStaysFramed {trace : List Outgoing} (run : (machine u timeout).Run Whole w trace) :
    w.bytes = trace.flatMap Outgoing.bytes ++ w.inFlight ∧ (∀ message ∈ trace, message.Complete) ∧
      (∀ channel data, .frame channel data ∈ trace → ∀ rest,
        nextMessage u ((Outgoing.frame channel data).bytes ++ rest) = some (.interleaved channel data rest)) ∧
      ∀ (c : SenderCall) rtpChannel rtcpChannel, ∀ message ∈ c.frames rtpChannel rtcpChannel, message.Complete := by
  have framed := runFramed run
  exact ⟨framed.bytes,framed.complete,fun channel data member => frameBoundary u (framed.complete _ member),framesComplete⟩

section Run

def setupStreamed : Exchange :=
  exchangeOf (setupRequest "rtsp://h/stream/dev/trackID=1" "RTP/AVP/TCP;interleaved=2-3" none) ['a']

def playStreamed : Exchange := exchangeOf (playRequest ['a']) ['b']

def playAnswer : List (Text × Text) := [("Session".toList,"a;timeout=0".toList)]

def report : SenderCall := .audioReport (.new 7 0) 0

theorem streamStaysFramedRun : ∃ (w : Wire) (trace : List Outgoing), (machine .ascii 0).Run Whole w trace ∧
    trace.length = 2 ∧ w.gone = [0] ∧ w.bytes = trace.flatMap Outgoing.bytes ++ w.inFlight := by
  have setup := Machine.runStep (.start : (machine .ascii 0).Run Whole _ _) (.server (.request setupStreamed)) trivial rfl
  have play := Machine.runStep setup (.request playStreamed playAnswer) trivial rfl
  have called := Machine.runStep play (.call 0 report) trivial rfl
  have locked := Machine.runStep called (.lock (.sender 0)) trivial rfl
  have part := Machine.runStep locked (.write 5) trivial rfl
  have whole := Machine.runStep part (.write 27) trivial rfl
  have reported := Machine.runStep whole .unlock trivial rfl
  have waited := Machine.runStep reported (.lock .handler) trivial rfl
  have removed := Machine.runStep waited (.server (.remove ['a'])) trivial rfl
  have dropped := Machine.runStep removed (.drop 0) (fun c here other => by
    cases here
    contradiction) rfl
  have answer := Machine.runStep dropped (.write 50) trivial rfl
  have answered := Machine.runStep answer .unlock trivial rfl
  exact ⟨_,_,answered,rfl,rfl,(streamStaysFramed answered).1⟩

theorem droppedInsideFrame : ¬ ∀ (w : Wire) (trace : List Outgoing), (machine .ascii 0).Reaches w trace →
    ∃ messages : List Outgoing, (∀ message ∈ messages, message.Complete) ∧
      w.bytes = messages.flatMap Outgoing.bytes ++ w.inFlight := by
  intro framed
  have setup := Machine.runStep (.start : (machine .ascii 0).Reaches _ _) (.server (.request setupStreamed)) trivial rfl
  have play := Machine.runStep setup (.request playStreamed playAnswer) trivial rfl
  have called := Machine.runStep play (.call 0 report) trivial rfl
  have locked := Machine.runStep called (.lock (.sender 0)) trivial rfl
  have part := Machine.runStep locked (.write 1) trivial rfl
  have removed := Machine.runStep part (.server (.remove ['a'])) trivial rfl
  have dropped := Machine.runStep removed (.drop 0) trivial rfl
  have free := Machine.runStep dropped (.lock .handler) trivial rfl
  have answer := Machine.runStep free (.write 50) trivial rfl
  have answered := Machine.runStep answer .unlock trivial rfl
  obtain ⟨messages,complete,stream⟩ := framed _ _ answered
  have starts : messages.flatMap Outgoing.bytes =
      0x24::0x52::0x54::0x53::(Utf8.encode "P/1.0 200 OK\r\nCSeq: 2\r\nSession: a;timeout=0\r\n\r\n".toList) :=
    (stream.trans (List.append_nil _)).symm
  exact absurd (leadingFrame complete starts) (by decide)

end Run

end Wire
end Vscreen.Rtsp
