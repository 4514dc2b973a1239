import Vscreen.Machine
import Vscreen.Text

/-! The signaling side of `PeerSession` (webrtc_session/session.rs): offers and ICE
candidates of one peer, handled one after the other. The peer connection is a
parameter: what it answers is an argument, and what it was called on is kept. -/
namespace Vscreen.Signaling

inductive SignalingMessage where
  | offer (sdp : Text)
  | answer (sdp : Text)
  | iceCandidate (candidate : Text) (sdpMLineIndex : Option UInt16) (sdpMid : Option Text)
  | iceComplete
  | error (code message : Text)
  | connected (peerId : Text)
  | disconnected (reason : Text)
  | clipboard (text : Text)
  deriving DecidableEq, Repr

inductive TransportError where
  | signaling (message : Text)
  | ice (message : Text)
  deriving DecidableEq, Repr

inductive PeerSessionState where
  | new
  | connecting
  | connected
  | disconnected
  | failed
  deriving DecidableEq, Repr

structure RTCIceCandidateInit where
  candidate : Text
  sdpMid : Option Text
  sdpMlineIndex : Option UInt16
  usernameFragment : Option Text
  deriving DecidableEq, Repr

def initOf : SignalingMessage → Option RTCIceCandidateInit
  | .iceCandidate candidate sdpMLineIndex sdpMid => some ⟨candidate,sdpMid,sdpMLineIndex,none⟩
  | _ => none

inductive PcCall where
  | setRemoteDescription (sdp : Text) (done : Bool)
  | addIceCandidate (init : RTCIceCandidateInit)
  | createAnswer
  | setLocalDescription (sdp : Text)
  deriving DecidableEq, Repr

structure PcAnswers where
  parseOffer : Except Text Unit
  setRemoteDescription : Except Text Unit
  addIceCandidate : Except Text Unit
  createAnswer : Except Text Text
  setLocalDescription : Except Text Unit

structure PeerSession where
  peerId : Text
  state : PeerSessionState
  iceBuffer : List SignalingMessage
  remoteDescriptionSet : Bool
  deriving DecidableEq, Repr

abbrev Reply := Except TransportError (Option SignalingMessage)

namespace PeerSession

def new (peerId : Text) : PeerSession := ⟨peerId,.new,[],false⟩

def answerOffer (pc : PcAnswers) : List PcCall × Reply := match pc.createAnswer with
  | .error e => ([.createAnswer],.error (.signaling ("create answer: ".toList ++ e)))
  | .ok sdp => match pc.setLocalDescription with
    | .error e => ([.createAnswer,.setLocalDescription sdp],.error (.signaling ("set local description: ".toList ++ e)))
    | .ok () => ([.createAnswer,.setLocalDescription sdp],.ok (some (.answer sdp)))

def drain (buffered : List SignalingMessage) : List PcCall := (buffered.filterMap initOf).map .addIceCandidate

def handleOffer (s : PeerSession) (sdp : Text) (pc : PcAnswers) : PeerSession × List PcCall × Reply :=
  let s := {s with state := .connecting}
  match pc.parseOffer with
  | .error e => (s,[],.error (.signaling ("parse offer: ".toList ++ e)))
  | .ok () => match pc.setRemoteDescription with
    | .error e => (s,[.setRemoteDescription sdp false],.error (.signaling ("set remote description: ".toList ++ e)))
    | .ok () =>
      let answered := answerOffer pc
      ({s with remoteDescriptionSet := true, iceBuffer := []},
        .setRemoteDescription sdp true::(drain s.iceBuffer ++ answered.1),answered.2)

def handleIceCandidate (s : PeerSession) (candidate : Text) (sdpMLineIndex : Option UInt16) (sdpMid : Option Text)
    (pc : PcAnswers) : PeerSession × List PcCall × Except TransportError Unit :=
  if !s.remoteDescriptionSet then
    ({s with iceBuffer := s.iceBuffer ++ [.iceCandidate candidate sdpMLineIndex sdpMid]},[],.ok ())
  else
    let init : RTCIceCandidateInit := ⟨candidate,sdpMid,sdpMLineIndex,none⟩
    match pc.addIceCandidate with
    | .error e => (s,[.addIceCandidate init],.error (.ice ("add candidate: ".toList ++ e)))
    | .ok () => (s,[.addIceCandidate init],.ok ())

def unexpected (s : PeerSession) : Reply :=
  .error (.signaling ("unexpected message type from peer ".toList ++ s.peerId))

def handleSignaling (s : PeerSession) (pc : PcAnswers) : SignalingMessage → PeerSession × List PcCall × Reply
  | .offer sdp => s.handleOffer sdp pc
  | .iceCandidate candidate sdpMLineIndex sdpMid =>
    match s.handleIceCandidate candidate sdpMLineIndex sdpMid pc with
    | (s,calls,.error e) => (s,calls,.error e)
    | (s,calls,.ok ()) => (s,calls,.ok none)
  | .iceComplete => (s,[],.ok none)
  | .answer _ => (s,[],s.unexpected)
  | .error _ _ => (s,[],s.unexpected)
  | .connected _ => (s,[],s.unexpected)
  | .disconnected _ => (s,[],s.unexpected)
  | .clipboard _ => (s,[],s.unexpected)

end PeerSession

structure Peer where
  session : PeerSession
  received : List RTCIceCandidateInit
  calls : List PcCall

inductive Event where
  | message (message : SignalingMessage) (pc : PcAnswers)
  | setConnected
  | setDisconnected

namespace Peer

def receive (s : Peer) (message : SignalingMessage) (pc : PcAnswers) : Peer :=
  let handled := s.session.handleSignaling pc message
  ⟨handled.1,s.received ++ (initOf message).toList,s.calls ++ handled.2.1⟩

def step (s : Peer) : Event → Option (Peer × List Reply)
  | .message message pc => some (s.receive message pc,[(s.session.handleSignaling pc message).2.2])
  | .setConnected => some ({s with session := {s.session with state := .connected}},[])
  | .setDisconnected => some ({s with session := {s.session with state := .disconnected}},[])

end Peer

def peer (peerId : Text) : Machine Peer Event Reply where
  init := ⟨.new peerId,[],[]⟩
  step := Peer.step

def handedOf : PcCall → Option RTCIceCandidateInit
  | .addIceCandidate init => some init
  | _ => none

def handed (calls : List PcCall) : List RTCIceCandidateInit := calls.filterMap handedOf

def buffered (s : PeerSession) : List RTCIceCandidateInit := s.iceBuffer.filterMap initOf

def RemoteSet (calls : List PcCall) : Prop := ∃ sdp, .setRemoteDescription sdp true ∈ calls

def NoneEarly (calls : List PcCall) : Prop := ∀ before init after, calls = before ++ .addIceCandidate init::after →
  RemoteSet before

structure InOrder (s : Peer) : Prop where
  once : handed s.calls ++ buffered s.session = s.received
  noneEarly : NoneEarly s.calls
  noneLeft : RemoteSet s.calls → s.session.iceBuffer = []

theorem handedAppend (calls more : List PcCall) : handed (calls ++ more) = handed calls ++ handed more :=
  List.filterMap_append

theorem handedDrain (messages : List SignalingMessage) : handed (PeerSession.drain messages) = messages.filterMap initOf := by
  rw [handed,PeerSession.drain,List.filterMap_map]
  exact List.filterMap_some

theorem handedAnswer (pc : PcAnswers) : handed (PeerSession.answerOffer pc).1 = [] := by
  simp only [PeerSession.answerOffer]
  split
  · rfl
  · split <;> rfl

theorem remoteSetAppend {calls more : List PcCall} (set : RemoteSet calls) : RemoteSet (calls ++ more) := by
  obtain ⟨sdp,member⟩ := set
  exact ⟨sdp,List.mem_append_left more member⟩

theorem noneEarlyAppend {calls more : List PcCall} (none : NoneEarly calls) (later : RemoteSet calls ∨ handed more = []) :
    NoneEarly (calls ++ more) := by
  intro before init after same
  rcases List.append_eq_append_iff.mp same with ⟨rest,split,tail⟩ | ⟨rest,split,tail⟩
  · -- the candidate is among the new calls
    rcases later with set | silent
    · rw [split]; exact remoteSetAppend set
    · have member : init ∈ handed more := by
        rw [tail]
        exact List.mem_filterMap.mpr ⟨.addIceCandidate init,List.mem_append_right _ List.mem_cons_self,rfl⟩
      rw [silent] at member
      cases member
  · cases rest with
    | nil =>
      rcases later with set | silent
      · rw [List.append_nil] at split
        exact split ▸ set
      · have member : init ∈ handed more := by
          rw [← List.nil_append more,← tail]
          exact List.mem_filterMap.mpr ⟨.addIceCandidate init,List.mem_cons_self,rfl⟩
        rw [silent] at member
        cases member
    | cons call rest =>
      cases tail
      exact none before init rest split

structure Tracked (s : Peer) : Prop where
  ordered : InOrder s
  flag : s.session.remoteDescriptionSet = true ↔ RemoteSet s.calls

section Steps
variable {s : Peer} {pc : PcAnswers}

theorem trackedQuiet {session : PeerSession} {calls : List PcCall} (tracked : Tracked s)
    (buffer : session.iceBuffer = s.session.iceBuffer) (flag : session.remoteDescriptionSet = s.session.remoteDescriptionSet)
    (silent : handed calls = []) (unset : ∀ sdp, .setRemoteDescription sdp true ∉ calls) :
    Tracked ⟨session,s.received,s.calls ++ calls⟩ := by
  have same : RemoteSet (s.calls ++ calls) ↔ RemoteSet s.calls := by
    constructor
    · rintro ⟨sdp,member⟩
      rcases List.mem_append.mp member with old | new
      · exact ⟨sdp,old⟩
      · exact absurd new (unset sdp)
    · exact remoteSetAppend
  refine ⟨⟨?_,noneEarlyAppend tracked.ordered.noneEarly (.inr silent),?_⟩,?_⟩
  · rw [handedAppend,silent,List.append_nil,buffered,buffer]
    exact tracked.ordered.once
  · intro set
    rw [buffer]
    exact tracked.ordered.noneLeft (same.mp set)
  · rw [flag,same]
    exact tracked.flag

theorem offerTracked {sdp : Text} (tracked : Tracked s) : Tracked (s.receive (.offer sdp) pc) := by
  have received : s.received ++ (initOf (.offer sdp)).toList = s.received := List.append_nil _
  simp only [Peer.receive,received,PeerSession.handleSignaling,PeerSession.handleOffer]
  split
  · exact trackedQuiet tracked rfl rfl rfl (fun sdp member => by cases member)
  · split
    · exact trackedQuiet tracked rfl rfl rfl (by simp)
    · have set : ∀ rest, RemoteSet (s.calls ++ .setRemoteDescription sdp true::rest) :=
        fun rest => ⟨sdp,List.mem_append_right _ List.mem_cons_self⟩
      refine ⟨⟨?_,?_,fun _ => rfl⟩,fun _ => set _,fun _ => rfl⟩
      · -- the buffer is handed to the connection as a whole
        have drained : handed (.setRemoteDescription sdp true::
            (PeerSession.drain s.session.iceBuffer ++ (PeerSession.answerOffer pc).1)) = buffered s.session := by
          change handed (PeerSession.drain s.session.iceBuffer ++ (PeerSession.answerOffer pc).1) = _
          rw [handedAppend,handedDrain,handedAnswer,List.append_nil,buffered]
        rw [handedAppend,drained]
        exact (List.append_nil _).trans tracked.ordered.once
      · rw [List.append_cons]
        refine noneEarlyAppend (noneEarlyAppend tracked.ordered.noneEarly (.inr rfl)) (.inl ?_)
        exact ⟨sdp,List.mem_append_right _ List.mem_cons_self⟩

theorem bufferTracked {candidate : Text} {sdpMLineIndex : Option UInt16} {sdpMid : Option Text} (tracked : Tracked s)
    (flag : s.session.remoteDescriptionSet = false) :
    Tracked (s.receive (.iceCandidate candidate sdpMLineIndex sdpMid) pc) := by
  have unset : ¬ RemoteSet s.calls := fun set => by
    have := tracked.flag.mpr set
    rw [flag] at this
    cases this
  simp only [Peer.receive,PeerSession.handleSignaling,PeerSession.handleIceCandidate,flag,Bool.not_false,if_true,
    List.append_nil]
  refine ⟨⟨?_,tracked.ordered.noneEarly,fun set => absurd set unset⟩,?_⟩
  · simp only [buffered,List.filterMap_append]
    rw [← List.append_assoc]
    exact congrArg (· ++ [_]) tracked.ordered.once
  · exact ⟨fun raised => (by cases raised),fun set => absurd set unset⟩

theorem handTracked {init : RTCIceCandidateInit} (tracked : Tracked s) (flag : s.session.remoteDescriptionSet = true) :
    Tracked ⟨s.session,s.received ++ [init],s.calls ++ [.addIceCandidate init]⟩ := by
  have set := tracked.flag.mp flag
  have empty := tracked.ordered.noneLeft set
  refine ⟨⟨?_,noneEarlyAppend tracked.ordered.noneEarly (.inl set),fun _ => empty⟩,?_⟩
  · have once := tracked.ordered.once
    simp only [buffered,empty,List.filterMap_nil,List.append_nil] at once ⊢
    rw [handedAppend,once]
    rfl
  · exact ⟨fun _ => remoteSetAppend set,fun _ => flag⟩

theorem candidateTracked {candidate : Text} {sdpMLineIndex : Option UInt16} {sdpMid : Option Text} (tracked : Tracked s) :
    Tracked (s.receive (.iceCandidate candidate sdpMLineIndex sdpMid) pc) := by
  cases flag : s.session.remoteDescriptionSet with
  | false => exact bufferTracked tracked flag
  | true =>
    simp only [Peer.receive,PeerSession.handleSignaling,PeerSession.handleIceCandidate,flag,Bool.not_true,
      Bool.false_eq_true,if_false]
    -- the answer to `add_ice_candidate` only decides the reply
    cases pc.addIceCandidate with
    | error e => exact handTracked tracked flag
    | ok done => exact handTracked tracked flag

theorem trackedStep {s' : Peer} {event : Event} {out : List Reply} {peerId : Text} (tracked : Tracked s)
    (taken : (peer peerId).step s event = some (s',out)) : Tracked s' := by
  have quiet : ∀ session : PeerSession, session.iceBuffer = s.session.iceBuffer →
      session.remoteDescriptionSet = s.session.remoteDescriptionSet → Tracked ⟨session,s.received,s.calls⟩ := by
    intro session buffer flag
    have same := trackedQuiet tracked buffer flag (rfl : handed [] = []) (fun sdp member => by cases member)
    rwa [List.append_nil] at same
  have unchanged : Tracked ⟨s.session,s.received ++ [],s.calls ++ []⟩ := by
    rw [List.append_nil,List.append_nil]
    exact tracked
  cases event with
  | setConnected => cases taken; exact quiet _ rfl rfl
  | setDisconnected => cases taken; exact quiet _ rfl rfl
  | message message pc =>
    cases taken
    cases message with
    | offer sdp => exact offerTracked tracked
    | iceCandidate candidate sdpMLineIndex sdpMid => exact candidateTracked tracked
    | iceComplete => exact unchanged
    | answer sdp => exact unchanged
    | error code message => exact unchanged
    | connected peerId => exact unchanged
    | disconnected reason => exact unchanged
    | clipboard text => exact unchanged

end Steps

theorem candidatesInOrder {peerId : Text} {s : Peer} {trace : List Reply}
    (run : Machine.Reaches (peer peerId) s trace) : InOrder s := by
  have tracked : Tracked s := by
    refine Machine.runInvariant (fun s _ => Tracked s) ?_ (fun tracked _ taken => trackedStep tracked taken) run
    refine ⟨⟨rfl,?_,fun _ => rfl⟩,?_⟩
    · intro before init after same
      cases before <;> cases same
    · constructor
      · intro set; cases set
      · rintro ⟨sdp,member⟩; cases member
  exact tracked.ordered

def accepting : PcAnswers := ⟨.ok (),.ok (),.ok (),.ok "v=0".toList,.ok ()⟩

theorem twoCandidatesInOrder : ∃ s trace, Machine.Reaches (peer "p".toList) s trace ∧ s.received.length = 2 ∧ InOrder s := by
  have first := Machine.runStep (.start : Machine.Reaches (peer "p".toList) _ _)
    (.message (.iceCandidate "a".toList none none) accepting) trivial rfl
  have offered := Machine.runStep first (.message (.offer "v=0".toList) accepting) trivial rfl
  have second := Machine.runStep offered (.message (.iceCandidate "b".toList none none) accepting) trivial rfl
  exact ⟨_,_,second,rfl,candidatesInOrder second⟩

end Vscreen.Signaling
