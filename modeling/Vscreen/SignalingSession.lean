import Vscreen.IceCandidates

/-! The signaling sessions of a browser (client.ts): its flags, its `PeerSession`, and the
WebSocket between them (ws.rs), one session after the other. A handler of the browser runs
up to where it waits for the peer connection, and others run before it goes on. -/
namespace Vscreen.Signaling

-- A handler of an answer that waits for `setRemoteDescription`, or for `addIceCandidate`
-- with the rest of its loop.
inductive Handler where
  | describing (sdp : Text)
  | flushing (rest : List RTCIceCandidateInit)
  deriving DecidableEq

structure Client where
  offered : Bool
  remoteDescriptionSet : Bool
  iceCandidateBuffer : List RTCIceCandidateInit
  handlers : List Handler
  calls : List PcCall

namespace Client

def onmessage (c : Client) (msg : SignalingMessage) : Client := match msg with
  | .answer sdp => {c with handlers := c.handlers ++ [.describing sdp]}
  | msg => match initOf msg with
    | none => c
    | some init =>
      if !c.remoteDescriptionSet then {c with iceCandidateBuffer := c.iceCandidateBuffer ++ [init]}
      else {c with calls := c.calls ++ [.addIceCandidate init]}

def flush (c : Client) (k : Nat) : List RTCIceCandidateInit → Client
  | [] => {c with iceCandidateBuffer := [], handlers := c.handlers.eraseIdx k}
  | init::rest => {c with calls := c.calls ++ [.addIceCandidate init], handlers := c.handlers.set k (.flushing rest)}

def settle (c : Client) (k : Nat) (done : Bool) : Option Client := match c.handlers[k]? with
  | none => none
  | some (.describing sdp) =>
    let c : Client := {c with calls := c.calls ++ [.setRemoteDescription sdp done]}
    if done then some ({c with remoteDescriptionSet := true}.flush k c.iceCandidateBuffer)
    else some {c with handlers := c.handlers.eraseIdx k}
  | some (.flushing rest) => some (c.flush k rest)

end Client

def TransportError.display : TransportError → Text
  | .signaling message => "signaling error: ".toList ++ message
  | .ice message => "ICE error: ".toList ++ message

structure Signaled where
  client : Client
  up : List SignalingMessage
  server : Peer
  outgoing : List SignalingMessage
  down : List SignalingMessage

namespace Signaled

inductive Event where
  | offer (sdp : Text)
  | clientGathers (candidate : Text) (sdpMLineIndex : Option UInt16) (sdpMid : Option Text)
  | clientComplete
  | serverReceives (pc : PcAnswers)
  | serverGathers (candidate : Text) (sdpMLineIndex : Option UInt16) (sdpMid : Option Text)
  | forward
  | clipboard (text : Text)
  | clientReceives
  | settled (k : Nat) (done : Bool)
  -- the next session, after `disconnect()` or a failed peer connection, which reset the
  -- flags and close the peer connection, or after `ws.onclose` alone, which keeps them
  | connect (peerId : Text) (reset : Bool)

inductive Output where
  | connected
  | clientGathered (init : RTCIceCandidateInit)
  | serverGathered (init : RTCIceCandidateInit)
  | dropped (init : RTCIceCandidateInit)
  deriving DecidableEq

def response : Reply → List SignalingMessage
  | .ok none => []
  | .ok (some response) => [response]
  | .error e => [.error "SIGNALING_ERROR".toList e.display]

def connect (s : Signaled) (peerId : Text) (reset : Bool) : Signaled :=
  ⟨⟨false,if reset then false else s.client.remoteDescriptionSet,if reset then [] else s.client.iceCandidateBuffer,
    s.client.handlers,[]⟩,[],⟨.new peerId,[],[]⟩,[],[.connected peerId]⟩

def step (s : Signaled) : Event → Option (Signaled × List Output)
  | .offer sdp => if s.client.offered then none
    else some ({s with client := {s.client with offered := true}, up := s.up ++ [.offer sdp]},[])
  | .clientGathers candidate sdpMLineIndex sdpMid =>
    some ({s with up := s.up ++ [.iceCandidate candidate sdpMLineIndex sdpMid]},
      [.clientGathered ⟨candidate,sdpMid,sdpMLineIndex,none⟩])
  | .clientComplete => some ({s with up := s.up ++ [.iceComplete]},[])
  | .serverReceives pc => match s.up with
    | [] => none
    | msg::rest =>
      let replied := response (s.server.session.handleSignaling pc msg).2.2
      some ({s with up := rest, server := s.server.receive msg pc, down := s.down ++ replied},[])
  | .serverGathers candidate sdpMLineIndex sdpMid =>
    if s.outgoing.length < 128 then
      some ({s with outgoing := s.outgoing ++ [.iceCandidate candidate sdpMLineIndex sdpMid]},
        [.serverGathered ⟨candidate,sdpMid,sdpMLineIndex,none⟩])
    else some (s,[.dropped ⟨candidate,sdpMid,sdpMLineIndex,none⟩])
  | .forward => match s.outgoing with
    | [] => none
    | msg::rest => some ({s with outgoing := rest, down := s.down ++ [msg]},[])
  | .clipboard text => some ({s with down := s.down ++ [.clipboard text]},[])
  | .clientReceives => match s.down with
    | [] => none
    | msg::rest => some ({s with down := rest, client := s.client.onmessage msg},[])
  | .settled k done => (s.client.settle k done).map fun c => ({s with client := c},[])
  | .connect peerId reset => some (s.connect peerId reset,[.connected])

end Signaled

def isAnswer : SignalingMessage → Bool
  | .answer _ => true
  | _ => false

def isOffer : SignalingMessage → Bool
  | .offer _ => true
  | _ => false

namespace Signaled

def toClient (s : Signaled) : List SignalingMessage := s.down ++ s.outgoing

def due (s : Signaled) : Nat := s.up.countP isOffer + s.toClient.countP isAnswer

inductive Stage (s : Signaled) : Prop where
  | before (idle : s.client.handlers = []) (unset : s.client.remoteDescriptionSet = false)
      (few : s.due ≤ if s.client.offered then 1 else 0)
  | describing (sdp : Text) (one : s.client.handlers = [.describing sdp]) (unset : s.client.remoteDescriptionSet = false)
      (offered : s.client.offered = true) (none : s.due = 0)
  | flushing (rest : List RTCIceCandidateInit) (one : s.client.handlers = [.flushing rest])
      (set : s.client.remoteDescriptionSet = true) (offered : s.client.offered = true) (none : s.due = 0)
  | done (idle : s.client.handlers = []) (set : s.client.remoteDescriptionSet = true)
      (empty : s.client.iceCandidateBuffer = []) (offered : s.client.offered = true) (none : s.due = 0)

end Signaled

def Client.pending (c : Client) : List RTCIceCandidateInit := match c.handlers with
  | .flushing rest::_ => rest
  | _ => c.iceCandidateBuffer

def candidates (messages : List SignalingMessage) : List RTCIceCandidateInit := messages.filterMap initOf

theorem candidatesAppend (first second : List SignalingMessage) : candidates (first ++ second) = candidates first ++ candidates second :=
  List.filterMap_append

theorem responseOf (s : PeerSession) (pc : PcAnswers) (msg : SignalingMessage) :
    candidates (Signaled.response (s.handleSignaling pc msg).2.2) = [] ∧
      (Signaled.response (s.handleSignaling pc msg).2.2).countP isAnswer ≤ [msg].countP isOffer := by
  have failed : ∀ e : TransportError, candidates (Signaled.response (.error e)) = [] ∧
      (Signaled.response (.error e)).countP isAnswer ≤ [msg].countP isOffer := fun e => ⟨rfl,Nat.zero_le _⟩
  cases msg with
  | offer sdp =>
    simp only [PeerSession.handleSignaling,PeerSession.handleOffer]
    split
    · exact failed _
    · split
      · exact failed _
      · simp only [PeerSession.answerOffer]
        split
        · exact failed _
        · split
          · exact failed _
          · exact ⟨rfl,Nat.le_refl _⟩
  | iceCandidate candidate index mid =>
    simp only [PeerSession.handleSignaling]
    split
    · exact failed _
    · exact ⟨rfl,Nat.zero_le _⟩
  | iceComplete => exact ⟨rfl,Nat.zero_le _⟩
  | answer sdp => exact failed _
  | error code message => exact failed _
  | connected peerId => exact failed _
  | disconnected reason => exact failed _
  | clipboard text => exact failed _

section Browser
variable {s s' : Signaled} {gathered : List RTCIceCandidateInit}

structure Browsing (s : Signaled) (gathered : List RTCIceCandidateInit) : Prop where
  stage : s.Stage
  set : s.client.remoteDescriptionSet = true ↔ RemoteSet s.client.calls
  noneEarly : NoneEarly s.client.calls
  all : (handed s.client.calls ++ s.client.pending ++ candidates s.toClient).Perm gathered

theorem browsingSame {more : List RTCIceCandidateInit} (browsing : Browsing s gathered) (client : s'.client = s.client)
    (due : s'.due ≤ s.due) (coming : candidates s'.toClient = candidates s.toClient ++ more) : Browsing s' (gathered ++ more) := by
  obtain ⟨stage,set,noneEarly,all⟩ := browsing
  refine ⟨?_,by rw [client]; exact set,by rw [client]; exact noneEarly,?_⟩
  · cases stage with
    | before idle unset few => exact .before (by rw [client]; exact idle) (by rw [client]; exact unset) (by rw [client]; exact due.trans few)
    | describing sdp one unset offered none =>
      exact .describing sdp (by rw [client]; exact one) (by rw [client]; exact unset) (by rw [client]; exact offered)
        (Nat.le_zero.mp (none ▸ due))
    | flushing rest one set offered none =>
      exact .flushing rest (by rw [client]; exact one) (by rw [client]; exact set) (by rw [client]; exact offered)
        (Nat.le_zero.mp (none ▸ due))
    | done idle set empty offered none =>
      exact .done (by rw [client]; exact idle) (by rw [client]; exact set) (by rw [client]; exact empty)
        (by rw [client]; exact offered) (Nat.le_zero.mp (none ▸ due))
  · rw [client,coming,← List.append_assoc]
    exact all.append_right more

theorem browsingQuiet (browsing : Browsing s gathered) (client : s'.client = s.client) (due : s'.due ≤ s.due)
    (coming : candidates s'.toClient = candidates s.toClient) : Browsing s' gathered := by
  have kept := browsingSame browsing client due (coming.trans (List.append_nil _).symm)
  rwa [List.append_nil] at kept

section Candidate
variable {rest : List SignalingMessage} {init : RTCIceCandidateInit}

end Candidate

end Browser

def clientGatheredOf : Signaled.Output → Option RTCIceCandidateInit
  | .clientGathered init => some init
  | _ => none

def serverGatheredOf : Signaled.Output → Option RTCIceCandidateInit
  | .serverGathered init => some init
  | _ => none

def lastSession (trace : List Signaled.Output) : List Signaled.Output :=
  (trace.reverse.takeWhile fun o => o ≠ .connected).reverse

def clientGathered (trace : List Signaled.Output) : List RTCIceCandidateInit := (lastSession trace).filterMap clientGatheredOf

def serverGathered (trace : List Signaled.Output) : List RTCIceCandidateInit := (lastSession trace).filterMap serverGatheredOf

structure Exchanged (s : Signaled) (trace : List Signaled.Output) : Prop where
  server : Tracked s.server
  sent : s.server.received ++ candidates s.up = clientGathered trace
  browser : Browsing s (serverGathered trace)

section Steps
variable {s s' : Signaled} {trace out : List Signaled.Output} {peerId : Text}

theorem exchangedQuiet (server : Tracked s'.server) (sent : s'.server.received ++ candidates s'.up = clientGathered trace)
    (browser : Browsing s' (serverGathered trace)) : Exchanged s' (trace ++ []) := by
  rw [List.append_nil]
  exact ⟨server,sent,browser⟩

theorem serverReceives (peerId : Text) {msg : SignalingMessage} {rest : List SignalingMessage} {pc : PcAnswers} (exchanged : Exchanged s trace)
    {replied : List SignalingMessage} (next : s.up = msg::rest)
    (replies : Signaled.response (s.server.session.handleSignaling pc msg).2.2 = replied) :
    Exchanged {s with up := rest, server := s.server.receive msg pc, down := s.down ++ replied} (trace ++ []) := by
  obtain ⟨server,sent,browser⟩ := exchanged
  obtain ⟨silent,answers⟩ := responseOf s.server.session pc msg
  rw [replies] at silent answers
  refine exchangedQuiet ?_ ?_ ?_
  · have taken : (peer peerId).step s.server (.message msg pc) = some (s.server.receive msg pc,_) := rfl
    exact trackedStep server taken
  · rw [next] at sent
    rw [← sent]
    change s.server.received ++ (initOf msg).toList ++ candidates rest = _
    rw [List.append_assoc]
    refine congrArg _ ?_
    simp only [candidates,List.filterMap_cons]
    cases initOf msg with
    | none => rfl
    | some init => rfl
  · refine browsingQuiet browser rfl ?_ ?_
    · simp only [Signaled.due,Signaled.toClient,next,List.countP_append,List.countP_cons,List.countP_nil] at answers ⊢
      omega
    · simp only [Signaled.toClient,candidatesAppend,silent,List.append_nil]

end Steps

end Vscreen.Signaling
