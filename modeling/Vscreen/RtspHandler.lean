import Vscreen.Machine
import Vscreen.RtspSession

/-! The RTSP request handlers (handler.rs). A handler holds the entry of its
session from the lookup to its answer, and the id of a new session is unknown to
other connections before the answer, so that a request is one step. What the
instance lookup and the port probes answer is part of the step. -/
namespace Vscreen.Rtsp
open Text

structure InstanceLookup where
  instanceExists : Text → Bool
  subscribeAudio : Text → Bool
  subscribeVideo : Text → Bool
  videoResolution : Text → Option (UInt32 × UInt32)
  videoFramerate : Text → Option UInt32
  videoCodec : Text → VideoCodec

def InstanceLookup.subscribe (l : InstanceLookup) : MediaType → Text → Bool
  | .audio => l.subscribeAudio
  | .video => l.subscribeVideo

abbrev AssignedPort := {p : UInt16 // p ≠ 0}

-- What the system answers to the binds of `allocate_port_pair`: the first probe,
-- whether the port after it is free, the second probe.
structure PortProbes where
  rtp : Option AssignedPort
  nextFree : Bool
  rtcp : Option AssignedPort

def allocatePortPair (probes : PortProbes) : Option (UInt16 × UInt16) := match probes.rtp with
  | none => none
  | some rtp =>
    if probes.nextFree then some (rtp,rtp + 1)
    else match probes.rtcp with
      | none => none
      | some rtcp => some (rtp,rtcp)

theorem allocatedCases {probes : PortProbes} {rtp rtcp : UInt16} (allocated : allocatePortPair probes = some (rtp,rtcp)) :
    ∃ first, probes.rtp = some first ∧ rtp = first ∧ ((probes.nextFree = true ∧ rtcp = first + 1) ∨
      (probes.nextFree = false ∧ ∃ second, probes.rtcp = some second ∧ rtcp = second)) := by
  unfold allocatePortPair at allocated
  split at allocated
  · contradiction
  · rename_i first found
    split at allocated
    · rename_i free
      cases allocated
      exact ⟨first,found,rfl,.inl ⟨free,rfl⟩⟩
    · rename_i used
      split at allocated
      · contradiction
      · rename_i second again
        cases allocated
        exact ⟨first,found,rfl,.inr ⟨by simpa using used,second,again,rfl⟩⟩

abbrev ConnectionId := Nat

structure Exchange where
  request : RtspRequest
  clientAddr : SocketAddr
  serverIp : IpAddr
  lookup : InstanceLookup
  probes : PortProbes
  drawn : SessionId
  now : Time

def resolveQualityTier (u : CaseMapping) (params : Table Text Text) : QualityTier :=
  match (params.get "tier".toList).bind (QualityTier.fromName u) with
  | some tier => tier
  | none => match (params.get "kbps".toList).bind (parseUnsigned (2^32)) with
    | some kbps => .customOf (UInt32.ofNat kbps) ((params.get "channels".toList).bind TransportHeader.parseU16)
    | none => .high

section Setup

def resolveTrack (trackId : Option UInt8) (media : MediaConfig) : Option (UInt8 × MediaType) := match trackId with
  | some 0 => some (0,.video)
  | some 1 => some (1,.audio)
  | none =>
    if media.audio && !media.video then some (1,.audio)
    else if media.video && !media.audio then some (0,.video)
    else some (1,.audio)
  | some _ => none

theorem resolvedKind {trackId : Option UInt8} {media : MediaConfig} {i : UInt8} {kind : MediaType}
    (resolved : resolveTrack trackId media = some (i,kind)) :
    (i = 0 ∧ kind = .video) ∨ (i = 1 ∧ kind = .audio) := by
  unfold resolveTrack at resolved
  split at resolved
  · cases resolved; exact .inl ⟨rfl,rfl⟩
  · cases resolved; exact .inr ⟨rfl,rfl⟩
  · split at resolved
    · cases resolved; exact .inr ⟨rfl,rfl⟩
    · split at resolved
      · cases resolved; exact .inl ⟨rfl,rfl⟩
      · cases resolved; exact .inr ⟨rfl,rfl⟩
  · contradiction

structure SetupPlan where
  instanceId : Text
  transport : TransportHeader
  serverRtpPort : UInt16
  serverRtcpPort : UInt16
  quality : QualityTier
  mediaConfig : MediaConfig
  trackId : UInt8
  mediaType : MediaType

def planSetup (u : CaseMapping) (x : Exchange) : Except RtspResponse SetupPlan :=
  let request := x.request
  match extractInstanceId request.url with
  | none => .error (.notFound request.cseq)
  | some instanceId =>
    if !x.lookup.instanceExists instanceId then .error (.notFound request.cseq)
    else match request.headers.get "transport".toList with
    | none => .error (.unsupportedTransport request.cseq)
    | some transportStr => match TransportHeader.parse u transportStr with
      | .error _ => .error (.unsupportedTransport request.cseq)
      | .ok transport => match if transport.isTcpInterleaved then some (0,0) else allocatePortPair x.probes with
        | none => .error (.internalError request.cseq)
        | some (serverRtpPort,serverRtcpPort) =>
          let params := extractQueryParams u request.url
          let quality := resolveQualityTier u params
          let mediaConfig := parseMediaConfig u request.url
          match resolveTrack (extractTrackId request.url) mediaConfig with
          | none => .error (.notFound request.cseq)
          | some (trackId,mediaType) =>
            .ok ⟨instanceId,transport,serverRtpPort,serverRtcpPort,quality,mediaConfig,trackId,mediaType⟩

structure Planned (u : CaseMapping) (x : Exchange) (p : SetupPlan) : Prop where
  instanceId : extractInstanceId x.request.url = some p.instanceId
  ports : p.transport.isTcpInterleaved = false →
    allocatePortPair x.probes = some (p.serverRtpPort,p.serverRtcpPort)
  track : resolveTrack (extractTrackId x.request.url) (parseMediaConfig u x.request.url) = some (p.trackId,p.mediaType)
  media : p.mediaConfig = parseMediaConfig u x.request.url
  quality : p.quality = resolveQualityTier u (extractQueryParams u x.request.url)

theorem planCases (u : CaseMapping) (x : Exchange) : (∃ p, planSetup u x = .ok p ∧ Planned u x p) ∨
    ∃ status reason, status ≠ 200 ∧ planSetup u x = .error (.new status reason x.request.cseq) := by
  have notFound : (404 : UInt16) ≠ 200 := by decide
  have unsupported : (461 : UInt16) ≠ 200 := by decide
  unfold planSetup
  dsimp only
  split
  · exact .inr ⟨_,_,notFound,rfl⟩
  · rename_i instanceId accepted
    split
    · exact .inr ⟨_,_,notFound,rfl⟩
    · split
      · exact .inr ⟨_,_,unsupported,rfl⟩
      · split
        · exact .inr ⟨_,_,unsupported,rfl⟩
        · rename_i transport _
          split
          · exact .inr ⟨_,_,(by decide : (500 : UInt16) ≠ 200),rfl⟩
          · rename_i rtp rtcp allocated
            split
            · exact .inr ⟨_,_,notFound,rfl⟩
            · rename_i i kind track
              refine .inl ⟨_,rfl,accepted,fun udp => ?_,track,rfl,rfl⟩
              rwa [if_neg (by simpa using udp)] at allocated

theorem planSpec {u : CaseMapping} {x : Exchange} {p : SetupPlan} (planned : planSetup u x = .ok p) : Planned u x p := by
  rcases planCases u x with ⟨p',made,facts⟩ | ⟨_,_,_,refused⟩
  · cases planned.symm.trans made
    exact facts
  · rw [planned] at refused
    contradiction

theorem planError {u : CaseMapping} {x : Exchange} {r : RtspResponse} (failed : planSetup u x = .error r) :
    ∃ status reason, status ≠ 200 ∧ r = .new status reason x.request.cseq := by
  rcases planCases u x with ⟨_,made,_⟩ | ⟨status,reason,other,refused⟩
  · rw [failed] at made
    contradiction
  · cases failed.symm.trans refused
    exact ⟨status,reason,other,rfl⟩

def addTrackToSession (p : SetupPlan) (s : RtspSession) (now : Time) : RtspSession := match p.transport.mode with
  | .udpUnicast clientRtpPort clientRtcpPort =>
    s.addTrack p.trackId p.mediaType clientRtpPort clientRtcpPort p.serverRtpPort p.serverRtcpPort now
  | .tcpInterleaved rtpChannel rtcpChannel =>
    s.addInterleavedTrack p.trackId p.mediaType rtpChannel rtcpChannel now

def setupResponse (p : SetupPlan) (session : SessionId) (timeoutSecs : Nat) (cseq : UInt32) : RtspResponse :=
  ((RtspResponse.ok cseq).withSession session timeoutSecs).header "Transport".toList
    (p.transport.formatResponse p.serverRtpPort p.serverRtcpPort)

def setupExisting (m : RtspSessionManager) (x : Exchange) (p : SetupPlan) (existing : SessionId) :
    RtspSessionManager × RtspResponse := match m.get existing.name with
  | none => (m,.sessionNotFound x.request.cseq)
  | some s =>
    if s.instanceId.name ≠ p.instanceId then (m,.sessionNotFound x.request.cseq)
    else if (s.track p.trackId).isSome then (m,.new 455 "Method Not Valid in This State".toList x.request.cseq)
    else (m.update existing.name (addTrackToSession p s x.now),setupResponse p existing m.timeoutSecs x.request.cseq)

def setupNew (m : RtspSessionManager) (x : Exchange) (p : SetupPlan) : RtspSessionManager × RtspResponse :=
  let m := m.createSession x.drawn ⟨p.instanceId⟩ x.clientAddr p.mediaConfig p.quality x.now
  let m := match m.get x.drawn.name with
    | none => m
    | some s => m.update x.drawn.name (addTrackToSession p s x.now)
  (m,setupResponse p x.drawn m.timeoutSecs x.request.cseq)

def handleSetup (u : CaseMapping) (m : RtspSessionManager) (x : Exchange) : RtspSessionManager × RtspResponse :=
  match planSetup u x with
  | .error response => (m,response)
  | .ok p => match x.request.session with
    | some existing => setupExisting m x p existing
    | none => setupNew m x p

end Setup

section Play

def senderFor (s : RtspSession) (t : TrackInfo) (task : TaskId) : Sender where
  task := task
  session := s.id
  trackId := t.trackId
  mediaType := t.mediaType
  instanceId := s.instanceId
  clientRtpAddr := ⟨s.clientAddr.ip,t.clientRtpPort⟩
  clientRtcpAddr := ⟨s.clientAddr.ip,t.clientRtcpPort⟩
  serverRtpPort := t.serverRtpPort
  serverRtcpPort := t.serverRtcpPort
  interleaved := t.interleavedChannels
  quality := s.quality
  cancel := s.cancel

def startSenders (lookup : InstanceLookup) (s : RtspSession) : TaskId → List TrackInfo → List TrackInfo × List Sender
  | _,[] => ([],[])
  | next,t::rest =>
    if t.rtpTask.isSome ∨ ¬ lookup.subscribe t.mediaType s.instanceId.name then
      let started := startSenders lookup s next rest
      (t::started.1,started.2)
    else
      let started := startSenders lookup s (next + 1) rest
      ({t with rtpTask := some next}::started.1,senderFor s t next::started.2)

def handlePlay (m : RtspSessionManager) (x : Exchange) : RtspSessionManager × RtspResponse :=
  match x.request.session with
  | none => (m,.sessionNotFound x.request.cseq)
  | some sessionId => match m.get sessionId.name with
    | none => (m,.sessionNotFound x.request.cseq)
    | some s => match s.play x.now with
      | .error _ => (m,.new 455 "Method Not Valid in This State".toList x.request.cseq)
      | .ok s =>
        let started := startSenders x.lookup s m.spawned.length s.tracks
        ((m.spawn started.2).update sessionId.name {s with tracks := started.1},
          (RtspResponse.ok x.request.cseq).withSession sessionId m.timeoutSecs)

end Play

def handlePause (m : RtspSessionManager) (x : Exchange) : RtspSessionManager × RtspResponse :=
  match x.request.session with
  | none => (m,.sessionNotFound x.request.cseq)
  | some sessionId => match m.get sessionId.name with
    | none => (m,.sessionNotFound x.request.cseq)
    | some s => match s.pause x.now with
      | .error _ => (m,.new 455 "Method Not Valid in This State".toList x.request.cseq)
      | .ok s =>
        let stopped := {s with tracks := clearTasks s.tracks, cancel := m.tokens}
        ((((m.cancelToken s.cancel).abort (tasksOf s.tracks)).drawToken).update sessionId.name stopped,
          (RtspResponse.ok x.request.cseq).withSession sessionId m.timeoutSecs)

def handleTeardown (m : RtspSessionManager) (x : Exchange) : RtspSessionManager × RtspResponse :=
  match x.request.session with
  | none => (m,.sessionNotFound x.request.cseq)
  | some sessionId => match m.remove sessionId.name with
    | none => (m,.sessionNotFound x.request.cseq)
    | some (m',_) => (m',.ok x.request.cseq)

def handleGetParameter (m : RtspSessionManager) (x : Exchange) : RtspSessionManager × RtspResponse :=
  let m := match x.request.session with
    | none => m
    | some sessionId => match m.get sessionId.name with
      | none => m
      | some s => m.update sessionId.name (s.touch x.now)
  (m,.ok x.request.cseq)

section Cases
variable (m : RtspSessionManager) (x : Exchange)

theorem playCases :
    (∃ status reason, status ≠ 200 ∧ handlePlay m x = (m,.new status reason x.request.cseq)) ∨
      ∃ sessionId s s', x.request.session = some sessionId ∧ m.get sessionId.name = some s ∧ s.play x.now = .ok s' ∧
        handlePlay m x = ((m.spawn (startSenders x.lookup s' m.spawned.length s'.tracks).2).update sessionId.name
            {s' with tracks := (startSenders x.lookup s' m.spawned.length s'.tracks).1},
          (RtspResponse.ok x.request.cseq).withSession sessionId m.timeoutSecs) := by
  unfold handlePlay
  split
  · exact .inl ⟨_,_,(by decide : (454 : UInt16) ≠ 200),rfl⟩
  · rename_i sessionId named
    split
    · exact .inl ⟨_,_,(by decide : (454 : UInt16) ≠ 200),rfl⟩
    · rename_i s found
      split
      · exact .inl ⟨_,_,(by decide : (455 : UInt16) ≠ 200),rfl⟩
      · rename_i s' played
        exact .inr ⟨sessionId,s,s',named,found,played,rfl⟩

theorem pauseCases :
    (∃ status reason, status ≠ 200 ∧ handlePause m x = (m,.new status reason x.request.cseq)) ∨
      ∃ sessionId s s', x.request.session = some sessionId ∧ m.get sessionId.name = some s ∧ s.pause x.now = .ok s' ∧
        handlePause m x = ((((m.cancelToken s'.cancel).abort (tasksOf s'.tracks)).drawToken).update sessionId.name
            {s' with tracks := clearTasks s'.tracks, cancel := m.tokens},
          (RtspResponse.ok x.request.cseq).withSession sessionId m.timeoutSecs) := by
  unfold handlePause
  split
  · exact .inl ⟨_,_,(by decide : (454 : UInt16) ≠ 200),rfl⟩
  · rename_i sessionId named
    split
    · exact .inl ⟨_,_,(by decide : (454 : UInt16) ≠ 200),rfl⟩
    · rename_i s found
      split
      · exact .inl ⟨_,_,(by decide : (455 : UInt16) ≠ 200),rfl⟩
      · rename_i s' paused
        exact .inr ⟨sessionId,s,s',named,found,paused,rfl⟩

theorem teardownCases : handleTeardown m x = (m,.sessionNotFound x.request.cseq) ∨
    ∃ sessionId m' s, x.request.session = some sessionId ∧ m.remove sessionId.name = some (m',s) ∧
      handleTeardown m x = (m',.ok x.request.cseq) := by
  unfold handleTeardown
  split
  · exact .inl rfl
  · rename_i sessionId named
    split
    · exact .inl rfl
    · rename_i m' s removed
      exact .inr ⟨sessionId,m',s,named,removed,rfl⟩

theorem getParameterCases : handleGetParameter m x = (m,.ok x.request.cseq) ∨
    ∃ sessionId s, x.request.session = some sessionId ∧ m.get sessionId.name = some s ∧
      handleGetParameter m x = (m.update sessionId.name (s.touch x.now),.ok x.request.cseq) := by
  unfold handleGetParameter
  split
  · exact .inl rfl
  · rename_i sessionId named
    split
    · exact .inl rfl
    · rename_i s found
      exact .inr ⟨sessionId,s,named,found,rfl⟩

end Cases

def handleOptions (cseq : UInt32) : RtspResponse :=
  (RtspResponse.ok cseq).header "Public".toList
    "OPTIONS, DESCRIBE, SETUP, PLAY, PAUSE, TEARDOWN, GET_PARAMETER".toList

def describeParams (u : CaseMapping) (x : Exchange) (instanceId : Text) : SdpParams where
  instanceId := instanceId
  serverIp := x.serverIp
  sessionVersion := 1
  tier := resolveQualityTier u (extractQueryParams u x.request.url)
  ptimeMs := 20
  media := parseMediaConfig u x.request.url
  videoCodec := x.lookup.videoCodec instanceId
  videoWidth := ((x.lookup.videoResolution instanceId).getD (1920,1080)).1
  videoHeight := ((x.lookup.videoResolution instanceId).getD (1920,1080)).2
  framerate := (x.lookup.videoFramerate instanceId).getD 30

def handleDescribe (u : CaseMapping) (x : Exchange) : RtspResponse := match extractInstanceId x.request.url with
  | none => .notFound x.request.cseq
  | some instanceId =>
    if !x.lookup.instanceExists instanceId then .notFound x.request.cseq
    else ((RtspResponse.ok x.request.cseq).setBody "application/sdp".toList
        (generateSdp (describeParams u x instanceId))).header "Content-Base".toList x.request.url

def handleRequest (u : CaseMapping) (m : RtspSessionManager) (x : Exchange) : RtspSessionManager × RtspResponse :=
  match x.request.method with
  | .options => (m,handleOptions x.request.cseq)
  | .describe => (m,handleDescribe u x)
  | .setup => handleSetup u m x
  | .play => handlePlay m x
  | .pause => handlePause m x
  | .teardown => handleTeardown m x
  | .getParameter => handleGetParameter m x

def exchangeOf (request : RtspRequest) (drawn : Text) : Exchange where
  request := request
  clientAddr := ⟨⟨false,"127.0.0.1".toList,by decide⟩,40000⟩
  serverIp := ⟨false,"127.0.0.1".toList,by decide⟩
  lookup := ⟨fun _ => true,fun _ => true,fun _ => true,fun _ => none,fun _ => none,fun _ => .h264⟩
  probes := ⟨some ⟨6000,by decide⟩,true,none⟩
  drawn := ⟨drawn⟩
  now := 0

inductive Event where
  | request (x : Exchange)
  | keepalive (sessionId : Text) (now : Time)
  | reap (now : Time)
  | shutdown
  | removeExpired (sessionId : Text)
  | remove (sessionId : Text)

def server (u : CaseMapping) (timeout : Duration) : Machine RtspSessionManager Event RtspResponse where
  init := .withTimeout timeout
  step m
    | .request x => some ((handleRequest u m x).1,[(handleRequest u m x).2])
    | .keepalive sessionId now => some (m.touch sessionId now,[])
    | .reap now => some (m.listExpired now,[])
    | .shutdown => some ({m with expired := m.expired ++ m.sessions.keys},[])
    | .removeExpired sessionId => if sessionId ∈ m.expired then some (m.removeExpired sessionId,[]) else none
    | .remove sessionId => (m.remove sessionId).map fun r => (r.1,[])

end Vscreen.Rtsp
