import Vscreen.RtspParser

/-! The sessions of the RTSP server and their manager (session.rs), with what
tokio keeps for them: the sender tasks spawned and aborted and the tokens
cancelled. A task is its place in the order of spawning. The clock and the drawn
session id are arguments. -/
namespace Vscreen.Rtsp

abbrev TaskId := Nat
abbrev CancelToken := Nat

structure SocketAddr where
  ip : IpAddr
  port : UInt16

structure TrackInfo where
  trackId : UInt8
  mediaType : MediaType
  clientRtpPort : UInt16
  clientRtcpPort : UInt16
  serverRtpPort : UInt16
  serverRtcpPort : UInt16
  interleavedChannels : Option (UInt8 × UInt8)
  rtpTask : Option TaskId
  deriving DecidableEq, Repr

inductive SessionState where
  | ready
  | playing
  | paused
  deriving DecidableEq, Repr

structure RtspSession where
  id : SessionId
  instanceId : InstanceId
  state : SessionState
  clientAddr : SocketAddr
  mediaConfig : MediaConfig
  quality : QualityTier
  tracks : List TrackInfo
  createdAt : Time
  lastActivity : Time
  cancel : CancelToken

structure Sender where
  task : TaskId
  session : SessionId
  trackId : UInt8
  mediaType : MediaType
  instanceId : InstanceId
  clientRtpAddr : SocketAddr
  clientRtcpAddr : SocketAddr
  serverRtpPort : UInt16
  serverRtcpPort : UInt16
  interleaved : Option (UInt8 × UInt8)
  quality : QualityTier
  cancel : CancelToken

def tasksOf (tracks : List TrackInfo) : List TaskId := tracks.filterMap (·.rtpTask)

def clearTasks (tracks : List TrackInfo) : List TrackInfo := tracks.map fun t => {t with rtpTask := none}

namespace RtspSession

def touch (s : RtspSession) (now : Time) : RtspSession := {s with lastActivity := now}

def isExpired (s : RtspSession) (now : Time) (timeout : Duration) : Bool := now - s.lastActivity > timeout

def addTrack (s : RtspSession) (trackId : UInt8) (mediaType : MediaType)
    (clientRtpPort clientRtcpPort serverRtpPort serverRtcpPort : UInt16) (now : Time) : RtspSession :=
  let t : TrackInfo := ⟨trackId,mediaType,clientRtpPort,clientRtcpPort,serverRtpPort,serverRtcpPort,none,none⟩
  touch {s with tracks := s.tracks ++ [t]} now

def addInterleavedTrack (s : RtspSession) (trackId : UInt8) (mediaType : MediaType)
    (rtpChannel rtcpChannel : UInt8) (now : Time) : RtspSession :=
  let t : TrackInfo := ⟨trackId,mediaType,0,0,0,0,some (rtpChannel,rtcpChannel),none⟩
  touch {s with tracks := s.tracks ++ [t]} now

def track (s : RtspSession) (trackId : UInt8) : Option TrackInfo := s.tracks.find? (·.trackId = trackId)

def trackByType (s : RtspSession) (mediaType : MediaType) : Option TrackInfo :=
  s.tracks.find? (·.mediaType = mediaType)

def play (s : RtspSession) (now : Time) : Except Text RtspSession := match s.state with
  | .ready => .ok (touch {s with state := .playing} now)
  | .paused => .ok (touch {s with state := .playing} now)
  | .playing => .ok s

def pause (s : RtspSession) (now : Time) : Except Text RtspSession := match s.state with
  | .playing => .ok (touch {s with state := .paused} now)
  | .paused => .ok s
  | .ready => .error "cannot pause: session not started".toList

def teardown (s : RtspSession) : RtspSession × List TaskId :=
  ({s with tracks := clearTasks s.tracks},tasksOf s.tracks)

end RtspSession

-- The session manager, and what has been asked of the runtime. `expired` holds
-- the keys that a reaper has listed and not yet removed.
structure RtspSessionManager where
  sessions : Table Text RtspSession
  timeout : Duration
  expired : List Text
  spawned : List Sender
  aborted : List TaskId
  tokens : Nat
  cancelled : List CancelToken

namespace RtspSessionManager

def withTimeout (timeout : Duration) : RtspSessionManager := ⟨∅,timeout,[],[],[],0,[]⟩

def timeoutSecs (m : RtspSessionManager) : Nat := m.timeout / 10^9 % 2^32

def get (m : RtspSessionManager) (sessionId : Text) : Option RtspSession := m.sessions.get sessionId

def update (m : RtspSessionManager) (sessionId : Text) (s : RtspSession) : RtspSessionManager :=
  {m with sessions := m.sessions.put sessionId s}

def drawToken (m : RtspSessionManager) : RtspSessionManager := {m with tokens := m.tokens + 1}

def cancelToken (m : RtspSessionManager) (token : CancelToken) : RtspSessionManager :=
  {m with cancelled := token::m.cancelled}

def abort (m : RtspSessionManager) (tasks : List TaskId) : RtspSessionManager :=
  {m with aborted := tasks ++ m.aborted}

def spawn (m : RtspSessionManager) (senders : List Sender) : RtspSessionManager :=
  {m with spawned := m.spawned ++ senders}

def createSession (m : RtspSessionManager) (drawn : SessionId) (instanceId : InstanceId) (clientAddr : SocketAddr)
    (mediaConfig : MediaConfig) (quality : QualityTier) (now : Time) : RtspSessionManager :=
  m.drawToken.update drawn.name
    ⟨drawn,instanceId,.ready,clientAddr,mediaConfig,quality,[],now,now,m.tokens⟩

def touch (m : RtspSessionManager) (sessionId : Text) (now : Time) : RtspSessionManager :=
  match m.get sessionId with
  | none => m
  | some s => m.update sessionId (s.touch now)

def remove (m : RtspSessionManager) (sessionId : Text) : Option (RtspSessionManager × RtspSession) :=
  (m.get sessionId).map fun s =>
    ((cancelToken {m with sessions := m.sessions.del sessionId} s.cancel).abort s.teardown.2,s.teardown.1)

def isExpired (m : RtspSessionManager) (now : Time) (sessionId : Text) : Bool :=
  (m.get sessionId).any fun s => s.isExpired now m.timeout

def listExpired (m : RtspSessionManager) (now : Time) : RtspSessionManager :=
  {m with expired := m.expired ++ m.sessions.keys.filter (m.isExpired now)}

def removeExpired (m : RtspSessionManager) (sessionId : Text) : RtspSessionManager :=
  let m := {m with expired := m.expired.erase sessionId}
  match m.remove sessionId with
  | none => m
  | some (m',_) => m'

end RtspSessionManager
end Vscreen.Rtsp
