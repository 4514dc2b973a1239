import Vscreen.AppState

/-! The endpoints of one audio stream (handlers.rs): `audio_stream_info` and
`audio_stream_teardown`, both under the path of an instance and a session. -/
namespace Vscreen.Server
open Registry (VScreenError)
open Rtsp (RtspSession RtspSessionManager SocketAddr MediaConfig QualityTier MediaType)

inductive StatusCode where
  | ok
  | notFound
  | serviceUnavailable
  deriving DecidableEq, Repr

structure TrackInfoSerialized where
  trackId : UInt8
  mediaType : MediaType
  clientRtpPort : UInt16
  serverRtpPort : UInt16
  deriving DecidableEq

structure SessionInfo where
  sessionId : Text
  instanceId : Text
  state : Rtsp.SessionState
  mediaConfig : MediaConfig
  quality : QualityTier
  clientAddr : SocketAddr
  tracks : List TrackInfoSerialized

def sessionInfo (s : RtspSession) : SessionInfo :=
  ⟨s.id.name,s.instanceId.name,s.state,s.mediaConfig,s.quality,s.clientAddr,
    s.tracks.map fun t => ⟨t.trackId,t.mediaType,t.clientRtpPort,t.serverRtpPort⟩⟩

inductive StreamBody where
  | empty
  | error (message : Text)
  | info (i : SessionInfo)
  | done

structure StreamResponse where
  status : StatusCode
  body : StreamBody

def requireSupervisor (s : AppState) (id : Text) : Except StreamResponse InstanceSupervisor :=
  match s.registry.get ⟨id⟩ with
  | .error _ => .error ⟨.notFound,.error ("instance not found: ".toList ++ id)⟩
  | .ok _ => match s.getSupervisor ⟨id⟩ with
    | none => .error ⟨.serviceUnavailable,.error ("no supervisor running for instance: ".toList ++ id)⟩
    | some sup => .ok sup

def sessionManager (s : AppState) (started : Bool) : Except StreamResponse RtspSessionManager :=
  if started then .ok s.rtspSessionManager else .error ⟨.serviceUnavailable,.error "RTSP server not running".toList⟩

def audioStreamInfo (s : AppState) (started : Bool) (id sessionId : Text) : StreamResponse :=
  match requireSupervisor s id with
  | .error response => response
  | .ok _ => match sessionManager s started with
    | .error response => response
    | .ok mgr => match mgr.get sessionId with
      | none => ⟨.notFound,.empty⟩
      | some session =>
        let info := sessionInfo session
        if info.instanceId ≠ id then ⟨.notFound,.empty⟩ else ⟨.ok,.info info⟩

def audioStreamTeardown (s : AppState) (started : Bool) (id sessionId : Text) : AppState × StreamResponse :=
  match requireSupervisor s id with
  | .error response => (s,response)
  | .ok _ => match sessionManager s started with
    | .error response => (s,response)
    | .ok mgr => match mgr.remove sessionId with
      | some (mgr,_) => ({s with rtspSessionManager := mgr},⟨.ok,.done⟩)
      | none => (s,⟨.notFound,.empty⟩)

def Removed (s s' : AppState) (sessionId : Text) : Prop := ∀ k,
  s'.rtspSessionManager.get k = if k = sessionId then none else s.rtspSessionManager.get k

/-- The teardown of a session of the instance removes it; one of another instance is not
found, and both endpoints find the same sessions. -/
structure StaysInside (s : AppState) (started : Bool) (id sessionId : Text) : Prop where
  other : ∀ session, s.rtspSessionManager.get sessionId = some session → session.instanceId.name ≠ id →
    (audioStreamTeardown s started id sessionId).2.status = .notFound ∧ (audioStreamTeardown s started id sessionId).1 = s
  own : (∀ session, s.rtspSessionManager.get sessionId = some session → session.instanceId.name = id) →
    Removed s (audioStreamTeardown s started id sessionId).1 sessionId
  agree : (audioStreamInfo s started id sessionId).status = .ok ↔
    (audioStreamTeardown s started id sessionId).2.status = .ok

inductive Serving where
  | unknown
  | idle
  | running
  deriving DecidableEq

def serving (s : AppState) (started : Bool) (id : Text) : Serving := match s.registry.get ⟨id⟩ with
  | .error _ => .unknown
  | .ok _ => if (s.getSupervisor ⟨id⟩).isSome ∧ started then .running else .idle

/-- Where a request gets to the sessions, the session is one of the instance; where the
instance is unknown, it is not. -/
def TeardownFits (s : AppState) (started : Bool) (id sessionId : Text) : Prop :=
  ∀ session, s.rtspSessionManager.get sessionId = some session → match serving s started id with
    | .unknown => session.instanceId.name ≠ id
    | .idle => False
    | .running => session.instanceId.name = id

section Teardown
variable {s : AppState} {started : Bool} {id sessionId : Text}

theorem servingUnknown (unknown : serving s started id = .unknown) :
    audioStreamInfo s started id sessionId = ⟨.notFound,.error ("instance not found: ".toList ++ id)⟩ ∧
      audioStreamTeardown s started id sessionId = (s,⟨.notFound,.error ("instance not found: ".toList ++ id)⟩) := by
  unfold serving at unknown
  split at unknown
  · rename_i e missing
    rw [audioStreamInfo,audioStreamTeardown,requireSupervisor,missing]
    exact ⟨rfl,rfl⟩
  · split at unknown <;> cases unknown

theorem servingIdle (idle : serving s started id = .idle) : ∃ message,
    audioStreamInfo s started id sessionId = ⟨.serviceUnavailable,.error message⟩ ∧
      audioStreamTeardown s started id sessionId = (s,⟨.serviceUnavailable,.error message⟩) := by
  unfold serving at idle
  split at idle
  · cases idle
  · rename_i entry found
    rw [audioStreamInfo,audioStreamTeardown,requireSupervisor,found]
    cases sup : s.getSupervisor ⟨id⟩ with
    | none => exact ⟨_,rfl,rfl⟩
    | some sup' =>
      cases started with
      | false => exact ⟨_,rfl,rfl⟩
      | true => simp [sup] at idle

theorem servingRunning (running : serving s started id = .running) :
    audioStreamInfo s started id sessionId = (match s.rtspSessionManager.get sessionId with
      | none => ⟨.notFound,.empty⟩
      | some session =>
        if session.instanceId.name ≠ id then ⟨.notFound,.empty⟩ else ⟨.ok,.info (sessionInfo session)⟩) ∧
      audioStreamTeardown s started id sessionId = (match s.rtspSessionManager.remove sessionId with
        | some (mgr,_) => ({s with rtspSessionManager := mgr},⟨.ok,.done⟩)
        | none => (s,⟨.notFound,.empty⟩)) := by
  unfold serving at running
  split at running
  · cases running
  · rename_i entry found
    split at running
    · rename_i both
      obtain ⟨some,rfl⟩ := both
      obtain ⟨sup,there⟩ := Option.isSome_iff_exists.mp some
      rw [audioStreamInfo,audioStreamTeardown,requireSupervisor,found,there]
      exact ⟨rfl,rfl⟩
    · cases running

theorem removedMissing (absent : s.rtspSessionManager.get sessionId = none) : Removed s s sessionId := by
  intro k
  split
  · rename_i same
    rw [same,absent]
  · rfl

theorem removedRemove {mgr : RtspSessionManager} {session : RtspSession}
    (removed : s.rtspSessionManager.remove sessionId = some (mgr,session)) :
    Removed s {s with rtspSessionManager := mgr} sessionId := by
  obtain ⟨session,-,same⟩ := Option.map_eq_some_iff.mp removed
  cases same
  intro k
  simp [RtspSessionManager.get,RtspSessionManager.abort,RtspSessionManager.cancelToken]

theorem removeGone (absent : s.rtspSessionManager.get sessionId = none) :
    s.rtspSessionManager.remove sessionId = none := by
  rw [RtspSessionManager.remove,absent]
  rfl

theorem removeFound {session : RtspSession} (found : s.rtspSessionManager.get sessionId = some session) :
    ∃ mgr, s.rtspSessionManager.remove sessionId = some (mgr,session.teardown.1) := by
  rw [RtspSessionManager.remove,found]
  exact ⟨_,rfl⟩

theorem missingInside (absent : s.rtspSessionManager.get sessionId = none) : StaysInside s started id sessionId where
  other session there := by
    rw [absent] at there
    cases there
  own _ := by
    cases serves : serving s started id with
    | unknown =>
      rw [(servingUnknown serves).2]
      exact removedMissing absent
    | idle =>
      obtain ⟨message,-,same⟩ := @servingIdle s started id sessionId serves
      rw [same]
      exact removedMissing absent
    | running =>
      rw [(servingRunning serves).2,removeGone absent]
      exact removedMissing absent
  agree := by
    cases serves : serving s started id with
    | unknown => rw [(servingUnknown serves).1,(servingUnknown serves).2]
    | idle =>
      obtain ⟨message,info,same⟩ := @servingIdle s started id sessionId serves
      rw [info,same]
    | running => rw [(servingRunning serves).1,(servingRunning serves).2,absent,removeGone absent]

theorem keptForeign {session : RtspSession} (inside : StaysInside s started id sessionId)
    (found : s.rtspSessionManager.get sessionId = some session)
    (same : (audioStreamTeardown s started id sessionId).1 = s) : session.instanceId.name ≠ id := by
  intro own
  have gone := inside.own (fun other there => Option.some.inj (found.symm.trans there) ▸ own) sessionId
  rw [same,found,if_pos rfl] at gone
  cases gone

theorem insideFits (inside : StaysInside s started id sessionId) : TeardownFits s started id sessionId := by
  intro session found
  cases serves : serving s started id with
  | unknown => exact keptForeign inside found (by rw [(servingUnknown serves).2])
  | idle =>
    obtain ⟨message,-,same⟩ := @servingIdle s started id sessionId serves
    have notFound := (inside.other session found (keptForeign inside found (by rw [same]))).1
    rw [same] at notFound
    cases notFound
  | running =>
    by_contra foreign
    have notFound := (inside.other session found foreign).1
    obtain ⟨mgr,removed⟩ := removeFound found
    rw [(servingRunning serves).2,removed] at notFound
    cases notFound

theorem fitsInside {session : RtspSession} (found : s.rtspSessionManager.get sessionId = some session)
    (fits : TeardownFits s started id sessionId) : StaysInside s started id sessionId := by
  have fit := fits session found
  cases serves : serving s started id with
  | unknown =>
    rw [serves] at fit
    refine ⟨fun other _ _ => ?_,fun own => (fit (own session found)).elim,?_⟩
    · rw [(servingUnknown serves).2]
      exact ⟨rfl,rfl⟩
    · rw [(servingUnknown serves).1,(servingUnknown serves).2]
  | idle =>
    rw [serves] at fit
    exact fit.elim
  | running =>
    rw [serves] at fit
    obtain ⟨mgr,removed⟩ := removeFound found
    refine ⟨fun other there foreign => ?_,fun _ => ?_,?_⟩
    · cases Option.some.inj (found.symm.trans there)
      exact (foreign fit).elim
    · rw [(servingRunning serves).2,removed]
      exact removedRemove removed
    · rw [(servingRunning serves).1,(servingRunning serves).2,found,removed]
      dsimp only
      rw [if_neg (not_not.mpr fit)]

end Teardown

theorem teardownInside (s : AppState) (started : Bool) (id sessionId : Text) :
    StaysInside s started id sessionId ↔ TeardownFits s started id sessionId := by
  refine ⟨insideFits,fun fits => ?_⟩
  cases found : s.rtspSessionManager.get sessionId with
  | none => exact missingInside found
  | some session => exact fitsInside found fits

def streamHost : SocketAddr := ⟨⟨false,"10.0.0.2".toList,by decide⟩,5004⟩

def hostedConfig (name : Text) : InstanceConfig :=
  ⟨⟨name⟩,"ws://127.0.0.1:9222".toList,"dev.monitor".toList,none,.default,.default,none⟩

def twoInstances : AppState :=
  let empty : AppState := ⟨4,∅,∅,.start false,.withTimeout (60 * 10^9),[],[]⟩
  let sup : InstanceSupervisor := ⟨0,(1920,1080),30,.h264⟩
  let s := (empty.createInstance (hostedConfig "a".toList)).1
  let s := (s.createInstance (hostedConfig "b".toList)).1
  let s := (s.setSupervisor "a".toList sup).setSupervisor "b".toList sup
  {s with rtspSessionManager := s.rtspSessionManager.createSession ⟨"s".toList⟩ ⟨"b".toList⟩ streamHost .audioOnly .low 0}

theorem foreignTeardown : ¬ StaysInside twoInstances true "a".toList "s".toList := by
  intro inside
  have answered : (audioStreamTeardown twoInstances true "a".toList "s".toList).2.status = .ok := by decide +kernel
  have foreign : (twoInstances.rtspSessionManager.get "s".toList).map (·.instanceId.name) = some "b".toList := by
    decide +kernel
  obtain ⟨session,found,name⟩ := Option.map_eq_some_iff.mp foreign
  have notFound := (inside.other session found (by rw [name]; decide)).1
  rw [answered] at notFound
  cases notFound

end Vscreen.Server
