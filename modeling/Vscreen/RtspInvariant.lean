import Vscreen.RtspSenders

/-! The change that each RTSP request, keepalive and removal makes, and from it
the session invariant in every run. -/
namespace Vscreen.Rtsp
open Text

theorem getUpdate (m : RtspSessionManager) (key : Text) (s : RtspSession) (k : Text) :
    (m.update key s).get k = if k = key then some s else m.get k := by
  simp [RtspSessionManager.update,RtspSessionManager.get]

theorem Change.refl (m : RtspSessionManager) : Change m m := .quiet rfl rfl rfl

theorem Change.before {m m₁ m' : RtspSessionManager} (step : Change m₁ m') (sessions : m₁.sessions = m.sessions)
    (spawned : m₁.spawned = m.spawned) (aborted : m₁.aborted = m.aborted) : Change m m' := by
  have same : ∀ k, m₁.get k = m.get k := fun k => by simp only [RtspSessionManager.get,sessions]
  cases step with
  | quiet sessions' spawned' aborted' =>
    exact .quiet (sessions'.trans sessions) (spawned'.trans spawned) (aborted'.trans aborted)
  | entry key new senders stopped after spawned' aborted' accounts sound =>
    simp only [same,spawned,aborted] at after spawned' aborted' accounts sound
    exact .entry key new senders stopped after spawned' aborted' accounts sound

theorem changeEdit {m : RtspSessionManager} {key : Text} {s s' : RtspSession} (found : m.get key = some s)
    (id : s'.id = s.id) (tracks : s'.tracks = s.tracks) (state : s.state = .playing → s'.state = .playing) :
    Change m (m.update key s') := by
  refine .entry key (some s') [] [] (getUpdate m key s') (by simp [RtspSessionManager.update]) rfl ?_ ?_
  · intro _
    rw [found]
    exact accountsSame fun n i => by rw [tracksOf,tracksOf,Option.map_some,Option.map_some,tracks]
  · intro sound s'' same
    cases Option.some.inj same
    have old := sound s found
    constructor
    · rw [id]; exact old.keyed
    · rw [tracks]; exact old.distinct
    · rw [tracks]; exact old.tracks
    · rw [tracks]
      intro t member running
      exact state (old.playing t member running)

theorem changeTouch (m : RtspSessionManager) (key : Text) (now : Time) : Change m (m.touch key now) := by
  rw [RtspSessionManager.touch]
  split
  · exact .refl m
  · rename_i s found
    exact changeEdit found rfl rfl id

theorem changeRemove {m m' : RtspSessionManager} {key : Text} {s : RtspSession}
    (removed : m.remove key = some (m',s)) : Change m m' := by
  obtain ⟨s,found,same⟩ := Option.map_eq_some_iff.mp removed
  cases same
  refine .entry key none [] (tasksOf s.tracks) ?_ (by simp [RtspSessionManager.abort,RtspSessionManager.cancelToken]) rfl ?_
    (by simp)
  · intro k
    simp [RtspSessionManager.get,RtspSessionManager.abort,RtspSessionManager.cancelToken]
  · intro _
    rw [found]
    exact accountsStopped notHeldNil

section Setup
variable {u : CaseMapping} {x : Exchange}

structure SetupPlan.Sound (p : SetupPlan) : Prop where
  kind : (p.trackId = 0 ∧ p.mediaType = .video) ∨ (p.trackId = 1 ∧ p.mediaType = .audio)
  ports : p.transport.isTcpInterleaved = false → p.serverRtpPort ≠ 0

theorem planSound {p : SetupPlan} (planned : planSetup u x = .ok p) : p.Sound where
  kind := resolvedKind (planSpec planned).track
  ports udp := by
    obtain ⟨first,-,rtp,-⟩ := allocatedCases ((planSpec planned).ports udp)
    exact rtp ▸ first.2

theorem addTrackSpec {p : SetupPlan} (sound : p.Sound) (s : RtspSession) (now : Time) :
    ∃ t : TrackInfo, (addTrackToSession p s now).tracks = s.tracks ++ [t] ∧ t.trackId = p.trackId ∧ t.Sound ∧
      t.rtpTask = none ∧ (addTrackToSession p s now).id = s.id ∧ (addTrackToSession p s now).state = s.state := by
  unfold addTrackToSession
  split
  · rename_i rtp rtcp mode
    have udp : p.serverRtpPort ≠ 0 := sound.ports (by rw [TransportHeader.isTcpInterleaved,mode])
    refine ⟨⟨p.trackId,p.mediaType,rtp,rtcp,p.serverRtpPort,p.serverRtcpPort,none,none⟩,rfl,rfl,?_,rfl,rfl,rfl⟩
    exact ⟨sound.kind,.inr ⟨.inr (.inr (.inl udp)),by simp⟩⟩
  · rename_i rtp rtcp mode
    refine ⟨⟨p.trackId,p.mediaType,0,0,0,0,some (rtp,rtcp),none⟩,rfl,rfl,?_,rfl,rfl,rfl⟩
    exact ⟨sound.kind,.inl ⟨rfl,by simp [TrackInfo.hasUdpPorts]⟩⟩

theorem soundAppend {key : Text} {s s' : RtspSession} {t : TrackInfo} (old : s.Sound key)
    (tracks : s'.tracks = s.tracks ++ [t]) (new : t.trackId ∉ s.tracks.map (·.trackId)) (sound : t.Sound)
    (idle : t.rtpTask = none) (id : s'.id = s.id) (state : s'.state = s.state) : s'.Sound key := by
  constructor
  · rw [id]; exact old.keyed
  · rw [tracks,List.map_append,List.nodup_append]
    refine ⟨old.distinct,by simp,?_⟩
    intro a member b last same
    rw [List.map_singleton,List.mem_singleton] at last
    exact new (last ▸ same ▸ member)
  · rw [tracks]
    intro t' member
    rcases List.mem_append.mp member with earlier | last
    · exact old.tracks t' earlier
    · cases List.mem_singleton.mp last; exact sound
  · rw [tracks,state]
    intro t' member running
    rcases List.mem_append.mp member with earlier | last
    · exact old.playing t' earlier running
    · cases List.mem_singleton.mp last
      simp [idle] at running

theorem trackAbsent {s : RtspSession} {i : UInt8} (absent : ¬ (s.track i).isSome) :
    i ∉ s.tracks.map (·.trackId) := by
  intro member
  obtain ⟨t,listed,same⟩ := List.mem_map.mp member
  exact absent (List.find?_isSome.mpr ⟨t,listed,by simpa using same⟩)

theorem changeSetupExisting {m : RtspSessionManager} {p : SetupPlan} {existing : SessionId} (sound : p.Sound) :
    Change m (setupExisting m x p existing).1 := by
  unfold setupExisting
  split
  · exact .refl m
  · rename_i s found
    split
    · exact .refl m
    · split
      · exact .refl m
      · rename_i absent
        obtain ⟨t,tracks,same,new,idle,id,state⟩ := addTrackSpec sound s x.now
        refine .entry existing.name (some (addTrackToSession p s x.now)) [] [] (getUpdate m _ _)
          (by simp [RtspSessionManager.update]) rfl ?_ ?_
        · intro _
          rw [found]
          refine accountsSame fun n i => ?_
          simp only [tracksOf,Option.map_some,Option.getD_some,tracks]
          exact heldAppendIdle idle n i
        · intro ok s' equal
          cases Option.some.inj equal
          exact soundAppend (ok s found) tracks (same ▸ trackAbsent absent) new idle id state

theorem changeSetupNew {m : RtspSessionManager} {p : SetupPlan} (sound : p.Sound)
    (fresh : m.get x.drawn.name = none) : Change m (setupNew m x p).1 := by
  let s : RtspSession :=
    ⟨x.drawn,⟨p.instanceId⟩,.ready,x.clientAddr,p.mediaConfig,p.quality,[],x.now,x.now,m.tokens⟩
  obtain ⟨t,tracks,same,new,idle,id,state⟩ := addTrackSpec sound s x.now
  have created : ∀ k, (m.createSession x.drawn ⟨p.instanceId⟩ x.clientAddr p.mediaConfig p.quality x.now).get k =
      if k = x.drawn.name then some s else m.get k := fun k => getUpdate m.drawToken x.drawn.name s k
  have result : (setupNew m x p).1 =
      (m.createSession x.drawn ⟨p.instanceId⟩ x.clientAddr p.mediaConfig p.quality x.now).update x.drawn.name
        (addTrackToSession p s x.now) := by
    simp only [setupNew,created,if_pos]
  rw [result]
  refine .entry x.drawn.name (some (addTrackToSession p s x.now)) [] [] ?_
    (by simp [RtspSessionManager.update,RtspSessionManager.createSession,RtspSessionManager.drawToken]) rfl ?_ ?_
  · intro k
    rw [getUpdate,created]
    split <;> rfl
  · intro _
    rw [fresh]
    refine accountsSame fun n i => ?_
    simp only [tracksOf,Option.map_some,Option.getD_some,tracks]
    exact heldAppendIdle idle n i
  · intro _ s' equal
    cases Option.some.inj equal
    have empty : s.Sound x.drawn.name := ⟨rfl,List.nodup_nil,by simp [s],by simp [s]⟩
    exact soundAppend empty tracks (by simp [s]) new idle id state

theorem changeSetup {m : RtspSessionManager} (fresh : m.get x.drawn.name = none) :
    Change m (handleSetup u m x).1 := by
  unfold handleSetup
  split
  · exact .refl m
  · rename_i p planned
    split
    · exact changeSetupExisting (planSound planned)
    · exact changeSetupNew (planSound planned) fresh

theorem setupResponseStatus (p : SetupPlan) (session : SessionId) (timeoutSecs : Nat) (cseq : UInt32) :
    (setupResponse p session timeoutSecs cseq).status = 200 := rfl

theorem setupErrorFrame (u : CaseMapping) (m : RtspSessionManager) (x : Exchange)
    (failed : (handleSetup u m x).2.status ≠ 200) : (handleSetup u m x).1 = m := by
  unfold handleSetup at failed ⊢
  split at failed
  · rename_i planned
    rfl
  · rename_i p planned
    split at failed
    · rename_i existing named
      unfold setupExisting at failed ⊢
      split at failed
      · rfl
      · rename_i s found
        split at failed
        · rename_i other
          rw [if_pos other]
        · rename_i here
          rw [if_neg here]
          split at failed
          · rename_i taken
            rw [if_pos taken]
          · exact absurd (setupResponseStatus ..) failed
    · exact absurd (setupResponseStatus ..) failed

end Setup

theorem playSpec {s s' : RtspSession} {now : Time} (played : s.play now = .ok s') :
    s'.id = s.id ∧ s'.tracks = s.tracks ∧ s'.state = .playing := by
  unfold RtspSession.play at played
  split at played <;> cases played
  · exact ⟨rfl,rfl,rfl⟩
  · exact ⟨rfl,rfl,rfl⟩
  · rename_i state
    exact ⟨rfl,rfl,state⟩

theorem changePlay (m : RtspSessionManager) (x : Exchange) : Change m (handlePlay m x).1 := by
  rcases playCases m x with ⟨_,_,-,same⟩ | ⟨sessionId,s,s',-,found,played,done⟩
  · rw [same]
    exact .refl m
  · rw [done]
    obtain ⟨id,tracks,state⟩ := playSpec played
    have cleared := startSendersTracks x.lookup s' m.spawned.length s'.tracks
    refine .entry sessionId.name
      (some {s' with tracks := (startSenders x.lookup s' m.spawned.length s'.tracks).1})
      (startSenders x.lookup s' m.spawned.length s'.tracks).2 [] ?_
      (by simp [RtspSessionManager.update,RtspSessionManager.spawn]) rfl ?_ ?_
    · intro k
      rw [getUpdate]
      rfl
    · intro sound
      have keyed : s'.id.name = sessionId.name := id ▸ (sound s found).keyed
      rw [found]
      simp only [tracksOf,Option.map_some,Option.getD_some,← tracks]
      exact startSendersAccounts keyed m.spawned.length s'.tracks
    · intro sound s'' equal
      cases Option.some.inj equal
      have old := sound s found
      constructor
      · exact id ▸ old.keyed
      · rw [idsOfCleared cleared,tracks]
        exact old.distinct
      · exact soundOfCleared cleared (tracks ▸ old.tracks)
      · intro _ _ _
        exact state

theorem pauseSpec {s s' : RtspSession} {now : Time} (paused : s.pause now = .ok s') :
    s'.id = s.id ∧ s'.tracks = s.tracks := by
  unfold RtspSession.pause at paused
  split at paused <;> cases paused <;> exact ⟨rfl,rfl⟩

theorem changePause (m : RtspSessionManager) (x : Exchange) : Change m (handlePause m x).1 := by
  rcases pauseCases m x with ⟨_,_,-,same⟩ | ⟨sessionId,s,s',-,found,paused,done⟩
  · rw [same]
    exact .refl m
  · rw [done]
    obtain ⟨id,tracks⟩ := pauseSpec paused
    refine .entry sessionId.name (some {s' with tracks := clearTasks s'.tracks, cancel := m.tokens}) []
      (tasksOf s'.tracks) ?_ ?_ rfl ?_ ?_
    · intro k
      rw [getUpdate]
      rfl
    · simp [RtspSessionManager.update,RtspSessionManager.drawToken,RtspSessionManager.abort,
        RtspSessionManager.cancelToken]
    · intro _
      rw [found]
      simp only [tracksOf,Option.map_some,Option.getD_some,← tracks]
      exact accountsStopped (notHeldCleared s'.tracks)
    · intro sound s'' equal
      cases Option.some.inj equal
      have old := sound s found
      have cleared := clearedTwice s'.tracks
      constructor
      · exact id ▸ old.keyed
      · rw [idsOfCleared cleared,tracks]
        exact old.distinct
      · exact soundOfCleared cleared (tracks ▸ old.tracks)
      · intro t member running
        obtain ⟨t',-,rfl⟩ := List.mem_map.mp member
        simp at running

theorem changeTeardown (m : RtspSessionManager) (x : Exchange) : Change m (handleTeardown m x).1 := by
  rcases teardownCases m x with same | ⟨_,_,_,-,removed,done⟩
  · rw [same]
    exact .refl m
  · rw [done]
    exact changeRemove removed

theorem changeGetParameter (m : RtspSessionManager) (x : Exchange) : Change m (handleGetParameter m x).1 := by
  unfold handleGetParameter
  dsimp only
  split
  · exact .refl m
  · exact changeTouch m _ x.now

theorem changeRemoveExpired (m : RtspSessionManager) (key : Text) : Change m (m.removeExpired key) := by
  unfold RtspSessionManager.removeExpired
  dsimp only
  split
  · exact .quiet rfl rfl rfl
  · rename_i m' s removed
    exact (changeRemove removed).before rfl rfl rfl

def FreshId (m : RtspSessionManager) : Event → Prop
  | .request x => m.get x.drawn.name = none
  | _ => True

theorem changeRequest {u : CaseMapping} {m : RtspSessionManager} {x : Exchange}
    (fresh : m.get x.drawn.name = none) : Change m (handleRequest u m x).1 := by
  unfold handleRequest
  split
  · exact .refl m
  · exact .refl m
  · exact changeSetup fresh
  · exact changePlay m x
  · exact changePause m x
  · exact changeTeardown m x
  · exact changeGetParameter m x

theorem stepChange {u : CaseMapping} {timeout : Duration} {m m' : RtspSessionManager} {e : Event}
    {out : List RtspResponse} (fresh : FreshId m e) (taken : (server u timeout).step m e = some (m',out)) :
    Change m m' := by
  cases e with
  | request x => cases taken; exact changeRequest fresh
  | keepalive key now => cases taken; exact changeTouch m key now
  | reap now => cases taken; exact .quiet rfl rfl rfl
  | shutdown => cases taken; exact .quiet rfl rfl rfl
  | removeExpired key =>
    simp only [server] at taken
    split at taken
    · cases taken; exact changeRemoveExpired m key
    · contradiction
  | remove key =>
    obtain ⟨r,removed,same⟩ := Option.map_eq_some_iff.mp taken
    cases same
    exact changeRemove removed

theorem accountedStart (timeout : Duration) : Accounted (.withTimeout timeout) where
  numbered := rfl
  past := by simp [RtspSessionManager.withTimeout]
  live := by simp [RtspSessionManager.withTimeout]
  held k n i held := by
    rw [RtspSessionManager.get,RtspSessionManager.withTimeout,Table.getEmpty] at held
    exact (notHeldNil n i held).elim

structure Kept (m : RtspSessionManager) : Prop where
  sound : ∀ k s, m.get k = some s → s.Sound k
  accounted : Accounted m

theorem runKept {u : CaseMapping} {timeout : Duration} {m : RtspSessionManager} {trace : List RtspResponse}
    (run : (server u timeout).Run FreshId m trace) : Kept m := by
  refine Machine.runInvariant (fun m _ => Kept m) ⟨?_,accountedStart timeout⟩ ?_ run
  · intro k s found
    simp [server,RtspSessionManager.get,RtspSessionManager.withTimeout] at found
  · intro m trace e m' out kept fresh taken
    have change := stepChange fresh taken
    exact ⟨soundChange kept.sound change,kept.accounted.change kept.sound change⟩

theorem heldTaskUnique {key : Text} {s : RtspSession} (sound : s.Sound key) {n n' : TaskId} {i : UInt8}
    (first : HeldBy s.tracks n i) (second : HeldBy s.tracks n' i) : n = n' := by
  obtain ⟨t,member,id,task⟩ := first
  obtain ⟨t',member',id',task'⟩ := second
  cases List.inj_on_of_nodup_map sound.distinct member member' (id.trans id'.symm)
  exact Option.some.inj (task.symm.trans task')

theorem sessionInvariant {u : CaseMapping} {timeout : Duration} {m : RtspSessionManager} {trace : List RtspResponse}
    (run : (server u timeout).Run FreshId m trace) :
    (∀ k s, m.get k = some s → (s.tracks.map (·.trackId)).Nodup ∧
      ∀ t ∈ s.tracks, (t.trackId = 0 → t.mediaType = .video) ∧ (t.trackId = 1 → t.mediaType = .audio) ∧
        Xor (t.interleavedChannels.isSome = true) t.hasUdpPorts ∧ (t.rtpTask.isSome = true → s.state = .playing)) ∧
    (∀ x ∈ m.spawned, x.task ∉ m.aborted → ∃! p : Text × UInt8, HeldBy (tracksOf (m.get p.1)) x.task p.2) ∧
    (∀ k i n n', HeldBy (tracksOf (m.get k)) n i → HeldBy (tracksOf (m.get k)) n' i → n = n') ∧
    (∀ x, x.request.method = .setup → (handleRequest u m x).2.status ≠ 200 →
      ∀ k, (handleRequest u m x).1.get k = m.get k) := by
  have kept := runKept run
  refine ⟨?_,?_,?_,?_⟩
  · intro k s found
    have sound := kept.sound k s found
    refine ⟨sound.distinct,fun t member => ?_⟩
    have track := sound.tracks t member
    refine ⟨?_,?_,track.transport,sound.playing t member⟩
    · intro video
      rcases track.kind with ⟨-,kind⟩ | ⟨audio,-⟩
      · exact kind
      · rw [video] at audio; contradiction
    · intro audio
      rcases track.kind with ⟨video,-⟩ | ⟨-,kind⟩
      · rw [audio] at video; contradiction
      · exact kind
  · intro x member alive
    refine ⟨(x.session.name,x.trackId),kept.accounted.live x member alive,?_⟩
    intro p held
    obtain ⟨key,id⟩ := kept.accounted.heldUnique held (kept.accounted.live x member alive)
    exact Prod.ext key id
  · intro k i n n' first second
    cases found : m.get k with
    | none =>
      rw [found] at first
      exact (notHeldNil n i first).elim
    | some s =>
      rw [found] at first second
      exact heldTaskUnique (kept.sound k s found) first second
  · intro x setup failed k
    have same : handleRequest u m x = handleSetup u m x := by rw [handleRequest,setup]
    rw [same] at failed ⊢
    rw [setupErrorFrame u m x failed]

section Run

def setupRequest (url transport : String) (session : Option Text) : RtspRequest :=
  ⟨.setup,url.toList,1,session.map (⟨·⟩),Table.put ∅ "transport".toList transport.toList,none⟩

def playRequest (session : Text) : RtspRequest := ⟨.play,"rtsp://h/stream/dev".toList,2,some ⟨session⟩,∅,none⟩

def setupVideo : Exchange :=
  exchangeOf (setupRequest "rtsp://h/stream/dev/trackID=0" "RTP/AVP;unicast;client_port=5000-5001" none) ['a']

def setupAudio : Exchange :=
  exchangeOf (setupRequest "rtsp://h/stream/dev/trackID=1" "RTP/AVP/TCP;interleaved=0-1" (some ['a'])) ['b']

def playBoth : Exchange := exchangeOf (playRequest ['a']) ['b']

theorem requestRun {u : CaseMapping} {timeout : Duration} {m : RtspSessionManager} {trace : List RtspResponse}
    (run : (server u timeout).Run FreshId m trace) (x : Exchange) (fresh : m.get x.drawn.name = none) :
    (server u timeout).Run FreshId (handleRequest u m x).1 (trace ++ [(handleRequest u m x).2]) :=
  .step (a := Event.request x) run fresh rfl

theorem sessionInvariantRun : ∃ m : RtspSessionManager, m.spawned.length = 2 ∧ m.aborted = [] ∧
    ∀ x ∈ m.spawned, x.task ∉ m.aborted → ∃! p : Text × UInt8, HeldBy (tracksOf (m.get p.1)) x.task p.2 := by
  have first := requestRun (.start : (server .ascii 0).Run FreshId _ _) setupVideo rfl
  have second := requestRun first setupAudio rfl
  have third := requestRun second playBoth rfl
  exact ⟨_,by decide,rfl,(sessionInvariant third).2.1⟩

end Run
end Vscreen.Rtsp
