import Vscreen.RtspInvariant

/-! The tracks that SETUP has announced: which requests add one, that no other request
changes what was announced for it, and that a sender task carries its track's ports and
channels for as long as it lives. -/
namespace Vscreen.Rtsp
open Text

def announced (m : RtspSessionManager) (sessionId : Text) : List TrackInfo := clearTasks (tracksOf (m.get sessionId))

def plannedTrack (p : SetupPlan) : TrackInfo := match p.transport.mode with
  | .udpUnicast clientRtpPort clientRtcpPort =>
    ⟨p.trackId,p.mediaType,clientRtpPort,clientRtcpPort,p.serverRtpPort,p.serverRtcpPort,none,none⟩
  | .tcpInterleaved rtpChannel rtcpChannel =>
    ⟨p.trackId,p.mediaType,0,0,0,0,some (rtpChannel,rtcpChannel),none⟩

structure Accepted (u : CaseMapping) (m m' : RtspSessionManager) (x : Exchange) (p : SetupPlan)
    (session : SessionId) : Prop where
  setup : x.request.method = .setup
  named : session = x.request.session.getD x.drawn
  planned : planSetup u x = .ok p
  fresh : p.trackId ∉ (announced m session.name).map (·.trackId)
  after : ∀ k, announced m' k =
    if k = session.name then announced m session.name ++ [plannedTrack p] else announced m k
  answer : (handleRequest u m x).2 = setupResponse p session m.timeoutSecs x.request.cseq

def Acceptable (m : RtspSessionManager) (x : Exchange) (p : SetupPlan) : Prop :=
  ∀ existing, x.request.session = some existing →
    ∃ s, m.get existing.name = some s ∧ s.instanceId.name = p.instanceId ∧ (s.track p.trackId).isSome = false

inductive Announcement (u : CaseMapping) (m m' : RtspSessionManager) : Event → Prop where
  | kept {e} (same : ∀ k, announced m' k = announced m k) : Announcement u m m' e
  | removed {e} (key : Text) (after : ∀ k, announced m' k = if k = key then [] else announced m k) :
      Announcement u m m' e
  | added {x} (p : SetupPlan) (session : SessionId) (accepted : Accepted u m m' x p session) :
      Announcement u m m' (.request x)

@[simp] theorem announcedNone {m : RtspSessionManager} {k : Text} (absent : m.get k = none) : announced m k = [] := by
  rw [announced,absent]
  rfl

theorem announcedSome {m : RtspSessionManager} {k : Text} {s : RtspSession} (found : m.get k = some s) :
    announced m k = clearTasks s.tracks := by
  rw [announced,found]
  rfl

theorem announcedUpdate (m : RtspSessionManager) (key : Text) (s : RtspSession) (k : Text) :
    announced (m.update key s) k = if k = key then clearTasks s.tracks else announced m k := by
  rw [announced,getUpdate]
  split <;> rfl

theorem plannedId (p : SetupPlan) : (plannedTrack p).trackId = p.trackId := by
  unfold plannedTrack
  split <;> rfl

theorem clearAppendPlanned (p : SetupPlan) (tracks : List TrackInfo) :
    clearTasks (tracks ++ [plannedTrack p]) = clearTasks tracks ++ [plannedTrack p] := by
  simp only [clearTasks,List.map_append,List.map_cons,List.map_nil]
  unfold plannedTrack
  split <;> rfl

theorem addTrackPlanned (p : SetupPlan) (s : RtspSession) (now : Time) :
    (addTrackToSession p s now).tracks = s.tracks ++ [plannedTrack p] := by
  cases mode : p.transport.mode <;> simp only [addTrackToSession,plannedTrack,mode] <;> rfl

theorem clearedIds (tracks : List TrackInfo) : (clearTasks tracks).map (·.trackId) = tracks.map (·.trackId) := by
  simp [clearTasks]

section Steps
variable {u : CaseMapping} {m m' : RtspSessionManager} {x : Exchange} {e : Event}

theorem announcedEdit {key : Text} {s s' : RtspSession} (found : m.get key = some s)
    (same : clearTasks s'.tracks = clearTasks s.tracks) (k : Text) : announced (m.update key s') k = announced m k := by
  rw [announcedUpdate]
  split
  · rename_i here
    rw [here,same,announcedSome found]
  · rfl

theorem announcedTouch (m : RtspSessionManager) (key : Text) (now : Time) (k : Text) :
    announced (m.touch key now) k = announced m k := by
  rw [RtspSessionManager.touch]
  split
  · rfl
  · rename_i s found
    refine announcedEdit found ?_ k
    rfl

theorem announcedRemove {key : Text} {s : RtspSession} (removed : m.remove key = some (m',s)) (k : Text) :
    announced m' k = if k = key then [] else announced m k := by
  obtain ⟨s,found,same⟩ := Option.map_eq_some_iff.mp removed
  cases same
  rw [announced]
  simp only [RtspSessionManager.get,RtspSessionManager.abort,RtspSessionManager.cancelToken,Table.getDel]
  split <;> rfl

theorem announcedPlay (m : RtspSessionManager) (x : Exchange) (k : Text) :
    announced (handlePlay m x).1 k = announced m k := by
  rcases playCases m x with ⟨_,_,-,same⟩ | ⟨sessionId,s,s',-,found,played,done⟩
  · rw [same]
  · obtain ⟨-,tracks,-⟩ := playSpec played
    rw [done]
    refine announcedEdit (m := m.spawn _) found ?_ k
    rw [← tracks]
    exact startSendersTracks x.lookup s' m.spawned.length s'.tracks

theorem announcedPause (m : RtspSessionManager) (x : Exchange) (k : Text) :
    announced (handlePause m x).1 k = announced m k := by
  rcases pauseCases m x with ⟨_,_,-,same⟩ | ⟨sessionId,s,s',-,found,paused,done⟩
  · rw [same]
  · obtain ⟨-,tracks⟩ := pauseSpec paused
    rw [done]
    refine announcedEdit (m := ((m.cancelToken _).abort _).drawToken) found ?_ k
    rw [← tracks]
    exact clearedTwice s'.tracks

theorem announcedGetParameter (m : RtspSessionManager) (x : Exchange) (k : Text) :
    announced (handleGetParameter m x).1 k = announced m k := by
  unfold handleGetParameter
  dsimp only
  split
  · rfl
  · exact announcedTouch m _ x.now k

theorem announcementTeardown (m : RtspSessionManager) (x : Exchange) : Announcement u m (handleTeardown m x).1 e := by
  rcases teardownCases m x with same | ⟨sessionId,m',s,-,removed,done⟩
  · rw [same]
    exact .kept fun _ => rfl
  · rw [done]
    exact .removed sessionId.name (announcedRemove removed)

theorem announcementRemoveExpired (m : RtspSessionManager) (key : Text) : Announcement u m (m.removeExpired key) e := by
  unfold RtspSessionManager.removeExpired
  dsimp only
  split
  · exact .kept fun _ => rfl
  · rename_i m' s removed
    exact .removed key fun k => announcedRemove (m := {m with expired := m.expired.erase key}) removed k

def newSession (m : RtspSessionManager) (x : Exchange) (p : SetupPlan) : RtspSession :=
  ⟨x.drawn,⟨p.instanceId⟩,.ready,x.clientAddr,p.mediaConfig,p.quality,[],x.now,x.now,m.tokens⟩

theorem setupNewSpec (m : RtspSessionManager) (x : Exchange) (p : SetupPlan) :
    setupNew m x p = ((m.drawToken.update x.drawn.name (newSession m x p)).update x.drawn.name
      (addTrackToSession p (newSession m x p) x.now),setupResponse p x.drawn m.timeoutSecs x.request.cseq) := by
  have made : (m.drawToken.update x.drawn.name (newSession m x p)).get x.drawn.name = some (newSession m x p) := by
    simp [getUpdate]
  unfold setupNew
  dsimp only [RtspSessionManager.createSession]
  rw [newSession] at made ⊢
  rw [made]
  rfl

theorem setupCases (fresh : m.get x.drawn.name = none) (setup : x.request.method = .setup) :
    ((handleRequest u m x).1 = m ∧ (handleRequest u m x).2.status ≠ 200) ∨
      ∃ p session, Accepted u m (handleRequest u m x).1 x p session := by
  have handled : handleRequest u m x = handleSetup u m x := by rw [handleRequest,setup]
  cases planned : planSetup u x with
  | error response =>
    simp only [handleSetup,planned] at handled
    rw [handled]
    obtain ⟨_,_,other,rfl⟩ := planError planned
    exact .inl ⟨rfl,other⟩
  | ok p =>
    cases named : x.request.session with
    | some existing =>
      simp only [handleSetup,planned,named,setupExisting] at handled
      cases found : m.get existing.name with
      | none =>
        rw [found] at handled
        rw [handled]
        exact .inl ⟨rfl,(by decide : (454 : UInt16) ≠ 200)⟩
      | some s =>
        simp only [found] at handled
        split at handled
        · rw [handled]
          exact .inl ⟨rfl,(by decide : (454 : UInt16) ≠ 200)⟩
        · split at handled
          · rw [handled]
            exact .inl ⟨rfl,(by decide : (455 : UInt16) ≠ 200)⟩
          · rename_i absent
            refine .inr ⟨p,existing,setup,by rw [named]; rfl,planned,?_,fun k => ?_,congrArg Prod.snd handled⟩
            · rw [announcedSome found,clearedIds]
              intro member
              obtain ⟨t,member,id⟩ := List.mem_map.mp member
              exact absent (List.find?_isSome.mpr ⟨t,member,by simpa using id⟩)
            · rw [handled,announcedUpdate,addTrackPlanned,clearAppendPlanned,announcedSome found]
    | none =>
      simp only [handleSetup,planned,named,setupNewSpec] at handled
      refine .inr ⟨p,x.drawn,setup,by rw [named]; rfl,planned,by simp [fresh],fun k => ?_,congrArg Prod.snd handled⟩
      rw [handled,announcedUpdate,addTrackPlanned,clearAppendPlanned,announcedNone fresh,announcedUpdate]
      split <;> rfl

theorem setupStatus (setup : x.request.method = .setup) (planned : planSetup u x = .ok p) :
    (handleRequest u m x).2.status = 200 ↔ Acceptable m x p := by
  have handled : handleRequest u m x = handleSetup u m x := by rw [handleRequest,setup]
  rw [handled,Acceptable]
  cases named : x.request.session with
  | none =>
    simp only [handleSetup,planned,named]
    exact ⟨fun _ _ other => by contradiction,fun _ => rfl⟩
  | some existing =>
    simp only [handleSetup,planned,named,setupExisting,Option.some.injEq,forall_eq']
    cases found : m.get existing.name with
    | none =>
      refine ⟨fun answered => absurd answered (by decide : ¬ (454 : UInt16) = 200),?_⟩
      rintro ⟨s,other,-⟩
      contradiction
    | some s =>
      simp only [Option.some.injEq,exists_eq_left']
      split
      · rename_i other
        exact ⟨fun answered => absurd answered (by decide : ¬ (454 : UInt16) = 200),fun same => (other same.1).elim⟩
      · rename_i here
        split
        · rename_i taken
          refine ⟨fun answered => absurd answered (by decide : ¬ (455 : UInt16) = 200),fun free => ?_⟩
          rw [free.2] at taken
          contradiction
        · rename_i absent
          exact ⟨fun _ => ⟨not_not.mp here,by simpa using absent⟩,fun _ => rfl⟩

theorem stepAnnounced {timeout : Duration} {out : List RtspResponse} (fresh : FreshId m e)
    (taken : (server u timeout).step m e = some (m',out)) : Announcement u m m' e := by
  cases e with
  | request x =>
    cases taken
    cases method : x.request.method with
    | options => exact .kept fun _ => by rw [handleRequest,method]
    | describe => exact .kept fun _ => by rw [handleRequest,method]
    | setup =>
      rcases setupCases (u := u) fresh method with ⟨same,-⟩ | ⟨p,session,accepted⟩
      · exact .kept fun _ => by rw [same]
      · exact .added p session accepted
    | play => exact .kept fun k => by rw [handleRequest,method]; exact announcedPlay m x k
    | pause => exact .kept fun k => by rw [handleRequest,method]; exact announcedPause m x k
    | teardown =>
      have teardown := announcementTeardown (u := u) (e := .request x) m x
      rwa [show handleTeardown m x = handleRequest u m x by rw [handleRequest,method]] at teardown
    | getParameter => exact .kept fun k => by rw [handleRequest,method]; exact announcedGetParameter m x k
  | keepalive key now => cases taken; exact .kept (announcedTouch m key now)
  | reap now => cases taken; exact .kept fun _ => rfl
  | shutdown => cases taken; exact .kept fun _ => rfl
  | removeExpired key =>
    simp only [server] at taken
    split at taken
    · cases taken; exact announcementRemoveExpired m key
    · contradiction
  | remove key =>
    obtain ⟨r,removed,same⟩ := Option.map_eq_some_iff.mp taken
    cases same
    exact .removed key (announcedRemove removed)

theorem spawnedElsewhere (other : x.request.method ≠ .play) : (handleRequest u m x).1.spawned = m.spawned := by
  unfold handleRequest
  split
  · rfl
  · rfl
  · unfold handleSetup
    split
    · rfl
    · split
      · unfold setupExisting
        split
        · rfl
        · split
          · rfl
          · split <;> rfl
      · rw [setupNewSpec]
        rfl
  · contradiction
  · rcases pauseCases m x with ⟨_,_,-,same⟩ | ⟨_,_,_,-,-,-,done⟩
    · rw [same]
    · rw [done]
      rfl
  · rcases teardownCases m x with same | ⟨_,_,_,-,removed,done⟩
    · rw [same]
    · obtain ⟨s,-,same⟩ := Option.map_eq_some_iff.mp removed
      rw [done]
      cases same
      rfl
  · rcases getParameterCases m x with same | ⟨_,_,-,-,done⟩
    · rw [same]
    · rw [done]
      rfl

end Steps

structure Carries (x : Sender) (t : TrackInfo) : Prop where
  trackId : x.trackId = t.trackId
  serverRtpPort : x.serverRtpPort = t.serverRtpPort
  serverRtcpPort : x.serverRtcpPort = t.serverRtcpPort
  interleaved : x.interleaved = t.interleavedChannels

theorem startSendersCarry (lookup : InstanceLookup) (s : RtspSession) (next : TaskId) (tracks : List TrackInfo) :
    ∀ x ∈ (startSenders lookup s next tracks).2, x.session = s.id ∧ ∃ t ∈ clearTasks tracks, Carries x t := by
  induction tracks generalizing next with
  | nil => simp [startSenders]
  | cons t rest ih =>
    have later : ∀ {n x}, x ∈ (startSenders lookup s n rest).2 →
        x.session = s.id ∧ ∃ t' ∈ clearTasks (t::rest), Carries x t' := by
      intro n x started
      obtain ⟨owner,t',member,carries⟩ := ih n x started
      exact ⟨owner,t',List.mem_cons_of_mem _ member,carries⟩
    intro x started
    rw [startSenders] at started
    split at started
    · exact later started
    · rcases List.mem_cons.mp started with rfl | started
      · exact ⟨rfl,{t with rtpTask := none},List.mem_cons_self,rfl,rfl,rfl,rfl⟩
      · exact later started

section Posted
variable {u : CaseMapping} {timeout : Duration} {m m' : RtspSessionManager} {e : Event}

theorem handlePlayCarries (sound : ∀ k s, m.get k = some s → s.Sound k) (x : Exchange) :
    ∃ senders, (handlePlay m x).1.spawned = m.spawned ++ senders ∧
      ∀ x ∈ senders, ∃ t ∈ announced m x.session.name, Carries x t := by
  rcases playCases m x with ⟨_,_,-,same⟩ | ⟨sessionId,s,s',-,found,played,done⟩
  · exact ⟨[],by simp [same]⟩
  · obtain ⟨id,tracks,-⟩ := playSpec played
    rw [done]
    refine ⟨(startSenders x.lookup s' m.spawned.length s'.tracks).2,rfl,fun y started => ?_⟩
    obtain ⟨owner,t,member,carries⟩ := startSendersCarry x.lookup s' m.spawned.length s'.tracks y started
    refine ⟨t,?_,carries⟩
    rw [owner,id,(sound _ _ found).keyed,announcedSome found,← tracks]
    exact member

theorem stepSpawned {out : List RtspResponse} (sound : ∀ k s, m.get k = some s → s.Sound k)
    (taken : (server u timeout).step m e = some (m',out)) :
    ∃ senders, m'.spawned = m.spawned ++ senders ∧ ∀ x ∈ senders, ∃ t ∈ announced m x.session.name, Carries x t := by
  have quiet : m'.spawned = m.spawned → ∃ senders, m'.spawned = m.spawned ++ senders ∧
      ∀ x ∈ senders, ∃ t ∈ announced m x.session.name, Carries x t := fun same => ⟨[],by simp [same]⟩
  cases e with
  | request x =>
    cases taken
    by_cases method : x.request.method = .play
    · have play : handleRequest u m x = handlePlay m x := by rw [handleRequest,method]
      rw [play]
      exact handlePlayCarries sound x
    · exact quiet (spawnedElsewhere method)
  | keepalive key now =>
    cases taken
    refine quiet ?_
    unfold RtspSessionManager.touch
    split <;> rfl
  | reap now => cases taken; exact quiet rfl
  | shutdown => cases taken; exact quiet rfl
  | removeExpired key =>
    simp only [server] at taken
    split at taken
    · cases taken
      refine quiet ?_
      unfold RtspSessionManager.removeExpired
      dsimp only
      split
      · rfl
      · rename_i removed
        obtain ⟨s,-,same⟩ := Option.map_eq_some_iff.mp removed
        cases same
        rfl
    · contradiction
  | remove key =>
    obtain ⟨r,removed,same⟩ := Option.map_eq_some_iff.mp taken
    cases same
    obtain ⟨s,-,same⟩ := Option.map_eq_some_iff.mp removed
    cases same
    exact quiet rfl

theorem abortedGrows (change : Change m m') {n : TaskId} (before : n ∈ m.aborted) : n ∈ m'.aborted := by
  cases change with
  | quiet _ _ aborted => rwa [aborted]
  | entry _ _ _ stopped _ _ aborted _ _ => exact aborted ▸ List.mem_append_right _ before

def Posted (m : RtspSessionManager) : Prop :=
  ∀ x ∈ m.spawned, x.task ∉ m.aborted → ∃ t ∈ announced m x.session.name, Carries x t

theorem stepPosted {out : List RtspResponse} (kept : Kept m) (posted : Posted m) (fresh : FreshId m e)
    (taken : (server u timeout).step m e = some (m',out)) : Posted m' := by
  have change := stepChange fresh taken
  have after := kept.accounted.change kept.sound change
  obtain ⟨senders,spawned,carried⟩ := stepSpawned kept.sound taken
  intro x member alive
  have before : ∃ t ∈ announced m x.session.name, Carries x t := by
    rw [spawned,List.mem_append] at member
    rcases member with earlier | started
    · exact posted x earlier (mt (abortedGrows change) alive)
    · exact carried x started
  obtain ⟨t,there,carries⟩ := before
  cases stepAnnounced fresh taken with
  | kept same => exact ⟨t,same _ ▸ there,carries⟩
  | removed key gone =>
    rw [gone]
    split
    · rename_i here
      -- the removed session's tasks were aborted with it
      obtain ⟨t',held,-⟩ := after.live x member alive
      have empty : announced m' x.session.name = [] := by rw [gone,if_pos here]
      rw [announced,clearTasks,List.map_eq_nil_iff] at empty
      rw [empty] at held
      contradiction
    · exact ⟨t,there,carries⟩
  | added p session accepted =>
    refine ⟨t,?_,carries⟩
    rw [accepted.after]
    split
    · rename_i here
      exact List.mem_append_left _ (here ▸ there)
    · exact there

theorem runPosted {trace : List RtspResponse} (run : (server u timeout).Run FreshId m trace) : Kept m ∧ Posted m := by
  refine Machine.runInvariant (fun m _ => Kept m ∧ Posted m) ⟨runKept (.start : (server u timeout).Run FreshId _ _),?_⟩
    (fun {m trace e m' out} holds fresh taken => ?_) run
  · simp [Posted,server,RtspSessionManager.withTimeout]
  · have change := stepChange fresh taken
    exact ⟨⟨soundChange holds.1.sound change,holds.1.accounted.change holds.1.sound change⟩,
      stepPosted holds.1 holds.2 fresh taken⟩

end Posted
end Vscreen.Rtsp
