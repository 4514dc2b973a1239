import Vscreen.RtspAnnounced
import Vscreen.RtspPlay

/-! The instance of an RTSP session is the one it was set up on, and SETUP asks the
lookup for it. -/
namespace Vscreen.Rtsp

def Origin (known : Text → Bool) (m m' : RtspSessionManager) : Prop := ∀ k s', m'.get k = some s' →
  (∃ s, m.get k = some s ∧ s.instanceId = s'.instanceId) ∨ known s'.instanceId.name = true

section Origin
variable {known : Text → Bool} {m n m' : RtspSessionManager}

theorem originSame (sessions : m'.sessions = m.sessions) : Origin known m m' := by
  intro k s' found
  rw [RtspSessionManager.get,sessions] at found
  exact .inl ⟨s',found,rfl⟩

theorem originUpdate {key : Text} {s' : RtspSession} (sessions : n.sessions = m.sessions)
    (origin : (∃ s, m.get key = some s ∧ s.instanceId = s'.instanceId) ∨ known s'.instanceId.name = true) :
    Origin known m (n.update key s') := by
  intro k s'' found
  rw [getUpdate] at found
  split at found
  · rename_i same
    cases found
    rw [same]; exact origin
  · rw [RtspSessionManager.get,sessions] at found
    exact .inl ⟨s'',found,rfl⟩

theorem originRemove {key : Text} {s : RtspSession} (sessions : n.sessions = m.sessions)
    (removed : n.remove key = some (m',s)) : Origin known m m' := by
  obtain ⟨s,-,same⟩ := Option.map_eq_some_iff.mp removed
  cases same
  intro k s' found
  simp only [RtspSessionManager.get,RtspSessionManager.abort,RtspSessionManager.cancelToken,Table.getDel,sessions] at found
  split at found
  · cases found
  · exact .inl ⟨s',found,rfl⟩

theorem originTouch (m : RtspSessionManager) (key : Text) (now : Time) : Origin known m (m.touch key now) := by
  rw [RtspSessionManager.touch]
  split
  · exact originSame rfl
  · rename_i s found
    exact originUpdate rfl (.inl ⟨s,found,rfl⟩)

theorem originRemoveExpired (m : RtspSessionManager) (key : Text) : Origin known m (m.removeExpired key) := by
  unfold RtspSessionManager.removeExpired
  dsimp only
  split
  · exact originSame rfl
  · rename_i m' s removed
    exact originRemove (n := {m with expired := m.expired.erase key}) rfl removed

end Origin

section Requests
variable {u : CaseMapping} (m : RtspSessionManager) (x : Exchange)

theorem planExists {p : SetupPlan} (planned : planSetup u x = .ok p) : x.lookup.instanceExists p.instanceId = true := by
  unfold planSetup at planned
  dsimp only at planned
  split at planned
  · cases planned
  · rename_i instanceId accepted
    split at planned
    · cases planned
    · rename_i there
      split at planned
      · cases planned
      · split at planned
        · cases planned
        · split at planned
          · cases planned
          · split at planned
            · cases planned
            · cases planned
              simpa using there

theorem addTrackInstance (p : SetupPlan) (s : RtspSession) (now : Time) :
    (addTrackToSession p s now).instanceId = s.instanceId := by
  unfold addTrackToSession
  split <;> rfl

theorem originSetup : Origin x.lookup.instanceExists m (handleSetup u m x).1 := by
  unfold handleSetup
  split
  · exact originSame rfl
  · rename_i p planned
    split
    · unfold setupExisting
      split
      · exact originSame rfl
      · rename_i s found
        split
        · exact originSame rfl
        · split
          · exact originSame rfl
          · exact originUpdate rfl (.inl ⟨s,found,(addTrackInstance p s x.now).symm⟩)
    · rw [setupNewSpec]
      have known := planExists x planned
      intro k s' found
      rw [getUpdate] at found
      split at found
      · cases found
        rw [addTrackInstance]
        exact .inr known
      · exact originUpdate (n := m.drawToken) rfl (.inr known) k s' found

theorem originPlay {known : Text → Bool} : Origin known m (handlePlay m x).1 := by
  rcases playCases m x with ⟨_,_,-,same⟩ | ⟨sessionId,s,s',-,found,played,done⟩
  · rw [same]; exact originSame rfl
  · rw [done]
    exact originUpdate rfl (.inl ⟨s,found,(playUnread played).1.symm⟩)

theorem pauseInstance {s s' : RtspSession} {now : Time} (paused : s.pause now = .ok s') : s'.instanceId = s.instanceId := by
  unfold RtspSession.pause at paused
  split at paused <;> cases paused <;> rfl

theorem originPause {known : Text → Bool} : Origin known m (handlePause m x).1 := by
  rcases pauseCases m x with ⟨_,_,-,same⟩ | ⟨sessionId,s,s',-,found,paused,done⟩
  · rw [same]; exact originSame rfl
  · rw [done]
    exact originUpdate rfl (.inl ⟨s,found,(pauseInstance paused).symm⟩)

theorem originRequest : Origin x.lookup.instanceExists m (handleRequest u m x).1 := by
  unfold handleRequest
  split
  · exact originSame rfl
  · exact originSame rfl
  · exact originSetup m x
  · exact originPlay m x
  · exact originPause m x
  · rcases teardownCases m x with same | ⟨_,_,_,-,removed,done⟩
    · rw [same]; exact originSame rfl
    · rw [done]; exact originRemove rfl removed
  · rcases getParameterCases m x with same | ⟨_,s,-,found,done⟩
    · rw [same]; exact originSame rfl
    · rw [done]; exact originUpdate rfl (.inl ⟨s,found,rfl⟩)

end Requests

theorem stepOrigin {u : CaseMapping} {timeout : Duration} {m m' : RtspSessionManager} {e : Event}
    {out : List RtspResponse} {known : Text → Bool} (there : ∀ x, e = .request x → x.lookup.instanceExists = known)
    (taken : (server u timeout).step m e = some (m',out)) : Origin known m m' := by
  cases e with
  | request x => cases taken; rw [← there x rfl]; exact originRequest m x
  | keepalive key now => cases taken; exact originTouch m key now
  | reap now => cases taken; exact originSame rfl
  | shutdown => cases taken; exact originSame rfl
  | removeExpired key =>
    simp only [server] at taken
    split at taken
    · cases taken; exact originRemoveExpired m key
    · cases taken
  | remove key =>
    obtain ⟨r,removed,same⟩ := Option.map_eq_some_iff.mp taken
    cases same
    exact originRemove rfl removed

end Vscreen.Rtsp
