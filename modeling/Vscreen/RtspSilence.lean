import Vscreen.RtspActivity

/-! The activity of a session is the time its client was last heard in every run whose
messages all refresh it and whose reports do not, and then a pass removes exactly the silent
sessions. -/
namespace Vscreen.Rtsp
open Text

section Requests
variable {u : CaseMapping} {m : RtspSessionManager} {x : Exchange} {session : SessionId} {s : RtspSession}

structure Entry (m m' : RtspSessionManager) (key : Text) (new : Option RtspSession) : Prop where
  after : ∀ k, m'.get k = if k = key then new else m.get k

theorem entryUpdate (m : RtspSessionManager) (key : Text) (s : RtspSession) : Entry m (m.update key s) key (some s) :=
  ⟨getUpdate m key s⟩

theorem entrySame {key : Text} (found : m.get key = some s) : Entry m m key (some s) where
  after k := by
    split
    · rename_i here
      rw [here,found]
    · rfl

theorem entryRemove {m' : RtspSessionManager} {key : Text} (removed : m.remove key = some (m',s)) :
    Entry m m' key none := by
  obtain ⟨s,found,same⟩ := Option.map_eq_some_iff.mp removed
  cases same
  constructor
  intro k
  simp [RtspSessionManager.get,RtspSessionManager.abort,RtspSessionManager.cancelToken]

def Stamped (u : CaseMapping) (m : RtspSessionManager) (x : Exchange) (s : RtspSession) (new : Option RtspSession) : Prop :=
  ∀ s', new = some s' → s'.lastActivity = x.now ∨ (s'.lastActivity = s.lastActivity ∧ ¬ Activity.Refreshes u m x s)

theorem stampedSame (idle : ¬ Activity.Refreshes u m x s) : Stamped u m x s (some s) := by
  intro s' same
  cases same
  exact .inr ⟨rfl,idle⟩

theorem stampedNow {s' : RtspSession} (now : s'.lastActivity = x.now) : Stamped u m x s (some s') := by
  intro s'' same
  cases same
  exact .inl now

theorem playActivity {s' : RtspSession} {now : Time} (played : s.play now = .ok s') :
    s'.lastActivity = now ∨ (s' = s ∧ s.state = .playing) := by
  unfold RtspSession.play at played
  split at played <;> cases played
  · exact .inl rfl
  · exact .inl rfl
  · rename_i state
    exact .inr ⟨rfl,state⟩

theorem pauseActivity {s' : RtspSession} {now : Time} (paused : s.pause now = .ok s') :
    s'.lastActivity = now ∨ (s' = s ∧ s.state ≠ .playing) := by
  unfold RtspSession.pause at paused
  split at paused <;> cases paused
  · exact .inl rfl
  · rename_i state
    exact .inr ⟨rfl,by simp [state]⟩

theorem addTrackActivity (p : SetupPlan) (s : RtspSession) (now : Time) :
    (addTrackToSession p s now).lastActivity = now := by
  cases mode : p.transport.mode <;> simp only [addTrackToSession,mode] <;> rfl

theorem setupStamped (named : x.request.session = some session) (found : m.get session.name = some s)
    (setup : x.request.method = .setup) :
    ∃ new, Entry m (handleRequest u m x).1 session.name new ∧ Stamped u m x s new := by
  have refreshes : Activity.Refreshes u m x s ↔ ∃ p, planSetup u x = .ok p ∧ Acceptable m x p := by
    rw [Activity.Refreshes,setup]
  have handled : handleRequest u m x = handleSetup u m x := by rw [handleRequest,setup]
  cases planned : planSetup u x with
  | error response =>
    simp only [handleSetup,planned] at handled
    rw [handled]
    refine ⟨some s,entrySame found,stampedSame ?_⟩
    rw [refreshes,planned]
    rintro ⟨p,same,-⟩
    contradiction
  | ok p =>
    by_cases accepts : Acceptable m x p
    · obtain ⟨s',found',same,absent⟩ := accepts session named
      cases found.symm.trans found'
      simp only [handleSetup,planned,named,setupExisting,found,same,absent,ne_eq,not_true,if_false,
        Bool.false_eq_true] at handled
      rw [handled]
      exact ⟨_,entryUpdate m session.name _,stampedNow (addTrackActivity p s x.now)⟩
    · have refused : (handleRequest u m x).2.status ≠ 200 := mt (setupStatus setup planned).mp accepts
      rw [handled] at refused ⊢
      rw [setupErrorFrame u m x refused]
      refine ⟨some s,entrySame found,stampedSame ?_⟩
      rw [refreshes,planned]
      rintro ⟨p',same,accepted⟩
      cases same
      exact accepts accepted

theorem requestStamped (named : x.request.session = some session) (found : m.get session.name = some s) :
    ∃ new, Entry m (handleRequest u m x).1 session.name new ∧ Stamped u m x s new := by
  cases method : x.request.method with
  | options =>
    rw [handleRequest,method]
    exact ⟨some s,entrySame found,stampedSame (by simp [Activity.Refreshes,method])⟩
  | describe =>
    rw [handleRequest,method]
    exact ⟨some s,entrySame found,stampedSame (by simp [Activity.Refreshes,method])⟩
  | setup => exact setupStamped named found method
  | play =>
    simp only [handleRequest,method,handlePlay,named,found]
    cases played : s.play x.now with
    -- PLAY is answered in every state
    | error _ => cases state : s.state <;> simp [RtspSession.play,state] at played
    | ok s' =>
      refine ⟨_,⟨getUpdate _ session.name _⟩,?_⟩
      rintro s'' same
      cases same
      rcases playActivity played with now | ⟨rfl,playing⟩
      · exact .inl now
      · exact .inr ⟨rfl,by simp [Activity.Refreshes,method,playing]⟩
  | pause =>
    simp only [handleRequest,method,handlePause,named,found]
    cases paused : s.pause x.now with
    | error _ =>
      refine ⟨some s,entrySame found,stampedSame ?_⟩
      rw [Activity.Refreshes,method]
      intro playing
      simp [RtspSession.pause,playing] at paused
    | ok s' =>
      refine ⟨_,⟨getUpdate _ session.name _⟩,?_⟩
      rintro s'' same
      cases same
      rcases pauseActivity paused with now | ⟨rfl,idle⟩
      · exact .inl now
      · exact .inr ⟨rfl,by simp [Activity.Refreshes,method,idle]⟩
  | teardown =>
    simp only [handleRequest,method,handleTeardown,named]
    cases removed : m.remove session.name with
    | none => simp [RtspSessionManager.remove,found] at removed
    | some r => exact ⟨none,entryRemove removed,by simp [Stamped]⟩
  | getParameter =>
    simp only [handleRequest,method,handleGetParameter,named,found]
    exact ⟨_,entryUpdate m session.name _,stampedNow rfl⟩

theorem requestUnknown (named : x.request.session = some session) (absent : m.get session.name = none) :
    (handleRequest u m x).1 = m := by
  cases method : x.request.method with
  | options => rw [handleRequest,method]
  | describe => rw [handleRequest,method]
  | setup =>
    simp only [handleRequest,method,handleSetup]
    split
    · rfl
    · simp only [named,setupExisting,absent]
  | play => simp only [handleRequest,method,handlePlay,named,absent]
  | pause => simp only [handleRequest,method,handlePause,named,absent]
  | teardown =>
    have gone : m.remove session.name = none := by rw [RtspSessionManager.remove,absent]; rfl
    simp only [handleRequest,method,handleTeardown,named,gone]
  | getParameter => simp only [handleRequest,method,handleGetParameter,named,absent]

theorem requestUnnamed (unnamed : x.request.session = none) :
    ((handleRequest u m x).1 = m ∧ (handleRequest u m x).2.session = none) ∨
      ((handleRequest u m x).2.session = some x.drawn ∧
        ∃ s', Entry m (handleRequest u m x).1 x.drawn.name (some s') ∧ s'.lastActivity = x.now) := by
  cases method : x.request.method with
  | options => rw [handleRequest,method]; exact .inl ⟨rfl,rfl⟩
  | describe =>
    simp only [handleRequest,method,handleDescribe]
    refine .inl ⟨trivial,?_⟩
    split
    · rfl
    · split <;> rfl
  | setup =>
    simp only [handleRequest,method,handleSetup]
    split
    · rename_i response failed
      obtain ⟨_,_,-,rfl⟩ := planError failed
      exact .inl ⟨rfl,rfl⟩
    · rename_i p planned
      simp only [unnamed,setupNewSpec]
      refine .inr ⟨rfl,addTrackToSession p (newSession m x p) x.now,⟨fun k => ?_⟩,addTrackActivity p _ x.now⟩
      rw [getUpdate,getUpdate]
      split <;> rfl
  | play => simp only [handleRequest,method,handlePlay,unnamed]; exact .inl ⟨trivial,rfl⟩
  | pause => simp only [handleRequest,method,handlePause,unnamed]; exact .inl ⟨trivial,rfl⟩
  | teardown => simp only [handleRequest,method,handleTeardown,unnamed]; exact .inl ⟨trivial,rfl⟩
  | getParameter => simp only [handleRequest,method,handleGetParameter,unnamed]; exact .inl ⟨trivial,rfl⟩

end Requests
namespace Activity
variable {u : CaseMapping} {timeout : Duration} {w w' : Activity}

theorem heardAfter (sessions : List Text) (now : Time) (heard : Table Text Time) (k : Text) :
    (sessions.foldl (fun heard k => heard.put k now) heard).get k = if k ∈ sessions then some now else heard.get k := by
  induction sessions generalizing heard with
  | nil => simp
  | cons first rest ih =>
    rw [List.foldl_cons,ih,Table.getPut]
    by_cases there : k ∈ rest <;> simp [there]

def Answered (w : Activity) : Prop :=
  ∀ c k, (w.connection c).currentSessionId = some k → k ∈ (w.connection c).answered

theorem answerOnManager (w : Activity) (c : ConnectionId) (r : RtspResponse) : (w.answerOn c r).manager = w.manager := by
  unfold answerOn
  split <;> rfl

theorem answerOnHeard (w : Activity) (c : ConnectionId) (r : RtspResponse) : (w.answerOn c r).heard = w.heard := by
  unfold answerOn
  split <;> rfl

theorem answerOnAnswered (answered : w.Answered) (c : ConnectionId) (r : RtspResponse) : (w.answerOn c r).Answered := by
  unfold answerOn
  split
  · exact answered
  · rename_i session named
    intro c' k current
    rw [connection,Table.getPut] at current ⊢
    split at current
    · rename_i here
      rw [if_pos here]
      cases current
      exact List.mem_cons_self
    · rename_i other
      rw [if_neg other]
      exact answered c' k current

theorem exactElsewhere (kept : w.Exact) {m' : RtspSessionManager} {key k : Text} {new : Option RtspSession}
    {s' : RtspSession} (entry : Entry w.manager m' key new) (found : m'.get k = some s') :
    (k ≠ key ∧ w.heard.get k = some s'.lastActivity) ∨ (k = key ∧ new = some s') := by
  rw [entry.after] at found
  split at found
  · rename_i here
    exact .inr ⟨here,found⟩
  · rename_i other
    exact .inl ⟨other,kept k s' found⟩

theorem requestExact (kept : w.Exact) {c : ConnectionId} {x : Exchange} (met : w.Refreshing u (.request c x)) :
    (w.request u c x).Exact := by
  intro k s' found
  simp only [request,hear,answerOnManager,answerOnHeard] at found ⊢
  rw [heardAfter]
  cases named : x.request.session with
  | some session =>
    simp only [addressed,named,Option.map_some,Option.toList_some,List.mem_singleton]
    cases there : w.manager.get session.name with
    | none =>
      rw [requestUnknown named there] at found
      have other : k ≠ session.name := by
        rintro rfl
        rw [there] at found
        contradiction
      rw [if_neg other]
      exact kept k s' found
    | some s =>
      obtain ⟨new,entry,stamped⟩ := requestStamped (u := u) named there
      rcases exactElsewhere kept entry found with ⟨other,same⟩ | ⟨rfl,rfl⟩
      · rw [if_neg other]
        exact same
      · rw [if_pos rfl]
        rcases stamped s' rfl with now | ⟨same,idle⟩
        · rw [now]
        · rw [same,(met session s named there).resolve_right idle]
  | none =>
    rcases requestUnnamed (u := u) (m := w.manager) named with ⟨same,unanswered⟩ | ⟨answered,s,entry,now⟩
    · rw [same] at found
      simp only [addressed,named,unanswered,Option.map_none,Option.toList_none,List.not_mem_nil,if_false]
      exact kept k s' found
    · simp only [addressed,named,answered,Option.map_some,Option.toList_some,List.mem_singleton]
      rcases exactElsewhere kept entry found with ⟨other,same⟩ | ⟨rfl,same⟩
      · rw [if_neg other]
        exact same
      · cases same
        rw [if_pos rfl,now]

theorem touchEntry (m : RtspSessionManager) (key : Text) (now : Time) :
    Entry m (m.touch key now) key ((m.get key).map (·.touch now)) := by
  unfold RtspSessionManager.touch
  split
  · rename_i absent
    constructor
    intro k
    split
    · rename_i here
      rw [here,absent]
      rfl
    · rfl
  · rename_i s found
    rw [found]
    exact entryUpdate m key _

theorem dataExact (kept : w.Exact) (answered : w.Answered) {c : ConnectionId} {now : Time}
    (met : w.Refreshing u (.data c now)) : ((w.touchCurrent c now).hear (w.connection c).answered now).Exact := by
  intro k s' found
  simp only [hear] at found ⊢
  rw [heardAfter]
  cases current : (w.connection c).currentSessionId with
  | none =>
    simp only [touchCurrent,current] at found ⊢
    split
    · rename_i here
      have same := (met k here s' found).resolve_right (by simp [current])
      rw [same]
    · exact kept k s' found
  | some sessionId =>
    simp only [touchCurrent,current] at found ⊢
    rcases exactElsewhere kept (touchEntry w.manager sessionId now) found with ⟨other,same⟩ | ⟨rfl,same⟩
    · split
      -- answered on this connection, but not its current session
      · rename_i here
        rw [(touchEntry w.manager sessionId now).after,if_neg other] at found
        have now' := (met k here s' found).resolve_right (by rw [current]; exact fun same => other (Option.some.inj same).symm)
        rw [now']
      · exact same
    · rw [if_pos (answered c k current)]
      obtain ⟨s,-,rfl⟩ := Option.map_eq_some_iff.mp same
      rfl

theorem reportExact (kept : w.Exact) {x : Sender} {now : Time}
    (met : ∀ s, w.manager.get x.session.name = some s → s.lastActivity = now) :
    Exact {w with manager := w.manager.touch x.session.name now} := by
  intro k s' found
  rcases exactElsewhere kept (touchEntry w.manager x.session.name now) found with ⟨-,same⟩ | ⟨rfl,same⟩
  · exact same
  · obtain ⟨s,there,rfl⟩ := Option.map_eq_some_iff.mp same
    rw [kept _ s there,met s there]
    rfl

theorem removeExact (kept : w.Exact) {m' : RtspSessionManager} {key : Text} (entry : Entry w.manager m' key none) :
    ∀ k s, m'.get k = some s → w.heard.get k = some s.lastActivity := by
  intro k s found
  rcases exactElsewhere kept entry found with ⟨-,same⟩ | ⟨-,same⟩
  · exact same
  · contradiction

theorem removeExpiredEntry (m : RtspSessionManager) (key : Text) : Entry m (m.removeExpired key) key none := by
  unfold RtspSessionManager.removeExpired
  dsimp only
  split
  · rename_i absent
    have gone : m.get key = none := Option.map_eq_none_iff.mp absent
    constructor
    intro k
    split
    · rename_i here
      rw [here]
      exact gone
    · rfl
  · rename_i removed
    exact ⟨(entryRemove removed).after⟩

def Reaped.Silent (r : Reaped) : Prop := ∃ t, r.heard = some t ∧ r.listed - t > r.timeout

theorem removedSilent (kept : w.Exact) {k : Text} {listed : Time} (met : w.Refreshing u (.passRemoves k listed)) :
    ∀ r ∈ w.removed k listed, Reaped.Silent r := by
  unfold removed
  split
  · simp
  · rename_i s found
    intro r member
    cases List.mem_singleton.mp member
    exact ⟨s.lastActivity,kept k s found,of_decide_eq_true (met s found)⟩

theorem stepExact {e : ActivityEvent} {out : List Reaped} (kept : w.Exact) (answered : w.Answered)
    (met : w.Refreshing u e) (taken : w.step u e = some (w',out)) :
    w'.Exact ∧ w'.Answered ∧ ∀ r ∈ out, Reaped.Silent r := by
  cases e with
  | request c x =>
    cases taken
    have same := answerOnAnswered (w := {w with manager := (handleRequest u w.manager x).1}) answered c
      (handleRequest u w.manager x).2
    exact ⟨requestExact kept met,same,by simp⟩
  | data c now =>
    cases taken
    refine ⟨dataExact kept answered met,?_,by simp⟩
    unfold touchCurrent
    split <;> exact answered
  | report task now =>
    simp only [step] at taken
    split at taken
    · contradiction
    · rename_i x spawned
      split at taken
      · contradiction
      · cases taken
        exact ⟨reportExact kept fun s found => met x s spawned found,answered,by simp⟩
  | pass now =>
    cases taken
    exact ⟨kept,answered,by simp⟩
  | passRemoves k listed =>
    simp only [step] at taken
    split at taken
    · cases taken
      exact ⟨removeExact kept (removeExpiredEntry w.manager k),answered,removedSilent kept met⟩
    · contradiction
  | shutdown =>
    cases taken
    exact ⟨kept,answered,by simp⟩
  | shutdownRemoves k =>
    simp only [step] at taken
    split at taken
    · cases taken
      exact ⟨removeExact kept (removeExpiredEntry w.manager k),answered,by simp⟩
    · contradiction
  | remove k =>
    obtain ⟨r,gone,same⟩ := Option.map_eq_some_iff.mp taken
    cases same
    exact ⟨removeExact kept (entryRemove gone),answered,by simp⟩

theorem runExact {trace : List Reaped} (run : (machine u timeout).Run (Refreshing u) w trace) :
    w.Exact ∧ w.Answered ∧ ∀ r ∈ trace, Reaped.Silent r := by
  rw [← and_assoc]
  refine Machine.runOutputs (fun w => w.Exact ∧ w.Answered) Reaped.Silent ⟨?_,?_⟩
    (fun {w e w' out} holds met taken => ?_) run
  · intro k s found
    simp [machine,RtspSessionManager.get,RtspSessionManager.withTimeout] at found
  · intro c k current
    simp [machine,connection] at current
  · rw [and_assoc]
    exact stepExact holds.1 holds.2 met taken

theorem passLists {now : Time} {out : List Reaped} (taken : w.step u (.pass now) = some (w',out)) {k : Text}
    {s : RtspSession} (found : w.manager.get k = some s) (silent : now - s.lastActivity > w.manager.timeout) :
    (k,now) ∈ w'.passes := by
  cases taken
  refine List.mem_append_right _ (List.mem_map.mpr ⟨k,List.mem_filter.mpr ⟨?_,?_⟩,rfl⟩)
  · exact Table.memKeys.mpr (by rw [← RtspSessionManager.get,found]; rfl)
  · simp [RtspSessionManager.isExpired,found,RtspSession.isExpired,silent]

theorem silenceEndsSessions {trace : List Reaped} (run : (machine u timeout).Run (Refreshing u) w trace) :
    (∀ k s, w.manager.get k = some s → w.heard.get k = some s.lastActivity) ∧
      (∀ now w' out, w.step u (.pass now) = some (w',out) → ∀ k s t, w.manager.get k = some s → w.heard.get k = some t →
        now - t > w.manager.timeout → (k,now) ∈ w'.passes) ∧
      (∀ k listed, (k,listed) ∈ w.passes → ∃ w' out, w.step u (.passRemoves k listed) = some (w',out) ∧
        w'.manager.get k = none) ∧
      ∀ r ∈ trace, ∃ t, r.heard = some t ∧ r.listed - t > r.timeout := by
  obtain ⟨kept,-,silent⟩ := runExact run
  refine ⟨kept,fun now w' out taken k s t found heard late => ?_,fun k listed member => ?_,silent⟩
  · cases (kept k s found).symm.trans heard
    exact passLists taken found late
  · refine ⟨_,_,if_pos member,?_⟩
    have gone := (removeExpiredEntry w.manager k).after k
    rwa [if_pos rfl] at gone

section Run

theorem silenceEndsSessionsRun : ∃ (w : Activity) (trace : List Reaped),
    (machine .ascii 10).Run (Refreshing .ascii) w trace ∧ trace.length = 1 ∧ w.manager.get ['a'] = none ∧
    ∀ r ∈ trace, ∃ t, r.heard = some t ∧ r.listed - t > r.timeout := by
  have setup := Machine.runStep (.start : (machine .ascii 10).Run (Refreshing .ascii) _ _)
    (.request 0 setupVideo) (fun _ _ named => by contradiction) rfl
  have data := Machine.runStep setup (.data 0 9) (fun k member _ _ => .inr (by
    cases List.mem_singleton.mp member
    rfl)) rfl
  have pass := Machine.runStep data (.pass 30) trivial rfl
  have reaped := Machine.runStep pass (.passRemoves ['a'] 30) (fun s found => by
    cases found
    rfl) rfl
  exact ⟨_,_,reaped,rfl,rfl,(silenceEndsSessions reaped).2.2.2⟩

theorem reportRefreshes : ¬ ∀ (w : Activity) (trace : List Reaped), (machine .ascii 10).Reaches w trace →
    ∀ k s, w.manager.get k = some s → w.heard.get k = some s.lastActivity := by
  intro always
  have setup := Machine.runStep (.start : (machine .ascii 10).Reaches _ _) (.request 0 setupVideo) trivial rfl
  have playing := Machine.runStep setup (.request 0 playBoth) trivial rfl
  have reported := Machine.runStep playing (.report 0 100) trivial rfl
  have heard := always _ _ reported ['a'] _ rfl
  exact absurd heard (by decide)

end Run

end Activity
end Vscreen.Rtsp
