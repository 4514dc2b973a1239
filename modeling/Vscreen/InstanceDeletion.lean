import Vscreen.AppState
import Vscreen.RtspInstances

/-! What `delete_instance` leaves behind. It clears the registry and the supervisors;
the entry of the lock manager and the RTSP sessions that name the instance stay. -/
namespace Vscreen.Server
open Registry (InstanceRegistry InstanceEntry VScreenError)
open Rtsp (RtspSession RtspSessionManager RtspResponse Exchange)

namespace AppState

def unlocked (s : AppState) (id : InstanceId) : Prop := s.lockManager.manager.status id = ⟨id,none,[],[]⟩

instance (s : AppState) (id : InstanceId) : Decidable (s.unlocked id) :=
  inferInstanceAs (Decidable (s.lockManager.manager.status id = ⟨id,none,[],[]⟩))

def sessionOn (s : AppState) (id : InstanceId) (key : Text) : Prop :=
  ∃ session, s.rtspSessionManager.get key = some session ∧ session.instanceId = id

end AppState

structure Unused (s : AppState) (id : InstanceId) : Prop where
  unlocked : s.unlocked id
  sessions : ∀ key, ¬ s.sessionOn id key

structure OthersKept (before after : AppState) (id : InstanceId) : Prop where
  supervisors : ∀ other, other ≠ id → after.getSupervisor other = before.getSupervisor other
  locks : ∀ other, other ≠ id → Table.get after.lockManager.manager.locks other =
    Table.get before.lockManager.manager.locks other
  sessions : ∀ key session, session.instanceId ≠ id →
    (after.rtspSessionManager.get key = some session ↔ before.rtspSessionManager.get key = some session)

/-- The next instance of the name starts unlocked, and the sessions of the old one cannot play it. -/
structure StartsFresh (u : CaseMapping) (before after : AppState) (id : InstanceId) : Prop where
  unlocked : ∀ config entry s', config.instanceId = id → after.createInstance config = (s',.ok entry) → s'.unlocked id
  silent : ∀ config entry s' key (x : Exchange), config.instanceId = id → after.createInstance config = (s',.ok entry) →
    before.sessionOn id key → x.request.method = .play → x.request.session = some ⟨key⟩ →
    (Rtsp.handleRequest u s'.rtspSessionManager {x with lookup := s'.lookup}).2.status ≠ 200

structure LeavesNothing (u : CaseMapping) (before after : AppState) (id : InstanceId) : Prop where
  supervisor : after.getSupervisor id = none
  unused : Unused after id
  others : OthersKept before after id
  fresh : StartsFresh u before after id

section Delete
variable {u : CaseMapping} {s s' : AppState} {id : InstanceId}

structure Deleted (s s' : AppState) (id : InstanceId) : Prop where
  registered : (Table.get s.registry id).isSome
  registry : ∀ other, Table.get s'.registry other = if other = id then none else Table.get s.registry other
  supervisors : ∀ other, s'.getSupervisor other = if other = id then none else s.getSupervisor other
  lockManager : s'.lockManager = s.lockManager
  sessions : s'.rtspSessionManager = s.rtspSessionManager

theorem removeSupervisorSpec (s : AppState) (id : InstanceId) :
    (∀ other, (s.removeSupervisor id).getSupervisor other = if other = id then none else s.getSupervisor other) ∧
      (s.removeSupervisor id).registry = s.registry ∧ (s.removeSupervisor id).lockManager = s.lockManager ∧
      (s.removeSupervisor id).rtspSessionManager = s.rtspSessionManager := by
  unfold AppState.removeSupervisor
  split
  · rename_i absent
    refine ⟨fun other => ?_,rfl,rfl,rfl⟩
    split
    · rename_i same; rw [same]; exact absent
    · rfl
  · refine ⟨fun other => ?_,rfl,rfl,rfl⟩
    simp only [AppState.getSupervisor,Table.getDel]

theorem deleteCases (s : AppState) (id : InstanceId) :
    (s.deleteInstance id = (s,.error (.instanceNotFound id.name))) ∨
      ∃ s', s.deleteInstance id = (s',.ok ()) ∧ Deleted s s' id := by
  unfold AppState.deleteInstance
  cases found : Table.get s.registry id with
  | none =>
    left
    simp only [InstanceRegistry.remove,found]
  | some entry =>
    right
    simp only [InstanceRegistry.remove,found]
    obtain ⟨supervisors,registry,locks,sessions⟩ := removeSupervisorSpec
      {s with
        registry := Table.del s.registry id
        signalled := {entry with state := .stopping}::s.signalled} id
    refine ⟨_,rfl,by rw [found]; rfl,fun other => ?_,supervisors,locks,sessions⟩
    rw [registry,Table.getDel]

theorem deleteSpec (deleted : s.deleteInstance id = (s',.ok ())) : Deleted s s' id := by
  rcases deleteCases s id with refused | ⟨after,answered,spec⟩
  · cases refused.symm.trans deleted
  · cases answered.symm.trans deleted
    exact spec

theorem deleteOthers (deleted : Deleted s s' id) : OthersKept s s' id where
  supervisors other different := by rw [deleted.supervisors,if_neg different]
  locks other _ := by rw [deleted.lockManager]
  sessions key session _ := by rw [deleted.sessions]

theorem unusedAfter (deleted : Deleted s s' id) : Unused s' id ↔ Unused s id := by
  have locks : s'.unlocked id ↔ s.unlocked id := by rw [AppState.unlocked,deleted.lockManager,AppState.unlocked]
  have sessions : ∀ key, s'.sessionOn id key ↔ s.sessionOn id key := by
    intro key
    rw [AppState.sessionOn,deleted.sessions,AppState.sessionOn]
  constructor
  · exact fun unused => ⟨locks.mp unused.unlocked,fun key on => unused.sessions key ((sessions key).mpr on)⟩
  · exact fun unused => ⟨locks.mpr unused.unlocked,fun key on => unused.sessions key ((sessions key).mp on)⟩

theorem createKeeps {config : InstanceConfig} {result : Except VScreenError InstanceEntry}
    (created : s.createInstance config = (s',result)) :
    s'.lockManager = s.lockManager ∧ s'.rtspSessionManager = s.rtspSessionManager := by
  cases created
  exact ⟨rfl,rfl⟩

theorem freshAfter (deleted : Deleted s s' id) (unused : Unused s id) : StartsFresh u s s' id where
  unlocked config entry s'' _ created := by
    rw [AppState.unlocked,(createKeeps created).1,deleted.lockManager]
    exact unused.unlocked
  silent config entry s'' key x _ _ on := absurd on (unused.sessions key)

theorem deletionLeavesNothing (deleted : s.deleteInstance id = (s',.ok ())) :
    LeavesNothing u s s' id ↔ Unused s id := by
  have spec := deleteSpec deleted
  constructor
  · exact fun leaves => (unusedAfter spec).mp leaves.unused
  · exact fun unused => ⟨by rw [spec.supervisors,if_pos rfl],(unusedAfter spec).mpr unused,deleteOthers spec,
      freshAfter spec unused⟩

end Delete

def UnusedDeletes (s : AppState) : Event → Prop
  | .delete id => Unused s ⟨id⟩
  | _ => True

def SessionsRegistered (s : AppState) : Prop := ∀ key session, s.rtspSessionManager.get key = some session →
  (Table.get s.registry session.instanceId).isSome

section Runs
variable {u : CaseMapping} {timeout : Duration} {singleAgentMode : Bool} {maxInstances : Nat} {s s' : AppState}

theorem createRegistry (registry : InstanceRegistry) (config : InstanceConfig) (id : InstanceId)
    (there : (Table.get registry id).isSome) : (Table.get (registry.create config maxInstances).1 id).isSome := by
  unfold InstanceRegistry.create
  split
  · exact there
  · split
    · exact there
    · simp only [InstanceRegistry.insert,Table.getPut]
      split
      · rfl
      · exact there

theorem lookupExists (s : AppState) (id : Text) :
    s.lookup.instanceExists id = true ↔ (Table.get s.registry ⟨id⟩).isSome := by
  simp only [AppState.lookup,InstanceRegistry.get]
  cases Table.get s.registry ⟨id⟩ with
  | none => simp
  | some entry => simp

theorem sessionsStep {event : Event} {out : List Output} (inv : SessionsRegistered s) (clean : UnusedDeletes s event)
    (taken : (appState u timeout singleAgentMode maxInstances).step s event = some (s',out)) : SessionsRegistered s' := by
  cases event with
  | create config =>
    cases taken
    intro key session found
    exact createRegistry s.registry config session.instanceId (inv key session found)
  | setSupervisor id sup => cases taken; exact inv
  | lock action =>
    simp only [appState,AppState.step] at taken
    split at taken
    · cases taken
    · cases taken; exact inv
  | rtsp event =>
    simp only [appState,AppState.step] at taken
    split at taken
    · cases taken
    · rename_i sessions responses moved
      cases taken
      have origin : Rtsp.Origin s.lookup.instanceExists s.rtspSessionManager sessions := by
        refine Rtsp.stepOrigin ?_ moved
        intro x same
        cases event with
        | request y => cases same; rfl
        | keepalive | reap | shutdown | removeExpired | remove => cases same
      intro key session found
      rcases origin key session found with ⟨old,there,same⟩ | known
      · exact same ▸ inv key old there
      · exact (lookupExists s session.instanceId.name).mp known
  | delete id =>
    cases taken
    rcases deleteCases s ⟨id⟩ with refused | ⟨after,answered,spec⟩
    · rw [refused]; exact inv
    · rw [answered]
      intro key session found
      rw [spec.sessions] at found
      have other : session.instanceId ≠ ⟨id⟩ := fun same => clean.sessions key ⟨session,found,same⟩
      rw [spec.registry,if_neg other]
      exact inv key session found

theorem sessionsRegistered {trace : List Output}
    (run : Machine.Run (appState u timeout singleAgentMode maxInstances) UnusedDeletes s trace) : SessionsRegistered s := by
  refine Machine.runInvariant (fun s _ => SessionsRegistered s) ?_ (fun inv clean taken => sessionsStep inv clean taken) run
  intro key session found
  cases found

end Runs

section Run

def dev : InstanceId := ⟨"dev".toList⟩

def devConfig : InstanceConfig :=
  ⟨dev,"ws://localhost:9222/devtools/page/TEST".toList,"test.monitor".toList,none,.default,.default,none⟩

def lockDev : Event :=
  .lock (.call 0 (.acquire ⟨dev,⟨1⟩,none,.exclusive,60 * 10^9⟩) ⟨0,⟨2⟩,[]⟩)

def spare : InstanceId := ⟨"spare".toList⟩

theorem cleanDeletion : ∃ s trace s', Machine.Reaches (appState .ascii 0 false 4) s trace ∧
    ¬ s.unlocked dev ∧ s.sessionOn dev ['a'] ∧ s.deleteInstance spare = (s',.ok ()) ∧ LeavesNothing .ascii s s' spare := by
  obtain ⟨s,trace,reached,check⟩ := Machine.execWitness (appState .ascii 0 false 4)
    [.create devConfig,.create {devConfig with instanceId := spare},lockDev,.rtsp (.request Rtsp.setupVideo)]
    (fun s _ =>
      (s.deleteInstance spare).2.isOk && decide (s.unlocked spare) && !decide (s.unlocked dev) &&
        decide ((s.rtspSessionManager.get ['a']).map (·.instanceId) = some dev) &&
        s.rtspSessionManager.sessions.entries.all fun e => decide (e.2.instanceId ≠ spare))
    (by decide +kernel)
  simp only [Bool.and_eq_true,decide_eq_true_eq,Bool.not_eq_true',decide_eq_false_iff_not] at check
  obtain ⟨⟨⟨⟨deleted,unlocked⟩,locked⟩,there⟩,others⟩ := check
  have elsewhere : ∀ key, ¬ s.sessionOn spare key := by
    rintro key ⟨session,found,same⟩
    have apart : Table.All (fun _ session => session.instanceId ≠ spare) s.rtspSessionManager.sessions := Table.allEntries others
    exact apart key session found same
  have on : s.sessionOn dev ['a'] := Option.map_eq_some_iff.mp there
  rcases deleteCases s spare with refused | ⟨s',answered,-⟩
  · rw [refused] at deleted; cases deleted
  · exact ⟨s,trace,s',reached,locked,on,answered,(deletionLeavesNothing answered).mpr ⟨unlocked,elsewhere⟩⟩

theorem leftBehind : ∃ s trace s', Machine.Reaches (appState .ascii 0 false 4) s trace ∧
    s.deleteInstance dev = (s',.ok ()) ∧ ¬ s'.unlocked dev ∧ ¬ LeavesNothing .ascii s s' dev := by
  obtain ⟨s,trace,reached,check⟩ := Machine.execWitness (appState .ascii 0 false 4)
    [.create devConfig,lockDev,.rtsp (.request Rtsp.setupVideo)]
    (fun s _ =>
      let deleted := s.deleteInstance dev
      let created := deleted.1.createInstance devConfig
      deleted.2.isOk && created.2.isOk && (deleted.1.lockManager.manager.status dev).exclusiveHolder.isSome &&
        decide ((s.rtspSessionManager.get ['a']).map (·.instanceId) = some dev) &&
        decide ((Rtsp.handleRequest .ascii created.1.rtspSessionManager
          {Rtsp.playBoth with lookup := created.1.lookup}).2.status = 200))
    (by decide +kernel)
  simp only [Bool.and_eq_true,decide_eq_true_eq] at check
  obtain ⟨⟨⟨⟨deleted,created⟩,held⟩,on⟩,played⟩ := check
  rcases deleteCases s dev with refused | ⟨s',answered,-⟩
  · rw [refused] at deleted; cases deleted
  · rw [answered] at created held played
    refine ⟨s,trace,s',reached,answered,?_,?_⟩
    · intro unlocked
      rw [unlocked] at held
      cases held
    · intro leaves
      cases again : s'.createInstance devConfig with
      | mk s'' result =>
        rw [again] at created played
        cases result with
        | error e => cases created
        | ok entry =>
          obtain ⟨session,found,same⟩ := Option.map_eq_some_iff.mp on
          exact leaves.fresh.silent devConfig entry s'' ['a'] Rtsp.playBoth rfl again ⟨session,found,same⟩ rfl rfl played

end Run
end Vscreen.Server
