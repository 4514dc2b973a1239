import Vscreen.LockExclusion
import Vscreen.LockMoves

/-! What clients were told, set against what the manager records. The ledger of
a run folds its events: a grant is held from the reply that gives it to the event
that ends it. `explicitOnly` selects the grants of `vscreen_lock` and lets no
reclaim end them; without it every grant counts and a reclaim ends one. -/
namespace Vscreen.Lock
open InstanceLockState

structure Held where
  info : LockInfo
  explicit : Bool
  deriving DecidableEq

structure Ledger where
  registered : SessionId → Bool
  held : InstanceId → SessionId → Option Held

namespace Ledger

def start : Ledger := ⟨fun _ => false,fun _ _ => none⟩

def wasExplicit (L : Ledger) (id : InstanceId) (s : SessionId) : Bool :=
  (L.held id s).any (fun h => h.explicit)

def hold (L : Ledger) (id : InstanceId) (h : Held) : Ledger :=
  {L with held := fun i s => if i = id ∧ s = h.info.sessionId then some h else L.held i s}

def keep (L : Ledger) (id : InstanceId) (p : LockInfo → Bool) : Ledger :=
  {L with held := fun i s => if i = id then (L.held i s).filter (fun h => p h.info) else L.held i s}

def forget (L : Ledger) (s : SessionId) : Ledger where
  registered := Function.update L.registered s false
  held i u := if u = s then (L.held i u).map (fun h => {h with explicit := false}) else L.held i u

def record (explicitOnly : Bool) (L : Ledger) : Event → Ledger
  | .granted r auto info => L.hold r.instanceId ⟨info,L.wasExplicit r.instanceId info.sessionId ||
      !auto && r.lockType == .exclusive && L.registered info.sessionId⟩
  | .renewed id info => L.hold id ⟨info,L.wasExplicit id info.sessionId⟩
  | .released id s token reclaim =>
      if explicitOnly && reclaim then L else L.keep id (fun o => !matchesHolder s token o)
  | .reaped id now => L.keep id (unexpired now)
  | .registered s => {L with registered := Function.update L.registered s true}
  | .forgotten s => L.forget s
  | .returned _ _ => L
  | .required _ _ => L

def ofTrace (explicitOnly : Bool) (trace : List Event) : Ledger := trace.foldl (record explicitOnly) start

theorem ofTraceAppend (explicitOnly trace out) : ofTrace explicitOnly (trace ++ out) =
    out.foldl (record explicitOnly) (ofTrace explicitOnly trace) := List.foldl_append

theorem recordChecked {σ out} (said : CheckEvents σ out) (explicitOnly L) :
    out.foldl (record explicitOnly) L = L := by
  rcases said with rfl | ⟨q,reply,rfl,_⟩ <;> rfl

theorem recordAcquired {r reply extra} (said : AutoEvents r reply extra) (explicitOnly L) :
    extra.foldl (record explicitOnly) L = L := by
  rcases said with rfl | ⟨q,info,_,_,rfl⟩ <;> rfl

theorem registeredGrant (explicitOnly r auto reply L) :
    ((grantEvents r auto reply).foldl (record explicitOnly) L).registered = L.registered := by
  cases reply <;> rfl

theorem registeredRenew (explicitOnly id reply L) :
    ((renewEvents id reply).foldl (record explicitOnly) L).registered = L.registered := by
  cases reply <;> rfl

end Ledger

def Held.counts (explicitOnly : Bool) (h : Held) : Bool := !explicitOnly || h.explicit

def Recorded (st : InstanceLockState) (info : LockInfo) : Prop :=
  st.exclusive = some info ∨ info ∈ st.observers

theorem recordedAcquired {st st' : InstanceLockState} {r auto now token info}
    (done : Acquired st r auto now token st' (.ok info)) :
    info.sessionId = r.sessionId ∧ Recorded st' info := by
  cases done with
  | renewExclusive holder own => exact ⟨own,.inl rfl⟩
  | renewObserver notHolder type found =>
    have own := List.find?_some found
    exact ⟨by simpa [renewed] using own,.inr (modifyFirstFound found)⟩
  | grantExclusive free type alone => exact ⟨rfl,.inl rfl⟩
  | grantObserver free type fresh => exact ⟨rfl,.inr (by simp)⟩

theorem recordedAside {st st' : InstanceLockState} {r auto now token reply info}
    (done : Acquired st r auto now token st' reply) (other : info.sessionId ≠ r.sessionId)
    (recorded : Recorded st info) : Recorded st' info := by
  cases done with
  | renewExclusive holder own =>
    rcases recorded with held | mem
    · rw [holder] at held
      cases Option.some.inj held
      exact absurd own other
    · exact .inr mem
  | renewObserver notHolder type found =>
    rcases recorded with held | mem
    · exact .inl held
    · refine .inr (modifyFirstOther mem ?_)
      intro same
      exact other (by simpa using List.find?_some same)
  | grantExclusive free type alone =>
    rcases recorded with held | mem
    · rw [free] at held; contradiction
    · rcases alone with none | ⟨o,one,own⟩
      · rw [none] at mem; contradiction
      · rw [one,List.mem_singleton] at mem
        exact absurd (mem ▸ own) other
  | grantObserver free type fresh =>
    rcases recorded with held | mem
    · exact .inl held
    · exact .inr (List.mem_append_left _ mem)
  | lockedExclusive holder other => exact recorded
  | lockedObservers free type observers shared => exact recorded

theorem recordedRefused {st st' : InstanceLockState} {r auto now token info error}
    (done : Acquired st r auto now token st' (.error error)) (recorded : Recorded st info) :
    Recorded st' info := by
  cases done with
  | lockedExclusive holder other => exact recorded
  | lockedObservers free type observers shared => exact recorded

theorem recordedRenewed {st st' : InstanceLockState} {id s token expires info}
    (done : Renewed st id s token expires st' (.ok info)) : Recorded st' info := by
  cases done with
  | exclusive holder own => exact .inl rfl
  | observer found => exact .inr (modifyFirstFound found)

theorem recordedBeside {st st' : InstanceLockState} {id s token expires reply info}
    (done : Renewed st id s token expires st' reply)
    (other : ∀ own, reply = .ok own → info.sessionId ≠ own.sessionId)
    (recorded : Recorded st info) : Recorded st' info := by
  cases done with
  | exclusive holder own =>
    rcases recorded with held | mem
    · rw [holder] at held
      cases Option.some.inj held
      exact absurd rfl (other {info with expiresAt := expires} rfl)
    · exact .inr mem
  | observer found =>
    rcases recorded with held | mem
    · exact .inl held
    · refine .inr (modifyFirstOther mem ?_)
      intro same
      rw [found] at same
      exact other _ rfl (by rw [Option.some.inj same])
  | notHeld => exact recorded

theorem recordedKeep {st st' : InstanceLockState} {p : LockInfo → Bool} {info : LockInfo}
    (exclusive : st'.exclusive = st.exclusive.filter p) (observers : st'.observers = st.observers.filter p)
    (recorded : Recorded st info) (kept : p info = true) : Recorded st' info := by
  rcases recorded with held | mem
  · exact .inl (by rw [exclusive,held]; simp [Option.filter,kept])
  · exact .inr (by rw [observers]; exact List.mem_filter.mpr ⟨mem,kept⟩)

theorem excludesMoves {σ σ' : Sys} {a out} (ex : σ.manager.Excludes) (move : Moves σ a σ' out) :
    σ'.manager.Excludes := by
  cases move with
  | tick passed => exact ex
  | acquire now token sec before after said => exact LockManager.excludesAcquireInner ex _ _ now token
  | retry x at_ => exact LockManager.excludesAcquireInner ex _ _ x.now x.token
  | release sec before after => exact LockManager.excludesReleaseSection ex _ _ _
  | remove x at_ => exact LockManager.excludesRemoveEntry ex _
  | renew now sec before => exact LockManager.excludesRenewWithToken ex _ _ _ _ now
  | reap x at_ after => exact LockManager.excludesReapSection ex _ _
  | enqueue x at_ => exact LockManager.excludesEnqueue ex _ _ _
  | leave x at_ => exact LockManager.excludesRemoveFromQueue ex _ _
  | purge x at_ => exact LockManager.excludesRemoveFromQueue ex _ _
  | wake x at_ => exact ex
  | giveUp x at_ why => exact ex
  | register x before => exact ex
  | forget x before => exact ex
  | other sec before after said => exact ex

theorem systemExcludes {mode guard σ trace} (run : (lockSystem mode).Run guard σ trace) :
    σ.manager.Excludes :=
  Machine.runInvariant (fun σ _ => σ.manager.Excludes) Table.allEmpty
    (fun ex _ taken => excludesMoves ex (stepMoves taken)) run

def Kept (explicitOnly : Bool) (m : LockManager) (L : Ledger) : Prop :=
  ∀ id s h, L.held id s = some h → h.counts explicitOnly = true →
    h.info.sessionId = s ∧ Recorded (m.entry id) h.info

theorem keptSame {explicitOnly m m' L} (kept : Kept explicitOnly m L)
    (same : ∀ id, (m'.entry id).exclusive = (m.entry id).exclusive ∧
      (m'.entry id).observers = (m.entry id).observers) : Kept explicitOnly m' L := by
  intro id s h held counts
  have before := kept id s h held counts
  simpa only [Recorded,(same id).1,(same id).2] using before

theorem holdersRemoveFromQueue (m : LockManager) (id : InstanceId) (s : SessionId) (i : InstanceId) :
    ((m.removeFromQueue id s).entry i).exclusive = (m.entry i).exclusive ∧
    ((m.removeFromQueue id s).entry i).observers = (m.entry i).observers := by
  rw [LockManager.entryRemoveFromQueue]
  split
  · rename_i same; subst same; exact ⟨rfl,rfl⟩
  · exact ⟨rfl,rfl⟩

theorem holdersEnqueue (m : LockManager) (r : LockRequest) (now : Time) (t : CallId) (i : InstanceId) :
    ((m.enqueue r now t).entry i).exclusive = (m.entry i).exclusive ∧
    ((m.enqueue r now t).entry i).observers = (m.entry i).observers := by
  rw [LockManager.entryEnqueue]
  split
  · rename_i same; subst same; exact ⟨rfl,rfl⟩
  · exact ⟨rfl,rfl⟩

theorem keptHold {explicitOnly} {m m' : LockManager} {L : Ledger} {id : InstanceId} {new : Held}
    (kept : Kept explicitOnly m L) (recorded : Recorded (m'.entry id) new.info)
    (beside : ∀ info, info.sessionId ≠ new.info.sessionId → Recorded (m.entry id) info →
      Recorded (m'.entry id) info)
    (elsewhere : ∀ i, i ≠ id → m'.entry i = m.entry i) : Kept explicitOnly m' (L.hold id new) := by
  intro i s h held counts
  simp only [Ledger.hold] at held
  split at held
  · rename_i here
    cases Option.some.inj held
    rw [here.1]
    exact ⟨here.2.symm,recorded⟩
  · rename_i other
    have before := kept i s h held counts
    refine ⟨before.1,?_⟩
    by_cases same : i = id
    · subst same
      exact beside h.info (fun own => other ⟨rfl,before.1.symm.trans own⟩) before.2
    · rw [elsewhere i same]; exact before.2

theorem keptKeep {explicitOnly} {m m' : LockManager} {L : Ledger} {id : InstanceId} {p : LockInfo → Bool}
    (kept : Kept explicitOnly m L) (exclusive : (m'.entry id).exclusive = (m.entry id).exclusive.filter p)
    (observers : (m'.entry id).observers = (m.entry id).observers.filter p)
    (elsewhere : ∀ i, i ≠ id → m'.entry i = m.entry i) : Kept explicitOnly m' (L.keep id p) := by
  intro i s h held counts
  simp only [Ledger.keep] at held
  split at held
  · rename_i same
    subst same
    obtain ⟨held,stays⟩ := Option.filter_eq_some_iff.mp held
    have before := kept i s h held counts
    exact ⟨before.1,recordedKeep exclusive observers before.2 stays⟩
  · rename_i other
    rw [elsewhere i other]
    exact kept i s h held counts

theorem keptAcquire {explicitOnly m L} (kept : Kept explicitOnly m L) (r auto now token) :
    Kept explicitOnly (m.acquireInner r auto now token).1
      ((grantEvents r auto (m.acquireInner r auto now token).2).foldl (Ledger.record explicitOnly) L) := by
  have done := acquireInnerCases (m.entry r.instanceId) r auto now token
  have reply : (m.acquireInner r auto now token).2 =
    ((m.entry r.instanceId).acquireInner r auto now token).2 := rfl
  cases result : ((m.entry r.instanceId).acquireInner r auto now token).2 with
  | error error =>
    rw [reply,result]
    rw [result] at done
    intro id s h held counts
    have before := kept id s h held counts
    refine ⟨before.1,?_⟩
    rw [LockManager.entryAcquireInner]
    split
    · rename_i same
      rw [same] at before
      exact recordedRefused done before.2
    · exact before.2
  | ok info =>
    rw [reply,result]
    rw [result] at done
    have granted := recordedAcquired done
    refine keptHold kept ?_ ?_ ?_
    · rw [LockManager.entryAcquireInner,if_pos rfl]; exact granted.2
    · intro other apart recorded
      rw [LockManager.entryAcquireInner,if_pos rfl]
      exact recordedAside done (fun same => apart (same.trans granted.1.symm)) recorded
    · intro i other
      rw [LockManager.entryAcquireInner,if_neg other]

theorem keptRenew {explicitOnly m L} (kept : Kept explicitOnly m L) (id s token ttl now) :
    Kept explicitOnly (m.renewWithToken id s token ttl now).1
      ((renewEvents id (m.renewWithToken id s token ttl now).2).foldl (Ledger.record explicitOnly) L) := by
  have done := renewWithTokenCases (m.entry id) id s token (expiry now ttl)
  rw [LockManager.replyRenewWithToken]
  cases result : ((m.entry id).renewWithToken id s token (expiry now ttl)).2 with
  | error error =>
    rw [result] at done
    intro i u h held counts
    have before := kept i u h held counts
    refine ⟨before.1,?_⟩
    rw [LockManager.entryRenewWithToken]
    split
    · rename_i same
      rw [same] at before
      exact recordedBeside done (by simp) before.2
    · exact before.2
  | ok info =>
    rw [result] at done
    refine keptHold kept ?_ ?_ ?_
    · rw [LockManager.entryRenewWithToken,if_pos rfl]; exact recordedRenewed done
    · intro other apart recorded
      rw [LockManager.entryRenewWithToken,if_pos rfl]
      exact recordedBeside done (fun own same => by cases same; exact apart) recorded
    · intro i other
      rw [LockManager.entryRenewWithToken,if_neg other]

theorem keptForget {explicitOnly m L} (kept : Kept explicitOnly m L) (s : SessionId) :
    Kept explicitOnly m (L.forget s) := by
  intro id u h held counts
  simp only [Ledger.forget] at held
  split at held
  · obtain ⟨old,was,rfl⟩ := Option.map_eq_some_iff.mp held
    refine kept id u old was ?_
    cases explicitOnly with
    | false => rfl
    | true => simp [Held.counts] at counts
  · exact kept id u h held counts

theorem keptMoves {explicitOnly} {σ σ' : Sys} {a out} {L : Ledger} (kept : Kept explicitOnly σ.manager L)
    (removes : ∀ id, σ.sectionOf a = .remove id → ∀ s h, L.held id s = some h →
      h.counts explicitOnly = false)
    (reclaims : explicitOnly = true → ∀ id s token, σ.sectionOf a = .release id s token true →
      ∀ u h, L.held id u = some h → h.counts explicitOnly = true → matchesHolder s token h.info = false)
    (move : Moves σ a σ' out) :
    Kept explicitOnly σ'.manager (out.foldl (Ledger.record explicitOnly) L) := by
  cases move with
  | tick passed => exact kept
  | acquire now token sec before after said =>
    rw [List.foldl_append,Ledger.recordAcquired said]
    exact keptAcquire kept _ _ now token
  | retry x at_ =>
    rw [List.foldl_append]
    exact keptAcquire kept _ _ x.now x.token
  | @release _ t id s token reclaim task sec before after =>
    have dropped := releaseHolders (σ.manager.entry id) id s token
    have ended : Kept explicitOnly (σ.manager.releaseSection id s token).1
        (L.keep id (fun o => !matchesHolder s token o)) := by
      refine keptKeep kept ?_ ?_ ?_
      · rw [LockManager.entryReleaseSection,if_pos rfl]; exact dropped.1
      · rw [LockManager.entryReleaseSection,if_pos rfl]; exact dropped.2
      · intro i other; rw [LockManager.entryReleaseSection,if_neg other]
    simp only [List.foldl_cons,List.foldl_nil,Ledger.record]
    split
    · -- the ledger ignores the reclaim, so the counted grants must not match it
      rename_i ignored
      simp only [Bool.and_eq_true] at ignored
      obtain ⟨only,rfl⟩ := ignored
      intro i u h held counts
      refine ended i u h ?_ counts
      simp only [Ledger.keep]
      split
      · rename_i same
        subst same
        rw [held]
        simp [Option.filter,reclaims only i s token sec u h held counts]
      · exact held
    · exact ended
  | remove x at_ =>
    have sec := Sys.sectionAt at_ x
    intro i u h held counts
    have before := kept i u h held counts
    refine ⟨before.1,?_⟩
    show Recorded ((σ.manager.removeEntry _).entry i) h.info
    rw [LockManager.entryRemoveEntry]
    split
    · rename_i same
      subst same
      rw [removes i sec u h held] at counts
      contradiction
    · exact before.2
  | renew now sec before => exact keptRenew kept _ _ _ _ now
  | @reap t now id ids task x at_ after =>
    have dropped := reapHolders (σ.manager.entry id) now
    refine keptKeep kept ?_ ?_ ?_
    · show ((σ.manager.reapSection _ _).1.entry _).exclusive = _
      rw [LockManager.entryReapSection,if_pos rfl]; exact dropped.1
    · show ((σ.manager.reapSection _ _).1.entry _).observers = _
      rw [LockManager.entryReapSection,if_pos rfl]; exact dropped.2
    · intro i other
      show (σ.manager.reapSection _ _).1.entry i = _
      rw [LockManager.entryReapSection,if_neg other]
  | enqueue x at_ => exact keptSame kept (fun i => holdersEnqueue _ _ _ _ i)
  | leave x at_ => exact keptSame kept (fun i => holdersRemoveFromQueue _ _ _ i)
  | purge x at_ => exact keptSame kept (fun i => holdersRemoveFromQueue _ _ _ i)
  | wake x at_ => exact kept
  | giveUp x at_ why => exact kept
  | register x before => exact kept
  | forget x before => exact keptForget kept _
  | other sec before after said => rw [Ledger.recordChecked said]; exact kept

/-- `locks.remove(id)` finds no holder: nobody acquired since the guard was dropped. -/
def RemovesNoHolder (σ : Sys) (a : Sys.Action) : Prop :=
  ∀ id, σ.sectionOf a = .remove id →
    (σ.manager.entry id).exclusive = none ∧ (σ.manager.entry id).observers = []

/-- Every lock granted and not ended is recorded for its session, and an exclusive
one is the only lock on its instance. -/
def GrantsSurvive (σ : Sys) (trace : List Event) : Prop :=
  (∀ id s h, (Ledger.ofTrace false trace).held id s = some h →
    h.info.sessionId = s ∧ Recorded (σ.manager.entry id) h.info) ∧
  (∀ id s s' h h', (Ledger.ofTrace false trace).held id s = some h →
    (Ledger.ofTrace false trace).held id s' = some h' → h.info.lockType = .exclusive → s' = s)

theorem recordedExclusive {st : InstanceLockState} {info : LockInfo} (ex : Exclusion st)
    (recorded : Recorded st info) (type : info.lockType = .exclusive) : st.exclusive = some info := by
  rcases recorded with held | mem
  · exact held
  · have other := ex.observerType info mem
    rw [type] at other; contradiction

theorem recordedAlone {st : InstanceLockState} {info info' : LockInfo} (ex : Exclusion st)
    (recorded : Recorded st info) (recorded' : Recorded st info') (type : info.lockType = .exclusive) :
    info' = info := by
  have held := recordedExclusive ex recorded type
  rcases recorded' with held' | mem
  · rw [held] at held'
    exact (Option.some.inj held').symm
  · rw [ex.alone info held] at mem
    contradiction

theorem keptGrants {mode σ trace} (run : (lockSystem mode).Run RemovesNoHolder σ trace) :
    Kept false σ.manager (Ledger.ofTrace false trace) := by
  refine Machine.runInvariant (fun σ trace => Kept false σ.manager (Ledger.ofTrace false trace)) ?_ ?_ run
  · intro id s h held; cases held
  · intro σ trace a σ' out kept met taken
    rw [Ledger.ofTraceAppend]
    refine keptMoves kept ?_ (by simp) (stepMoves taken)
    intro id sec s h held
    have recorded := (kept id s h held rfl).2
    simp [Recorded,(met id sec).1,(met id sec).2] at recorded

theorem grantsSurvive {mode σ trace} (run : (lockSystem mode).Run RemovesNoHolder σ trace) :
    GrantsSurvive σ trace := by
  have kept := keptGrants run
  refine ⟨fun id s h held => kept id s h held rfl,?_⟩
  intro id s s' h h' held held' type
  have own := kept id s h held rfl
  have own' := kept id s' h' held' rfl
  have ex := LockManager.excludesEntry (systemExcludes run) id
  have same := recordedAlone ex own.2 own'.2 type
  rw [← own.1,← own'.1,same]

def instanceDev : InstanceId := ⟨['d','e','v']⟩
def asks (s : SessionId) : LockRequest := ⟨instanceDev,s,none,.exclusive,60 * 10^9⟩
def reads (token : Nat) : Reading := ⟨0,⟨token⟩,[]⟩

theorem grantsSurviveRun : ∃ σ, GrantsSurvive σ
    [.granted (asks ⟨1⟩) false ((asks ⟨1⟩).granted false 0 ⟨1⟩),.released instanceDev ⟨1⟩ none false,
     .granted (asks ⟨2⟩) false ((asks ⟨2⟩).granted false 0 ⟨4⟩)] := by
  have acquired := @Machine.Run.step _ _ _ (lockSystem false) RemovesNoHolder _ _
    (.call 0 (.acquire (asks ⟨1⟩)) (reads 1)) _ _ .start (by intro id sec; cases sec) rfl
  have released := @Machine.Run.step _ _ _ _ _ _ _
    (.call 1 (.releaseWithToken instanceDev ⟨1⟩ none) (reads 2)) _ _ acquired (by intro id sec; cases sec) rfl
  have removed := @Machine.Run.step _ _ _ _ _ _ _ (.resume 1 (reads 3)) _ _ released
    (by intro id sec; cases sec; exact ⟨rfl,rfl⟩) rfl
  have again := @Machine.Run.step _ _ _ _ _ _ _ (.call 2 (.acquire (asks ⟨2⟩)) (reads 4)) _ _ removed
    (by intro id sec; cases sec) rfl
  exact ⟨_,grantsSurvive again⟩

theorem removalLosesGrant :
    ¬ ∀ σ trace, (lockSystem false).Reaches σ trace → GrantsSurvive σ trace := by
  intro claim
  let check := fun (_ : Sys) (trace : List Event) =>
    ((Ledger.ofTrace false trace).held instanceDev ⟨2⟩).any (fun h => h.info.lockType == .exclusive) &&
    ((Ledger.ofTrace false trace).held instanceDev ⟨3⟩).any (fun h => h.info.lockType == .exclusive)
  obtain ⟨σ,trace,run,lost⟩ := Machine.execWitness (lockSystem false)
    [.call 0 (.acquire (asks ⟨1⟩)) (reads 1),.call 1 (.releaseWithToken instanceDev ⟨1⟩ none) (reads 2),
      .call 2 (.acquire (asks ⟨2⟩)) (reads 3),.resume 1 (reads 4),.call 3 (.acquire (asks ⟨3⟩)) (reads 5)]
    check (by decide)
  simp only [check,Bool.and_eq_true,Option.any_eq_true,beq_iff_eq] at lost
  obtain ⟨⟨h,held,type⟩,⟨h',held',_⟩⟩ := lost
  have same := (claim σ trace run).2 _ _ _ h h' held held' type
  simp at same

end Vscreen.Lock
