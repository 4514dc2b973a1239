import Vscreen.LockLedger

/-! `require_lock` (mcp/mod.rs) takes over locks it took itself, and no others. An
explicit grant is an exclusive lock asked for through `vscreen_lock` by a
registered session; it is explicit until that session or its token releases it,
it expires, or the session is unregistered. -/
namespace Vscreen.Lock
open InstanceLockState

/-- An explicit exclusive acquire does not come from a session that holds the
instance by `require_lock`: the record it renews keeps its `auto_acquired` flag. -/
def UpgradesNoAuto (σ : Sys) (a : Sys.Action) : Prop :=
  ∀ r retry, σ.sectionOf a = .acquire r false retry → r.lockType = .exclusive →
    r.sessionId ∈ σ.manager.activeSessions → ∀ e, (σ.manager.entry r.instanceId).exclusive = some e → e.sessionId = r.sessionId → e.autoAcquired = false

/-- The lock a reclaim ends is still one to reclaim: the session's exclusive lock
is auto-acquired, or the session has been unregistered. -/
def ReclaimsAuto (σ : Sys) (a : Sys.Action) : Prop :=
  ∀ id s token, σ.sectionOf a = .release id s token true →
    ∀ e, (σ.manager.entry id).exclusive = some e → matchesHolder s token e = true →
      e.autoAcquired = true ∨ e.sessionId ∉ σ.manager.activeSessions

def RemovesAuto (σ : Sys) (a : Sys.Action) : Prop :=
  ∀ id, σ.sectionOf a = .remove id → ∀ e, (σ.manager.entry id).exclusive = some e →
    e.autoAcquired = true ∨ e.sessionId ∉ σ.manager.activeSessions

def LeavesExplicit (σ : Sys) (a : Sys.Action) : Prop :=
  UpgradesNoAuto σ a ∧ ReclaimsAuto σ a ∧ RemovesAuto σ a

def SectionLeaves (m : LockManager) : Section → Prop
  | .acquire r false _ => r.lockType = .exclusive → r.sessionId ∈ m.activeSessions →
      ∀ e ∈ (m.entry r.instanceId).exclusive, e.sessionId = r.sessionId → e.autoAcquired = false
  | .release id s token true => ∀ e ∈ (m.entry id).exclusive, matchesHolder s token e = true →
      e.autoAcquired = true ∨ e.sessionId ∉ m.activeSessions
  | .remove id => ∀ e ∈ (m.entry id).exclusive, e.autoAcquired = true ∨ e.sessionId ∉ m.activeSessions
  | _ => True

instance (m : LockManager) : DecidablePred (SectionLeaves m) := fun sec => by
  unfold SectionLeaves
  split <;> infer_instance

theorem leavesSection {σ : Sys} {a : Sys.Action} : SectionLeaves σ.manager (σ.sectionOf a) ↔ LeavesExplicit σ a := by
  rw [LeavesExplicit,UpgradesNoAuto,ReclaimsAuto,RemovesAuto]
  generalize σ.sectionOf a = sec
  constructor
  · intro leaves
    refine ⟨?_,?_,?_⟩
    · rintro r retry rfl
      exact leaves
    · rintro id s token rfl
      exact leaves
    · rintro id rfl
      exact leaves
  · rintro ⟨upgrades,reclaims,removes⟩
    unfold SectionLeaves
    split
    · exact upgrades _ _ rfl
    · exact reclaims _ _ _ rfl
    · exact removes _ rfl
    · trivial

instance (σ : Sys) (a : Sys.Action) : Decidable (LeavesExplicit σ a) := decidable_of_iff _ leavesSection

structure Explicit (σ : Sys) (L : Ledger) : Prop where
  kept : Kept true σ.manager L
  asked : ∀ id s h, L.held id s = some h → h.explicit = true →
    h.info.lockType = .exclusive ∧ h.info.autoAcquired = false ∧ L.registered s = true
  active : ∀ s, L.registered s = true ↔ s ∈ σ.manager.activeSessions

theorem acquiredByHolder {st st' : InstanceLockState} {r auto now token info e} (ex : Exclusion st)
    (done : Acquired st r auto now token st' (.ok info)) (holder : st.exclusive = some e) :
    e.sessionId = r.sessionId ∧ info = renewed r.agentName (expiry now r.ttl) e := by
  cases done with
  | renewExclusive holder' own =>
    rw [holder'] at holder
    cases Option.some.inj holder
    exact ⟨own,rfl⟩
  | renewObserver notHolder type found => rw [ex.alone e holder] at found; contradiction
  | grantExclusive free type alone => rw [free] at holder; contradiction
  | grantObserver free type fresh => rw [free] at holder; contradiction

theorem acquiredExplicit {st st' : InstanceLockState} {r now token info} (ex : Exclusion st)
    (done : Acquired st r false now token st' (.ok info)) (type : r.lockType = .exclusive)
    (upgrades : ∀ e, st.exclusive = some e → e.sessionId = r.sessionId → e.autoAcquired = false) :
    info.lockType = .exclusive ∧ info.autoAcquired = false := by
  cases done with
  | renewExclusive holder own =>
    have type' := ex.exclusiveType _ holder
    have auto := upgrades _ holder own
    exact ⟨type',auto⟩
  | renewObserver notHolder observer found => rw [type] at observer; contradiction
  | grantExclusive free _ alone => exact ⟨type,rfl⟩
  | grantObserver free observer fresh => rw [type] at observer; contradiction

theorem renewedByHolder {st st' : InstanceLockState} {id s token expires info e} (ex : Exclusion st)
    (done : Renewed st id s token expires st' (.ok info)) (holder : st.exclusive = some e) :
    info = {e with expiresAt := expires} := by
  cases done with
  | exclusive holder' own =>
    rw [holder'] at holder
    cases Option.some.inj holder
    rfl
  | observer found => rw [ex.alone e holder] at found; contradiction

theorem explicitRecord {σ L} (ex : σ.manager.Excludes) (inv : Explicit σ L) {id s h}
    (held : L.held id s = some h) (explicit : h.explicit = true) :
    h.info.sessionId = s ∧ (σ.manager.entry id).exclusive = some h.info := by
  have kept := inv.kept id s h held (by simp [Held.counts,explicit])
  have asked := inv.asked id s h held explicit
  exact ⟨kept.1,recordedExclusive (LockManager.excludesEntry ex id) kept.2 asked.1⟩

theorem explicitLive {σ L} (inv : Explicit σ L) {id s h} (held : L.held id s = some h)
    (explicit : h.explicit = true) (own : h.info.sessionId = s) :
    ¬ (h.info.autoAcquired = true ∨ h.info.sessionId ∉ σ.manager.activeSessions) := by
  have asked := inv.asked id s h held explicit
  rintro (auto | gone)
  · rw [asked.2.1] at auto; contradiction
  · rw [own] at gone
    exact gone ((inv.active s).mp asked.2.2)

def Asked (L : Ledger) : Prop := ∀ id s h, L.held id s = some h → h.explicit = true →
  h.info.lockType = .exclusive ∧ h.info.autoAcquired = false ∧ L.registered s = true

theorem askedKeep {L : Ledger} (asked : Asked L) (id : InstanceId) (p : LockInfo → Bool) :
    Asked (L.keep id p) := by
  intro i s h held
  simp only [Ledger.keep] at held
  split at held
  · exact asked i s h (Option.filter_eq_some_iff.mp held).1
  · exact asked i s h held

theorem askedHold {L : Ledger} (asked : Asked L) {id : InstanceId} {new : Held}
    (fresh : new.explicit = true → new.info.lockType = .exclusive ∧ new.info.autoAcquired = false ∧
      L.registered new.info.sessionId = true) : Asked (L.hold id new) := by
  intro i s h held explicit
  simp only [Ledger.hold] at held
  split at held
  · rename_i here
    cases Option.some.inj held
    rw [here.2]
    exact fresh explicit
  · exact asked i s h held explicit

theorem askedForget {L : Ledger} (asked : Asked L) (s : SessionId) : Asked (L.forget s) := by
  intro id u h held explicit
  simp only [Ledger.forget] at held
  split at held
  · obtain ⟨old,_,rfl⟩ := Option.map_eq_some_iff.mp held
    contradiction
  · rename_i other
    have before := asked id u h held explicit
    refine ⟨before.1,before.2.1,?_⟩
    simp only [Ledger.forget,Function.update_of_ne other]
    exact before.2.2

theorem askedAcquire {σ L} (ex : σ.manager.Excludes) (inv : Explicit σ L) {r auto now token}
    (upgrades : auto = false → r.lockType = .exclusive → r.sessionId ∈ σ.manager.activeSessions →
      ∀ e, (σ.manager.entry r.instanceId).exclusive = some e → e.sessionId = r.sessionId →
      e.autoAcquired = false) :
    Asked ((grantEvents r auto (σ.manager.acquireInner r auto now token).2).foldl (Ledger.record true) L) := by
  have done := acquireInnerCases (σ.manager.entry r.instanceId) r auto now token
  have reply : (σ.manager.acquireInner r auto now token).2 =
    ((σ.manager.entry r.instanceId).acquireInner r auto now token).2 := rfl
  have exclusion := LockManager.excludesEntry ex r.instanceId
  cases result : ((σ.manager.entry r.instanceId).acquireInner r auto now token).2 with
  | error error => rw [reply,result]; exact inv.asked
  | ok info =>
    rw [reply,result]
    rw [result] at done
    refine askedHold inv.asked ?_
    intro explicit
    simp only [Bool.or_eq_true,Bool.and_eq_true,Bool.not_eq_true',beq_iff_eq] at explicit
    rcases explicit with was | ⟨⟨rfl,type⟩,registered⟩
    · -- explicit before: the holder renews its own record
      obtain ⟨h,held,explicit⟩ := Option.any_eq_true _ _ |>.mp was
      have record := explicitRecord ex inv held explicit
      have asked := inv.asked _ _ h held explicit
      obtain ⟨_,rfl⟩ := acquiredByHolder exclusion done record.2
      exact ⟨asked.1,asked.2.1,asked.2.2⟩
    · have own := (recordedAcquired done).1
      have fresh := acquiredExplicit exclusion done type
        (upgrades rfl type ((inv.active _).mp (own ▸ registered)))
      exact ⟨fresh.1,fresh.2,registered⟩

theorem askedRenew {σ L} (ex : σ.manager.Excludes) (inv : Explicit σ L) {id s token ttl now} :
    Asked ((renewEvents id (σ.manager.renewWithToken id s token ttl now).2).foldl (Ledger.record true) L) := by
  have done := renewWithTokenCases (σ.manager.entry id) id s token (expiry now ttl)
  rw [LockManager.replyRenewWithToken]
  cases result : ((σ.manager.entry id).renewWithToken id s token (expiry now ttl)).2 with
  | error error => exact inv.asked
  | ok info =>
    rw [result] at done
    refine askedHold inv.asked ?_
    intro was
    obtain ⟨h,held,explicit⟩ := Option.any_eq_true _ _ |>.mp was
    have record := explicitRecord ex inv held explicit
    have asked := inv.asked _ _ h held explicit
    have same := renewedByHolder (LockManager.excludesEntry ex id) done record.2
    subst same
    exact asked

theorem explicitMoves {σ σ' : Sys} {a out L} (ex : σ.manager.Excludes) (inv : Explicit σ L)
    (met : LeavesExplicit σ a) (move : Moves σ a σ' out) :
    Explicit σ' (out.foldl (Ledger.record true) L) := by
  obtain ⟨upgrades,reclaims,removes⟩ := met
  have kept : Kept true σ'.manager (out.foldl (Ledger.record true) L) := by
    refine keptMoves inv.kept ?_ ?_ move
    · intro id sec s h held
      by_contra counts
      simp only [Held.counts,Bool.not_true,Bool.false_or,Bool.not_eq_false] at counts
      have record := explicitRecord ex inv held counts
      exact explicitLive inv held counts record.1 (removes id sec h.info record.2)
    · intro _ id s token sec u h held counts
      simp only [Held.counts,Bool.not_true,Bool.false_or] at counts
      by_contra hit
      have record := explicitRecord ex inv held counts
      exact explicitLive inv held counts record.1
        (reclaims id s token sec h.info record.2 (by simpa using hit))
  cases move with
  | tick passed => exact ⟨kept,inv.asked,inv.active⟩
  | acquire now token sec before after said =>
    refine ⟨kept,?_,?_⟩
    · rw [List.foldl_append,Ledger.recordAcquired said]
      refine askedAcquire ex inv ?_
      rintro rfl
      exact upgrades _ _ sec
    · rw [List.foldl_append,Ledger.recordAcquired said,Ledger.registeredGrant]
      exact inv.active
  | retry x at_ =>
    refine ⟨kept,?_,?_⟩
    · rw [List.foldl_append]
      exact askedAcquire ex inv (fun _ => upgrades _ _ (Sys.sectionAt at_ x))
    · rw [List.foldl_append,List.foldl_cons,List.foldl_nil,Ledger.record,Ledger.registeredGrant]
      exact inv.active
  | release sec before after =>
    simp only [List.foldl_cons,List.foldl_nil,Ledger.record] at kept ⊢
    split at kept
    · rename_i ignored
      rw [if_pos ignored]
      exact ⟨kept,inv.asked,inv.active⟩
    · rename_i ends
      rw [if_neg ends]
      exact ⟨kept,askedKeep inv.asked _ _,inv.active⟩
  | remove x at_ => exact ⟨kept,inv.asked,inv.active⟩
  | renew now sec before =>
    refine ⟨kept,askedRenew ex inv,?_⟩
    intro u
    rw [Ledger.registeredRenew]
    exact (inv.active u).trans (by rw [Sys.advance,LockManager.sessionsRenewWithToken])
  | reap x at_ after =>
    refine ⟨kept,askedKeep inv.asked _ _,?_⟩
    intro u
    exact (inv.active u).trans (by rw [Sys.advance,LockManager.sessionsReapSection])
  | enqueue x at_ => exact ⟨kept,inv.asked,inv.active⟩
  | leave x at_ =>
    refine ⟨kept,inv.asked,?_⟩
    intro u
    exact (inv.active u).trans (by rw [Sys.advance,LockManager.sessionsRemoveFromQueue])
  | purge x at_ =>
    refine ⟨kept,inv.asked,?_⟩
    intro u
    exact (inv.active u).trans (by rw [Sys.advance,LockManager.sessionsRemoveFromQueue])
  | wake x at_ => exact ⟨kept,inv.asked,inv.active⟩
  | giveUp x at_ why => exact ⟨kept,inv.asked,inv.active⟩
  | @register t s x before =>
    refine ⟨kept,?_,?_⟩
    · intro id u h held explicit
      have old := inv.asked id u h held explicit
      refine ⟨old.1,old.2.1,?_⟩
      simp only [List.foldl_cons,List.foldl_nil,Ledger.record,Function.update_apply]
      split
      · rfl
      · exact old.2.2
    · intro u
      rw [Sys.advance,LockManager.memRegisterSession,← inv.active u]
      simp only [List.foldl_cons,List.foldl_nil,Ledger.record,Function.update_apply]
      split
      · rename_i same; simp [same]
      · rename_i other; simp [other]
  | @forget t s x before =>
    refine ⟨kept,askedForget inv.asked _,?_⟩
    intro u
    rw [Sys.advance,LockManager.memForgetSession,← inv.active u]
    simp only [List.foldl_cons,List.foldl_nil,Ledger.record,Ledger.forget,Function.update_apply]
    split
    · rename_i same; simp [same]
    · rename_i other; simp [other]
  | other sec before after said =>
    rw [Ledger.recordChecked said] at kept ⊢
    exact ⟨kept,inv.asked,inv.active⟩

theorem modeMoves {σ σ' : Sys} {a out} (move : Moves σ a σ' out) :
    σ'.singleAgentMode = σ.singleAgentMode := by
  cases move <;> rfl

theorem requiredByHolder {σ σ' : Sys} {a out q e} (ex : σ.manager.Excludes) (move : Moves σ a σ' out)
    (holder : (σ.manager.entry q.instanceId).exclusive = some e) (mode : σ.singleAgentMode = false)
    (told : .required q (.ok ()) ∈ out) : q.sessionId = e.sessionId := by
  cases move with
  | @acquire _ t r auto task extra now token sec before after said =>
    rcases List.mem_append.mp told with grant | extra
    · revert grant
      cases (σ.manager.acquireInner _ _ now token).2 <;> simp [grantEvents]
    · rcases said with rfl | ⟨q',info,rfl,ok,rfl⟩
      · contradiction
      · simp only [List.mem_singleton,Event.required.injEq,and_true] at extra
        subst extra
        have done := acquireInnerCases (σ.manager.entry q.instanceId) q.request auto now token
        have reply : ((σ.manager.entry q.instanceId).acquireInner q.request auto now token).2 = .ok info := ok
        rw [reply] at done
        exact (acquiredByHolder (LockManager.excludesEntry ex _) done holder).1.symm
  | retry x at_ =>
    rcases List.mem_append.mp told with grant | extra
    · revert grant
      cases (σ.manager.acquireInner _ _ x.now x.token).2 <;> simp [grantEvents]
    · simp at extra
  | renew now sec before =>
    revert told
    cases (σ.manager.renewWithToken _ _ _ _ now).2 <;> simp [renewEvents]
  | other sec before after said =>
    rcases said with rfl | ⟨q',reply,rfl,access⟩
    · contradiction
    · simp only [List.mem_singleton,Event.required.injEq] at told
      obtain ⟨rfl,rfl⟩ := told
      rcases access rfl with single | access
      · rw [mode] at single; contradiction
      · rw [LockManager.checkAccessEntry] at access
        simp only [checkAccessWithToken,holder,matchesHolder,Option.any_none,Bool.or_false] at access
        split at access
        · rename_i own; exact (beq_iff_eq.mp own).symm
        · contradiction
  | _ => simp at told

/-- Every explicit grant is its owner's recorded exclusive lock, and the next
`require_lock` that succeeds on the instance can only be its owner's. -/
def ExplicitSafe (σ : Sys) (trace : List Event) : Prop :=
  ∀ id s h, (Ledger.ofTrace true trace).held id s = some h → h.explicit = true →
    h.info.sessionId = s ∧ (σ.manager.entry id).exclusive = some h.info ∧
    ∀ a σ' out q, σ.step a = some (σ',out) → .required q (.ok ()) ∈ out → q.instanceId = id →
      q.sessionId = s

theorem explicitRun {σ trace} (run : (lockSystem false).Run LeavesExplicit σ trace) :
    Explicit σ (Ledger.ofTrace true trace) ∧ σ.manager.Excludes ∧ σ.singleAgentMode = false := by
  refine Machine.runInvariant (fun σ trace => Explicit σ (Ledger.ofTrace true trace) ∧
    σ.manager.Excludes ∧ σ.singleAgentMode = false) ?_ ?_ run
  · refine ⟨⟨?_,?_,?_⟩,Table.allEmpty,rfl⟩
    · intro id s h held; cases held
    · intro id s h held; cases held
    · intro s
      show false = true ↔ s ∈ []
      simp
  · intro σ trace a σ' out inv met taken
    obtain ⟨explicit,ex,mode⟩ := inv
    have move := stepMoves taken
    rw [Ledger.ofTraceAppend]
    exact ⟨explicitMoves ex explicit met move,excludesMoves ex move,(modeMoves move).trans mode⟩

theorem explicitSafe {σ trace} (run : (lockSystem false).Run LeavesExplicit σ trace) :
    ExplicitSafe σ trace := by
  obtain ⟨inv,ex,mode⟩ := explicitRun run
  intro id s h held explicit
  have record := explicitRecord ex inv held explicit
  refine ⟨record.1,record.2,?_⟩
  intro a σ' out q taken told same
  have holder : (σ.manager.entry q.instanceId).exclusive = some h.info := by rw [same]; exact record.2
  exact (requiredByHolder ex (stepMoves taken) holder mode told).trans record.1

def needs (s : SessionId) : Requirement := ⟨instanceDev,s,.exclusive⟩

def lab : InstanceId := ⟨['l','a','b']⟩

def besideExplicit : List Sys.Action :=
  [.call 0 (.registerSession ⟨1⟩) (reads 1),.call 1 (.registerSession ⟨2⟩) (reads 2),
    .call 2 (.acquire (asks ⟨1⟩)) (reads 3),.call 3 (.acquire (asks ⟨1⟩)) (reads 4),
    .call 4 (.requireLock (needs ⟨2⟩)) (reads 5),.resume 4 (reads 6),.resume 4 (reads 7),
    .call 5 (.requireLock ⟨lab,⟨2⟩,.exclusive⟩) (reads 8),.resume 5 (reads 9),
    .call 6 (.requireLock ⟨lab,⟨1⟩,.exclusive⟩) (reads 10)] ++ (List.range 7).map fun i => .resume 6 (reads (11 + i))

theorem explicitSafeRun : ∃ σ trace, (lockSystem false).Run LeavesExplicit σ trace ∧
    (σ.manager.entry instanceDev).exclusive.map (·.sessionId) = some ⟨1⟩ ∧
    (σ.manager.entry lab).exclusive.map (·.sessionId) = some ⟨1⟩ ∧ ExplicitSafe σ trace := by
  obtain ⟨σ,trace,run,check⟩ := Machine.meetingWitness (lockSystem false) LeavesExplicit besideExplicit
    (fun σ _ => decide ((σ.manager.entry instanceDev).exclusive.map (·.sessionId) = some ⟨1⟩) &&
      decide ((σ.manager.entry lab).exclusive.map (·.sessionId) = some ⟨1⟩))
    (by decide +kernel)
  simp only [Bool.and_eq_true,decide_eq_true_eq] at check
  exact ⟨σ,trace,run,check.1,check.2,explicitSafe run⟩

theorem upgradeKeepsAuto :
    ¬ ∀ σ trace, (lockSystem false).Reaches σ trace → ExplicitSafe σ trace := by
  intro claim
  let check := fun (σ : Sys) (trace : List Event) =>
    ((Ledger.ofTrace true trace).held instanceDev ⟨1⟩).any (fun h => h.explicit) &&
    (σ.manager.entry instanceDev).exclusive.any (fun e => e.sessionId == ⟨2⟩)
  obtain ⟨σ,trace,run,taken⟩ := Machine.execWitness (lockSystem false)
    [.call 0 (.registerSession ⟨1⟩) (reads 1),.call 1 (.requireLock (needs ⟨1⟩)) (reads 2),
      .resume 1 (reads 3),.call 2 (.acquire (asks ⟨1⟩)) (reads 4),
      .call 3 (.requireLock (needs ⟨2⟩)) (reads 5),.resume 3 (reads 6),.resume 3 (reads 7),
      .resume 3 (reads 8),.resume 3 (reads 9),.resume 3 (reads 10),.resume 3 (reads 11),.resume 3 (reads 12)]
    check (by decide)
  simp only [check,Bool.and_eq_true,Option.any_eq_true,beq_iff_eq] at taken
  obtain ⟨⟨h,held,explicit⟩,⟨e,holder,other⟩⟩ := taken
  have safe := claim σ trace run _ _ h held explicit
  rw [holder] at safe
  have same := safe.1
  rw [← Option.some.inj safe.2.1,other] at same
  simp at same

end Vscreen.Lock
