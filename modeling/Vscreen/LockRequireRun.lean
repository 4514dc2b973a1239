import Vscreen.LockRequire

/-! A `require_lock` task that runs alone: its sections, one after the other, do what
`requireLock` does. -/
namespace Vscreen.Lock
namespace Sys

inductive Alone (t : CallId) : Sys → Sys → List Event → Prop where
  | rest (σ : Sys) : Alone t σ σ []
  | next {σ σ₁ σ₂ out outs} (x : Reading) (taken : σ.resume t x (σ.tasks t) = some (σ₁,out))
      (later : Alone t σ₁ σ₂ outs) : Alone t σ σ₂ (out ++ outs)

def Ends (t : CallId) (q : Requirement) (σ : Sys) (result : LockManager × Except LockError Unit) : Prop :=
  ∃ σ' outs, Alone t σ σ' outs ∧ σ'.manager = result.1 ∧ σ'.tasks t = .idle ∧
    outs.getLast? = some (.required q result.2)

section
variable {t : CallId} {q : Requirement} {σ : Sys} {x : Reading}

theorem endsNext {σ₁ : Sys} {out : List Event} {result : LockManager × Except LockError Unit}
    (taken : σ.resume t x (σ.tasks t) = some (σ₁,out)) (ends : Ends t q σ₁ result) : Ends t q σ result := by
  obtain ⟨σ',outs,alone,manager,idle,last⟩ := ends
  refine ⟨σ',out ++ outs,.next x taken alone,manager,idle,?_⟩
  rw [List.getLast?_append,last]
  rfl

theorem endsNow {m : LockManager} {notified : List WaitEntry} {out : List Event} {reply : Except LockError Unit}
    (taken : σ.resume t x (σ.tasks t) = some (σ.advance t m notified .idle,out ++ [.required q reply])) :
    Ends t q σ (m,reply) := by
  refine ⟨_,_,.next x taken (.rest _),rfl,by simp [advance],?_⟩
  rw [List.append_nil,List.getLast?_append]
  rfl

@[simp] theorem advanceTask (m : LockManager) (notified : List WaitEntry) (task : Task) :
    (σ.advance t m notified task).tasks t = task := by
  simp [advance]

@[simp] theorem advanceManager (m : LockManager) (notified : List WaitEntry) (task : Task) :
    (σ.advance t m notified task).manager = m := rfl

theorem recheckEnds (x : Reading) (at_ : σ.tasks t = .rechecking q) : Ends t q σ (σ.manager.recheck q) := by
  refine @endsNow t q σ x σ.manager [] [] _ ?_
  rw [at_]
  rfl

def acquireAgain (m : LockManager) (q : Requirement) (y : Reading) : LockManager × Except LockError Unit :=
  match m.autoAcquire q y with
  | (m',.ok _) => (m',.ok ())
  | (m',.error _) => m'.recheck q

theorem acquireAgainEnds (y : Reading) (at_ : σ.tasks t = .acquiringAgain q) :
    Ends t q σ (acquireAgain σ.manager q y) := by
  unfold acquireAgain
  cases acquired : σ.manager.autoAcquire q y with
  | mk m reply =>
    have inner : σ.manager.acquireInner q.request true y.now y.token = (m,reply) := acquired
    cases reply with
    | ok info =>
      refine @endsNow t q σ y m [] [.granted q.request true info] _ ?_
      rw [at_]
      simp [resume,acquire,inner,grantEvents]
    | error error =>
      have taken : σ.resume t y (σ.tasks t) = some (σ.advance t m [] (.rechecking q),[]) := by
        rw [at_]
        simp [resume,acquire,inner,grantEvents]
      exact endsNext taken (recheckEnds y (advanceTask _ _ _))

theorem seizeEnds {result : LockManager × Except LockError Unit} {holder : LockInfo} {rest : List LockInfo}
    (x : Reading) (at_ : σ.tasks t = .seizing q holder rest)
    (later : ∀ σ' : Sys, σ'.tasks t = .sweeping q rest →
      σ'.manager = (σ.manager.release q.instanceId holder.sessionId).1 → Ends t q σ' result) : Ends t q σ result := by
  cases released : σ.manager.releaseSection q.instanceId holder.sessionId none with
  | mk m ended =>
    have left : (σ.manager.release q.instanceId holder.sessionId).1 =
        if ended.cleanup then m.removeEntry q.instanceId else m := by
      simp [LockManager.release,LockManager.releaseWithToken,released]
    have taken : σ.resume t x (σ.tasks t) = some (σ.advance t m ended.notified
        (if ended.cleanup then .removing q.instanceId (.sweeping q rest) else .sweeping q rest),
        [.released q.instanceId holder.sessionId none true]) := by
      rw [at_]
      simp [resume,release,released]
    refine endsNext taken ?_
    cases cleanup : ended.cleanup with
    | false =>
      refine later _ (advanceTask _ _ _) ?_
      rw [left,cleanup]
      rfl
    | true =>
      have removed : (σ.advance t m ended.notified (.removing q.instanceId (.sweeping q rest))).resume t x
          ((σ.advance t m ended.notified (.removing q.instanceId (.sweeping q rest))).tasks t) =
          some ((σ.advance t m ended.notified (.removing q.instanceId (.sweeping q rest))).advance t
            (m.removeEntry q.instanceId) [] (.sweeping q rest),[]) := by
        rw [advanceTask]
        rfl
      refine endsNext removed (later _ (advanceTask _ _ _) ?_)
      rw [left,cleanup]
      rfl

theorem sweepEnds (x y : Reading) (holders : List LockInfo) : ∀ σ : Sys, σ.tasks t = .sweeping q holders →
    Ends t q σ (acquireAgain (holders.foldl (LockManager.reclaimObserver q.instanceId) σ.manager) q y) := by
  induction holders with
  | nil =>
    intro σ at_
    have taken : σ.resume t x (σ.tasks t) = some (σ.quiet t (.acquiringAgain q),[]) := by
      rw [at_]
      rfl
    exact endsNext taken (acquireAgainEnds y (advanceTask _ _ _))
  | cons holder rest ih =>
    intro σ at_
    have taken : σ.resume t x (σ.tasks t) = some (σ.quiet t
        (if holder.autoAcquired || !σ.manager.isSessionActive holder.sessionId
          then .seizing q holder rest else .sweeping q rest),[]) := by
      rw [at_]
      rfl
    refine endsNext taken ?_
    rw [List.foldl_cons,LockManager.reclaimObserver]
    cases reclaims : holder.autoAcquired || !σ.manager.isSessionActive holder.sessionId with
    | true =>
      refine seizeEnds x (advanceTask _ _ _) ?_
      intro σ' next left
      have ends := ih σ' next
      rw [left] at ends
      exact ends
    | false => exact ih _ (advanceTask _ _ _)

theorem reclaimFold (m : LockManager) (id : InstanceId) :
    m.reclaim id = (((m.status id).exclusiveHolder.filter (fun e => e.autoAcquired)).toList ++
      (m.status id).observers).foldl (LockManager.reclaimObserver id) m := by
  rw [List.foldl_append,LockManager.reclaim,LockManager.reclaimExclusive]
  cases (m.status id).exclusiveHolder with
  | none => rfl
  | some exc =>
    cases auto : exc.autoAcquired with
    | true => simp [auto,Option.filter,LockManager.reclaimObserver]
    | false => simp [auto,Option.filter]

theorem reclaimEnds (x y : Reading) (at_ : σ.tasks t = .reclaiming q) : Ends t q σ (σ.manager.requireAgain q y) := by
  have taken : σ.resume t x (σ.tasks t) = some (σ.quiet t
      (if σ.manager.isAutoAcquired q.instanceId then .readingStatus q else .rechecking q),[]) := by
    rw [at_]
    rfl
  refine endsNext taken ?_
  rw [LockManager.requireAgain]
  cases auto : σ.manager.isAutoAcquired q.instanceId with
  | false => exact recheckEnds x (advanceTask _ _ _)
  | true =>
    have sweeping : ∀ τ : Sys, τ.manager = σ.manager → τ.tasks t = .sweeping q
        (((σ.manager.status q.instanceId).exclusiveHolder.filter (fun e => e.autoAcquired)).toList ++
          (σ.manager.status q.instanceId).observers) → Ends t q τ (acquireAgain (σ.manager.reclaim q.instanceId) q y) := by
      intro τ same swept
      have ends := sweepEnds x y _ τ swept
      rw [same,← reclaimFold] at ends
      exact ends
    have status : (σ.quiet t (.readingStatus q)).resume t x ((σ.quiet t (.readingStatus q)).tasks t) =
        some ((σ.quiet t (.readingStatus q)).quiet t (.sweeping q
          (((σ.manager.status q.instanceId).exclusiveHolder.filter (fun e => e.autoAcquired)).toList ++
            (σ.manager.status q.instanceId).observers)),[]) := by
      rw [quiet,advanceTask]
      rfl
    exact endsNext status (sweeping _ rfl (advanceTask _ _ _))

theorem autoAcquiringEnds (x y : Reading) (at_ : σ.tasks t = .autoAcquiring q) :
    Ends t q σ (match σ.manager.autoAcquire q x with
      | (m',.ok _) => (m',.ok ())
      | (m',.error _) => m'.requireAgain q y) := by
  cases acquired : σ.manager.autoAcquire q x with
  | mk m reply =>
    have inner : σ.manager.acquireInner q.request true x.now x.token = (m,reply) := acquired
    cases reply with
    | ok info =>
      refine @endsNow t q σ x m [] [.granted q.request true info] _ ?_
      rw [at_]
      simp [resume,acquire,inner,grantEvents]
    | error error =>
      have taken : σ.resume t x (σ.tasks t) = some (σ.advance t m [] (.reclaiming q),[]) := by
        rw [at_]
        simp [resume,acquire,inner,grantEvents]
      exact endsNext taken (reclaimEnds x y (advanceTask _ _ _))

end

theorem requireLockAlone (σ : Sys) (t : CallId) (q : Requirement) (x y : Reading) :
    ∃ σ' outs, Alone t (σ.begin t x (.requireLock q)).1 σ' outs ∧
      σ'.manager = (σ.manager.requireLock σ.singleAgentMode q x y).1 ∧ σ'.tasks t = .idle ∧
      ((σ.begin t x (.requireLock q)).2 ++ outs).getLast? =
        some (.required q (σ.manager.requireLock σ.singleAgentMode q x y).2) := by
  cases single : σ.singleAgentMode with
  | true =>
    simp only [begin,LockManager.requireLock,single,if_true]
    exact ⟨_,[],.rest _,rfl,advanceTask _ _ _,rfl⟩
  | false =>
    cases access : σ.manager.checkAccess q.instanceId q.sessionId q.required with
    | ok =>
      simp only [begin,LockManager.requireLock,single,access,Bool.false_eq_true,if_false]
      exact ⟨_,[],.rest _,rfl,advanceTask _ _ _,rfl⟩
    | error error =>
      simp only [begin,LockManager.requireLock,single,access,Bool.false_eq_true,if_false]
      cases error with
      | notHeld => exact autoAcquiringEnds x y (advanceTask _ _ _)
      | _ => exact reclaimEnds x y (advanceTask _ _ _)

end Sys
end Vscreen.Lock
