import Vscreen.LockLedger

/-! The expiry dates of locks. `DateTime<Utc> + Duration` panics past the last date
chrono represents; the guard of the entry is then dropped with the state as it is.
Times are nanoseconds since 1970 here; `none` in place of a reply is the panic. -/
namespace Vscreen.Lock
open InstanceLockState

def maxUtc : Time := 8210266876799999999999

def expiryChecked (now : Time) (ttl : Duration) : Option Time :=
  if expiry now ttl ≤ maxUtc then some (expiry now ttl) else none

def ttlOf (ttlSeconds : UInt64) : Duration := max ttlSeconds.toNat 1 * 10^9

abbrev Reply := Option (Except LockError LockInfo)

def InstanceLockState.dated (st : InstanceLockState) (expires : Option Time)
    (write : Time → InstanceLockState × LockInfo) : InstanceLockState × Reply :=
  match expires with
  | some e => ((write e).1,some (.ok (write e).2))
  | none => (st,none)

def InstanceLockState.acquireChecked (st : InstanceLockState) (r : LockRequest) (auto : Bool) (now : Time)
    (token : LockToken) : InstanceLockState × Reply :=
  let mine := fun (o : LockInfo) => o.sessionId == r.sessionId
  let expires := expiryChecked now r.ttl
  let info := fun (e : Time) => (⟨r.sessionId,r.agentName,r.lockType,token,now,e,auto⟩ : LockInfo)
  match st.exclusive.filter mine with
  | some exc => st.dated expires (fun e =>
      ({st with exclusive := some (renewed r.agentName e exc)},renewed r.agentName e exc))
  | none =>
    match r.lockType with
    | .observer =>
      match st.observers.find? mine with
      | some own => st.dated expires (fun e =>
          ({st with observers := modifyFirst mine (renewed r.agentName e) st.observers},renewed r.agentName e own))
      | none =>
        match st.exclusive with
        | some exc => (st,some (.error (lockedBy exc)))
        | none => st.dated expires (fun e => ({st with observers := st.observers ++ [info e]},info e))
    | .exclusive =>
      match st.exclusive,st.observers with
      | some exc,_ => (st,some (.error (lockedBy exc)))
      | none,[] => st.dated expires (fun e => ({st with exclusive := some (info e)},info e))
      | none,o::rest =>
        if rest.isEmpty && mine o then
          -- `observers.clear()` comes before the date
          let cleared := {st with observers := []}
          cleared.dated expires (fun e => ({cleared with exclusive := some (info e)},info e))
        else (st,some (.error (lockedBy o)))

def LockManager.acquireChecked (m : LockManager) (r : LockRequest) (auto : Bool) (now : Time)
    (token : LockToken) : LockManager × Reply :=
  let (st,reply) := (m.entry r.instanceId).acquireChecked r auto now token
  (m.write r.instanceId st,reply)

def LockManager.renewChecked (m : LockManager) (id : InstanceId) (s : SessionId) (token : Option LockToken)
    (ttl : Duration) (now : Time) : LockManager × Reply :=
  match Table.get m.locks id with
  | none => (m,some (.error (.notHeld id)))
  | some st => match expiryChecked now ttl with
    | none => (m,none)
    | some e =>
      let (st',reply) := st.renewWithToken id s token e
      (m.write id st',some reply)

def Fits (now : Time) (ttl : Duration) : Prop := expiry now ttl ≤ maxUtc

theorem expiryDate {now e : Time} {ttl : Duration} (date : expiryChecked now ttl = some e) :
    Fits now ttl ∧ e = expiry now ttl := by
  unfold expiryChecked at date
  split at date
  · rename_i fits
    exact ⟨fits,(Option.some.inj date).symm⟩
  · cases date

theorem expiryOverflows {now : Time} {ttl : Duration} (overflow : expiryChecked now ttl = none) :
    ¬ Fits now ttl := by
  unfold expiryChecked at overflow
  split at overflow
  · cases overflow
  · assumption

inductive Refused (st : InstanceLockState) (r : LockRequest) : Prop where
  | holder {e} (held : st.exclusive = some e) (other : e.sessionId ≠ r.sessionId)
      (fresh : r.lockType = .observer → ∀ o ∈ st.observers, o.sessionId ≠ r.sessionId)
  | observers {o rest} (free : st.exclusive = none) (type : r.lockType = .exclusive)
      (observers : st.observers = o::rest) (shared : rest ≠ [] ∨ o.sessionId ≠ r.sessionId)

section
variable {st : InstanceLockState} {r : LockRequest} {auto : Bool} {now : Time} {token : LockToken}

/-- One path through the branches for both: refused, or a date and the write after it. -/
inductive Paths (st : InstanceLockState) (r : LockRequest) (auto : Bool) (now : Time) (token : LockToken) :
    Prop where
  | refused (error : LockError) (why : Refused st r)
      (checked : st.acquireChecked r auto now token = (st,some (.error error)))
      (inner : st.acquireInner r auto now token = (st,.error error))
  | dated (before : InstanceLockState) (write : Time → InstanceLockState × LockInfo)
      (checked : st.acquireChecked r auto now token = before.dated (expiryChecked now r.ttl) write)
      (inner : st.acquireInner r auto now token =
        ((write (expiry now r.ttl)).1,.ok (write (expiry now r.ttl)).2))

theorem acquirePaths (st : InstanceLockState) (r : LockRequest) (auto : Bool) (now : Time) (token : LockToken) :
    Paths st r auto now token := by
  cases own : st.exclusive.filter (fun o => o.sessionId == r.sessionId) with
  | some exc =>
    exact .dated st _ (by simp only [InstanceLockState.acquireChecked,own]; rfl)
      (by simp only [InstanceLockState.acquireInner,own])
  | none =>
    cases type : r.lockType with
    | observer =>
      cases mine : st.observers.find? (fun o => o.sessionId == r.sessionId) with
      | some obs =>
        exact .dated st _ (by simp only [InstanceLockState.acquireChecked,own,type,mine]; rfl)
          (by simp only [InstanceLockState.acquireInner,own,type,mine])
      | none =>
        cases held : st.exclusive with
        | some exc =>
          have other : exc.sessionId ≠ r.sessionId := by
            intro same
            simp [held,Option.filter,same] at own
          have fresh : ∀ o ∈ st.observers, o.sessionId ≠ r.sessionId := by
            intro o mem
            simpa using List.find?_eq_none.mp mine o mem
          rw [held] at own
          exact .refused (lockedBy exc) (.holder held other (fun _ => fresh))
            (by simp only [InstanceLockState.acquireChecked,held,own,type,mine])
            (by simp only [InstanceLockState.acquireInner,held,own,type,mine])
        | none =>
          rw [held] at own
          exact .dated st _ (by simp only [InstanceLockState.acquireChecked,held,own,type,mine]; rfl)
            (by simp only [InstanceLockState.acquireInner,held,own,type,mine])
    | exclusive =>
      cases held : st.exclusive with
      | some exc =>
        have other : exc.sessionId ≠ r.sessionId := by
          intro same
          simp [held,Option.filter,same] at own
        have exclusive : r.lockType = .observer → ∀ o ∈ st.observers, o.sessionId ≠ r.sessionId := by
          rw [type]
          intro absent
          cases absent
        rw [held] at own
        exact .refused (lockedBy exc) (.holder held other exclusive)
          (by simp only [InstanceLockState.acquireChecked,held,own,type])
          (by simp only [InstanceLockState.acquireInner,held,own,type])
      | none =>
        rw [held] at own
        cases observers : st.observers with
        | nil =>
          exact .dated st _ (by simp only [InstanceLockState.acquireChecked,held,own,type,observers]; rfl)
            (by simp only [InstanceLockState.acquireInner,held,own,type,observers])
        | cons o rest =>
          cases self : rest.isEmpty && o.sessionId == r.sessionId with
          | true =>
            exact .dated {st with observers := []} _
              (by simp only [InstanceLockState.acquireChecked,held,own,type,observers,self,if_true]; rfl)
              (by simp only [InstanceLockState.acquireInner,held,own,type,observers,self,if_true])
          | false =>
            have shared : rest ≠ [] ∨ o.sessionId ≠ r.sessionId := by
              by_cases last : rest = []
              · simp only [last,List.isEmpty_nil,Bool.true_and,beq_eq_false_iff_ne] at self
                exact .inr self
              · exact .inl last
            exact .refused (lockedBy o) (.observers held type observers shared)
              (by simp only [InstanceLockState.acquireChecked,held,own,type,observers,self]; rfl)
              (by simp only [InstanceLockState.acquireInner,held,own,type,observers,self]; rfl)

theorem grantedNotRefused {st' info} (done : Acquired st r auto now token st' (.ok info)) : ¬ Refused st r := by
  intro refused
  cases refused with
  | holder held other fresh =>
    cases done with
    | renewExclusive held' own =>
      cases Option.some.inj (held.symm.trans held')
      exact other own
    | renewObserver _ type found =>
      have own := List.find?_some found
      exact fresh type _ (List.mem_of_find?_eq_some found) (by simpa using own)
    | grantExclusive free _ _ => rw [held] at free; cases free
    | grantObserver free _ _ => rw [held] at free; cases free
  | observers free type observers shared =>
    cases done with
    | renewExclusive held _ => rw [free] at held; cases held
    | renewObserver _ type' _ => rw [type] at type'; cases type'
    | grantExclusive _ _ alone =>
      rcases alone with none | ⟨o,only,own⟩
      · rw [none] at observers
        cases observers
      · obtain ⟨rfl,rfl⟩ := List.cons.inj (only.symm.trans observers)
        rcases shared with more | other
        · exact more rfl
        · exact other own
    | grantObserver _ type' _ => rw [type] at type'; cases type'

theorem checkedAgrees (met : Refused st r ∨ Fits now r.ttl) : st.acquireChecked r auto now token =
    ((st.acquireInner r auto now token).1,some (st.acquireInner r auto now token).2) := by
  cases acquirePaths st r auto now token with
  | refused error why checked inner => rw [checked,inner]
  | dated before write checked inner =>
    have done := acquireInnerCases st r auto now token
    rw [inner] at done
    have fits := met.resolve_left (grantedNotRefused done)
    rw [checked,inner]
    cases date : expiryChecked now r.ttl with
    | some e =>
      obtain ⟨_,rfl⟩ := expiryDate date
      rfl
    | none => exact absurd fits (expiryOverflows date)

theorem grantedExpires {st' info} (done : Acquired st r auto now token st' (.ok info)) :
    info.expiresAt = expiry now r.ttl := by
  cases done with
  | renewExclusive held own => rfl
  | renewObserver notHolder type found => rfl
  | grantExclusive free type alone => rfl
  | grantObserver free type fresh => rfl

theorem renewedExpires {st' id s tok expires info} (done : Renewed st id s tok expires st' (.ok info)) :
    info.expiresAt = expires := by
  cases done with
  | exclusive held own => rfl
  | observer found => rfl

end

/-- The lock ends `ttl` after `now`, or 120 s after it where chrono has no such
duration; or the call says `Err` and the instance's state is `before` still. -/
inductive Safe (before : InstanceLockState) (now : Time) (ttl : Duration) : InstanceLockState → Reply → Prop where
  | granted {after info} (expires : info.expiresAt = now + (fromStd ttl).getD (120 * 10^9))
      (later : now < info.expiresAt) : Safe before now ttl after (some (.ok info))
  | refused {error} : Safe before now ttl before (some (.error error))

theorem laterExpiry (now : Time) (ttlSeconds : UInt64) : now < expiry now (ttlOf ttlSeconds) := by
  have positive : 0 < ttlOf ttlSeconds :=
    Nat.mul_pos (Nat.lt_of_lt_of_le Nat.one_pos (Nat.le_max_right _ _)) (by decide)
  unfold expiry fromStd
  split
  · exact Nat.lt_add_of_pos_right positive
  · exact Nat.lt_add_of_pos_right (by decide)

theorem panicUnsafe {before after : InstanceLockState} {now : Time} {ttl : Duration} :
    ¬ Safe before now ttl after none := by
  intro fine
  cases fine

theorem acquireSafe (st : InstanceLockState) (id : InstanceId) (s : SessionId) (name : Option (List Char))
    (type : LockType) (ttlSeconds : UInt64) (auto : Bool) (now : Time) (token : LockToken) :
    let r : LockRequest := ⟨id,s,name,type,ttlOf ttlSeconds⟩
    Safe st now r.ttl (st.acquireChecked r auto now token).1 (st.acquireChecked r auto now token).2 ↔
      Refused st r ∨ Fits now r.ttl := by
  intro r
  cases acquirePaths st r auto now token with
  | refused error why checked inner =>
    rw [checked]
    exact ⟨fun _ => .inl why,fun _ => .refused⟩
  | dated before write checked inner =>
    have done := acquireInnerCases st r auto now token
    rw [inner] at done
    have granted := grantedNotRefused done
    rw [checked]
    cases date : expiryChecked now r.ttl with
    | some e =>
      obtain ⟨fits,rfl⟩ := expiryDate date
      refine ⟨fun _ => .inr fits,fun _ => .granted (grantedExpires done) ?_⟩
      rw [grantedExpires done]
      exact laterExpiry now ttlSeconds
    | none =>
      have late := expiryOverflows date
      exact ⟨fun fine => absurd fine panicUnsafe,fun either => absurd either (not_or.mpr ⟨granted,late⟩)⟩

theorem renewSafe (m : LockManager) (id : InstanceId) (s : SessionId) (token : Option LockToken)
    (ttlSeconds : UInt64) (now : Time) :
    let n := m.renewChecked id s token (ttlOf ttlSeconds) now
    Safe (m.entry id) now (ttlOf ttlSeconds) (n.1.entry id) n.2 ↔
      Table.get m.locks id = none ∨ Fits now (ttlOf ttlSeconds) := by
  dsimp only
  unfold LockManager.renewChecked
  cases found : Table.get m.locks id with
  | none => exact ⟨fun _ => .inl rfl,fun _ => .refused⟩
  | some st =>
    cases date : expiryChecked now (ttlOf ttlSeconds) with
    | some e =>
      obtain ⟨fits,rfl⟩ := expiryDate date
      refine ⟨fun _ => .inr fits,fun _ => ?_⟩
      dsimp only
      rw [LockManager.entryWrite,if_pos rfl,LockManager.entryPresent found]
      have done := renewWithTokenCases st id s token (expiry now (ttlOf ttlSeconds))
      generalize st.renewWithToken id s token (expiry now (ttlOf ttlSeconds)) = renewal at done
      obtain ⟨after,reply⟩ := renewal
      cases reply with
      | ok info =>
        refine .granted (renewedExpires done) ?_
        rw [renewedExpires done]
        exact laterExpiry now ttlSeconds
      | error error =>
        cases done with
        | notHeld => exact .refused
    | none =>
      have late := expiryOverflows date
      exact ⟨fun fine => absurd fine panicUnsafe,
        fun either => absurd either (not_or.mpr ⟨Option.some_ne_none st,late⟩)⟩

theorem anyTtlSafe (m : LockManager) (id : InstanceId) (s : SessionId) (name : Option (List Char))
    (type : LockType) (held : Option LockToken) (ttlSeconds : UInt64) (auto : Bool) (now : Time)
    (fresh : LockToken) :
    let ttl := ttlOf ttlSeconds
    let r : LockRequest := ⟨id,s,name,type,ttl⟩
    let acquired := m.acquireChecked r auto now fresh
    let renewal := m.renewChecked id s held ttl now
    (Safe (m.entry id) now ttl (acquired.1.entry id) acquired.2 ↔ Refused (m.entry id) r ∨ Fits now ttl) ∧
    (Safe (m.entry id) now ttl (renewal.1.entry id) renewal.2 ↔ Table.get m.locks id = none ∨ Fits now ttl) := by
  dsimp only
  refine ⟨?_,renewSafe m id s held ttlSeconds now⟩
  have safe := acquireSafe (m.entry id) id s name type ttlSeconds auto now fresh
  rw [LockManager.acquireChecked,LockManager.entryWrite,if_pos rfl]
  exact safe

theorem upgradeLosesObserver : ∃ m : LockManager, ∃ now : Time, ∃ ttlSeconds : UInt64,
    let r : LockRequest := {asks ⟨1⟩ with ttl := ttlOf ttlSeconds}
    let acquired := m.acquireChecked r false now ⟨2⟩
    (m.entry instanceDev).observers.map LockInfo.sessionId = [⟨1⟩] ∧
    acquired.2 = none ∧ acquired.1.entry instanceDev = .new ∧
    ¬ Safe (m.entry instanceDev) now r.ttl (acquired.1.entry instanceDev) acquired.2 := by
  refine ⟨(LockManager.new.acquireInner {asks ⟨1⟩ with lockType := .observer} false 0 ⟨1⟩).1,
    1700000000 * 1000000000,10000000000000,by decide,by decide,by decide,?_⟩
  exact panicUnsafe

end Vscreen.Lock
