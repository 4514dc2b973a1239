import Vscreen.InstanceRegistry

/-! The limit of `create`. The check and the insert are two sections, so that it is
kept by the runs whose checks leave room for the calls under way, and by no others. -/
namespace Vscreen.Registry

/-- The calls that hold an entry hold different ones, and the map has none of them. -/
structure Vacancies (s : Sys) : Prop where
  distinct : s.entered.Pairwise fun c other => c.config.instanceId ≠ other.config.instanceId
  vacant : ∀ c ∈ s.entered, Table.get s.instances c.config.instanceId = none

theorem Vacancies.apart {s : Sys} (inv : Vacancies s) {c other : Creator} (member : c ∈ s.entered)
    (rest : other ∈ s.entered.erase c) : other.config.instanceId ≠ c.config.instanceId := by
  have moved : (c::s.entered.erase c).Pairwise fun c other => c.config.instanceId ≠ other.config.instanceId :=
    inv.distinct.perm (List.perm_cons_erase member) fun differ => differ.symm
  exact (List.pairwise_cons.mp moved).1 other rest |>.symm

def NothingReplaced (trace : List Output) : Prop := ∀ call entry replaced,
  .created call entry replaced ∈ trace → replaced = none

theorem nothingReplacedAppend {trace out : List Output} (before : NothingReplaced trace) (now : NothingReplaced out) :
    NothingReplaced (trace ++ out) := by
  intro call entry replaced member
  rcases List.mem_append.mp member with old | new
  · exact before call entry replaced old
  · exact now call entry replaced new

section Steps
variable {shard : InstanceId → Nat} {maxInstances : Nat} {s s' : Sys} {out : List Output}

theorem checkVacancies {config : InstanceConfig} (inv : Vacancies s) (same : s.check maxInstances config = (s',out)) :
    Vacancies s' ∧ NothingReplaced out := by
  simp only [Sys.check] at same
  split at same
  · cases same
    exact ⟨⟨inv.distinct,inv.vacant⟩,by intro call entry replaced member; simp at member⟩
  · cases same
    exact ⟨⟨inv.distinct,inv.vacant⟩,by intro call entry replaced member; cases member⟩

theorem enterVacancies {c : Creator} (inv : Vacancies s) (free : s.locked shard c.config.instanceId = false)
    (same : s.enter c = (s',out)) : Vacancies s' ∧ NothingReplaced out := by
  simp only [Sys.enter] at same
  split at same
  · cases same
    exact ⟨⟨inv.distinct,inv.vacant⟩,by intro call entry replaced member; simp at member⟩
  · rename_i taken
    cases same
    refine ⟨⟨List.pairwise_cons.mpr ⟨?_,inv.distinct⟩,?_⟩,by intro call entry replaced member; cases member⟩
    · intro other member equal
      -- the lock of the shard is not held, so no other call has entered with the id
      have held := List.any_eq_false.mp free other member
      simp [equal] at held
    · intro other member
      rcases List.mem_cons.mp member with rfl | old
      · exact vacantOk taken
      · exact inv.vacant other old

theorem insertVacancies {c : Creator} (inv : Vacancies s) (member : c ∈ s.entered) (same : s.insert c = (s',out)) :
    Vacancies s' ∧ NothingReplaced out := by
  cases same
  refine ⟨⟨inv.distinct.sublist List.erase_sublist,?_⟩,?_⟩
  · intro other rest
    simp only [InstanceRegistry.insert,Table.getPut,if_neg (inv.apart member rest)]
    exact inv.vacant other (List.mem_of_mem_erase rest)
  · intro call entry replaced created
    cases List.mem_singleton.mp created
    exact inv.vacant c member

theorem removeVacancies {id : InstanceId} (inv : Vacancies s) (same : s.remove id = (s',out)) :
    Vacancies s' ∧ NothingReplaced out := by
  cases same
  refine ⟨⟨inv.distinct,?_⟩,by intro call entry replaced member; simp at member⟩
  intro c member
  have free := inv.vacant c member
  simp only [InstanceRegistry.remove]
  split
  · exact free
  · rw [Table.getDel]
    split
    · rfl
    · exact free

end Steps

theorem vacanciesKept {shard : InstanceId → Nat} {maxInstances : Nat} {s : Sys} {trace : List Output}
    (run : Machine.Reaches (registry shard maxInstances) s trace) : Vacancies s ∧ NothingReplaced trace := by
  refine Machine.runInvariant (fun s trace => Vacancies s ∧ NothingReplaced trace) ?_ ?_ run
  · exact ⟨⟨.nil,by intro c member; cases member⟩,by intro call entry replaced member; cases member⟩
  · intro s trace event s' out inv _ taken
    have kept : Vacancies s' ∧ NothingReplaced out := by
      rcases stepCases taken with ⟨config,-,same⟩ | ⟨c,-,free,same⟩ | ⟨c,member,same⟩ | ⟨id,-,same⟩
      · exact checkVacancies inv.1 same
      · exact enterVacancies inv.1 free same
      · exact insertVacancies inv.1 member same
      · exact removeVacancies inv.1 same
    exact ⟨kept.1,nothingReplacedAppend inv.2 kept.2⟩

theorem limitKept {shard : InstanceId → Nat} {maxInstances : Nat} {s : Sys} {trace : List Output}
    (run : Machine.Run (registry shard maxInstances) (Spaced maxInstances) s trace) :
    s.instances.len ≤ maxInstances ∧ NothingReplaced trace :=
  ⟨(lenClaimed s).trans (claimsBounded run),(vacanciesKept (Machine.runReaches run)).2⟩

def configOf (name : Text) : InstanceConfig :=
  ⟨⟨name⟩,"ws://localhost:9222/devtools/page/TEST".toList,"test.monitor".toList,none,.default,.default,none⟩

theorem bothCreated : ∃ s trace, Machine.Run (registry (fun _ => 0) 2) (Spaced 2) s trace ∧ s.instances.len = 2 ∧
    s.instances.len ≤ 2 ∧ NothingReplaced trace := by
  have checked := Machine.runStep (.start : (registry (fun _ => 0) 2).Run (Spaced 2) _ _)
    (.check (configOf "a".toList)) (fun _ => by decide) rfl
  have beside := Machine.runStep checked (.check (configOf "b".toList)) (fun _ => by decide) rfl
  have entered := Machine.runStep beside (.enter 1) trivial rfl
  have inserted := Machine.runStep entered (.insert 1) trivial rfl
  have entered := Machine.runStep inserted (.enter 0) trivial rfl
  have inserted := Machine.runStep entered (.insert 0) trivial rfl
  exact ⟨_,_,inserted,rfl,limitKept inserted⟩

theorem limitExceeded : ∃ s trace, Machine.Reaches (registry (fun _ => 0) 1) s trace ∧ ¬ s.instances.len ≤ 1 := by
  obtain ⟨s,trace,reached,two⟩ := Machine.execWitness (registry (fun _ => 0) 1)
    [.check (configOf "a".toList),.check (configOf "b".toList),.enter 0,.insert 0,.enter 1,.insert 1]
    (fun s _ => s.instances.len = 2) (by decide +kernel)
  exact ⟨s,trace,reached,by have := of_decide_eq_true two; omega⟩

section Crowded
variable {shard : InstanceId → Nat} {maxInstances : Nat} {s : Sys} {trace : List Output}

theorem insertNext {c : Creator} {rest : List Creator} (run : Machine.Reaches (registry shard maxInstances) s trace)
    (next : s.entered = c::rest) : ∃ out, Machine.Reaches (registry shard maxInstances) (s.insert c).1 (trace ++ out) := by
  refine ⟨(s.insert c).2,Machine.runStep run (.insert c.call) trivial ?_⟩
  have found : s.entered.find? (·.call = c.call) = some c := by
    rw [next]
    exact List.find?_cons_of_pos (by simp)
  simp only [registry,Sys.step,found]

theorem enterNext {c : Creator} {rest : List Creator} (run : Machine.Reaches (registry shard maxInstances) s trace)
    (idle : s.entered = []) (next : s.checked = c::rest) :
    ∃ out, Machine.Reaches (registry shard maxInstances) (s.enter c).1 (trace ++ out) := by
  refine ⟨(s.enter c).2,Machine.runStep run (.enter c.call) trivial ?_⟩
  have found : s.checked.find? (·.call = c.call) = some c := by
    rw [next]
    exact List.find?_cons_of_pos (by simp)
  simp only [registry,Sys.step,found,Sys.locked,idle,List.any_nil,Bool.false_eq_true,if_false]

theorem drainEntered {entered : List Creator} (run : Machine.Reaches (registry shard maxInstances) s trace)
    (all : s.entered = entered) : ∃ s' trace', Machine.Reaches (registry shard maxInstances) s' trace' ∧
      s'.entered = [] ∧ s'.checked = s.checked ∧ claimed s' = claimed s := by
  induction entered generalizing s trace with
  | nil => exact ⟨s,trace,run,all,rfl,rfl⟩
  | cons c rest ih =>
    obtain ⟨out,inserted⟩ := insertNext run all
    have fewer : (s.insert c).1.entered = rest := by simp only [Sys.insert,all,List.erase_cons_head]
    obtain ⟨s',trace',reached,idle,checked,claims⟩ := ih inserted fewer
    refine ⟨s',trace',reached,idle,checked,claims.trans (insertClaims ?_)⟩
    rw [all]; exact List.mem_cons_self

theorem drainChecked {checked : List Creator} (run : Machine.Reaches (registry shard maxInstances) s trace)
    (idle : s.entered = []) (all : s.checked = checked) : ∃ s' trace',
      Machine.Reaches (registry shard maxInstances) s' trace' ∧ s'.entered = [] ∧ s'.checked = [] ∧
        claimed s' = claimed s := by
  induction checked generalizing s trace with
  | nil => exact ⟨s,trace,run,idle,all,rfl⟩
  | cons c rest ih =>
    obtain ⟨out,entered⟩ := enterNext run idle all
    have fewer : (s.enter c).1.checked = rest := by
      simp only [Sys.enter]
      split <;> simp only [all,List.erase_cons_head]
    have claims : claimed (s.enter c).1 = claimed s := enterClaims (by rw [all]; exact List.mem_cons_self)
    obtain ⟨s₁,trace₁,reached,idle₁,checked₁,claims₁⟩ := drainEntered entered rfl
    obtain ⟨s₂,trace₂,reached₂,idle₂,checked₂,claims₂⟩ := ih reached idle₁ (checked₁.trans fewer)
    exact ⟨s₂,trace₂,reached₂,idle₂,checked₂,claims₂.trans (claims₁.trans claims)⟩

theorem crowdedExceeds {config : InstanceConfig} (run : Machine.Reaches (registry shard maxInstances) s trace)
    (crowded : ¬ Spaced maxInstances s (.check config)) : ∃ s' trace',
      Machine.Reaches (registry shard maxInstances) s' trace' ∧ maxInstances < s'.instances.len := by
  simp only [Spaced,Classical.not_imp,Nat.not_le] at crowded
  obtain ⟨passed,crowded⟩ := crowded
  have reached : Machine.Reaches (registry shard maxInstances) (s.check maxInstances config).1
      (trace ++ (s.check maxInstances config).2) := Machine.runStep run (.check config) trivial rfl
  have claims := checkClaims s maxInstances config
  rw [if_pos passed] at claims
  obtain ⟨s₁,trace₁,reached₁,idle₁,-,claims₁⟩ := drainEntered reached rfl
  obtain ⟨s₂,trace₂,reached₂,idle₂,checked₂,claims₂⟩ := drainChecked reached₁ idle₁ rfl
  refine ⟨s₂,trace₂,reached₂,?_⟩
  have registered : claimed s₂ = s₂.instances.keys.toFinset := by
    simp only [claimed,idle₂,checked₂,List.append_nil,List.map_nil,List.toFinset_nil,Finset.union_empty]
  rw [InstanceRegistry.lenCard,← registered,claims₂,claims₁,claims]
  exact crowded

end Crowded
end Vscreen.Registry
