import Mathlib.Data.Finset.Card
import Mathlib.Data.Finset.Insert
import Vscreen.Config
import Vscreen.Machine
import Vscreen.Table
import Vscreen.Utf8

/-! `InstanceRegistry` (state.rs): the map of instances, `create` and `remove`. The
map locks one shard at a time, which `entry` holds from the look-up to the insert;
the check of the limit holds none. -/
namespace Vscreen.Registry

structure InstanceEntry where
  config : InstanceConfig
  state : InstanceState
  deriving DecidableEq, Repr

inductive VScreenError where
  | instanceNotFound (id : Text)
  | instanceAlreadyExists (id : Text)
  | invalidConfig (message : Text)
  | limitExceeded (message : Text)
  deriving DecidableEq, Repr

def isAsciiAlphanumeric (b : Byte) : Bool :=
  (0x30 ≤ b && b ≤ 0x39) || (0x41 ≤ b && b ≤ 0x5A) || (0x61 ≤ b && b ≤ 0x7A)

def isUrlSafe (id : InstanceId) : Bool :=
  let bytes := Utf8.encode id.name
  !bytes.isEmpty && bytes.length ≤ 128 &&
    bytes.all fun b => isAsciiAlphanumeric b || b == 0x2D || b == 0x5F || b == 0x2E

abbrev InstanceRegistry := Table InstanceId InstanceEntry

namespace InstanceRegistry

def len (r : InstanceRegistry) : Nat := r.keys.length

def admission (r : InstanceRegistry) (config : InstanceConfig) (maxInstances : Nat) : Except VScreenError Unit :=
  if !isUrlSafe config.instanceId then
    .error (.invalidConfig ("instance ID '".toList ++ config.instanceId.name ++
      "' is not URL-safe (only alphanumeric, hyphens, underscores, dots allowed; 1-128 chars)".toList))
  else if maxInstances ≤ r.len then
    .error (.limitExceeded ("max instances (".toList ++ Text.decimal maxInstances ++ ") reached".toList))
  else .ok ()

def vacant (r : InstanceRegistry) (config : InstanceConfig) : Except VScreenError Unit :=
  match Table.get r config.instanceId with
  | some _ => .error (.instanceAlreadyExists config.instanceId.name)
  | none => .ok ()

def newEntry (config : InstanceConfig) : InstanceEntry := ⟨config,.created⟩

def insert (r : InstanceRegistry) (config : InstanceConfig) : InstanceRegistry :=
  Table.put r config.instanceId (newEntry config)

def create (r : InstanceRegistry) (config : InstanceConfig) (maxInstances : Nat) :
    InstanceRegistry × Except VScreenError InstanceEntry :=
  match r.admission config maxInstances with
  | .error e => (r,.error e)
  | .ok () => match r.vacant config with
    | .error e => (r,.error e)
    | .ok () => (r.insert config,.ok (newEntry config))

def get (r : InstanceRegistry) (id : InstanceId) : Except VScreenError InstanceEntry :=
  match Table.get r id with
  | none => .error (.instanceNotFound id.name)
  | some entry => .ok entry

def remove (r : InstanceRegistry) (id : InstanceId) : InstanceRegistry × Except VScreenError InstanceEntry :=
  match Table.get r id with
  | none => (r,.error (.instanceNotFound id.name))
  | some entry => (Table.del r id,.ok entry)

theorem putKeys (r : InstanceRegistry) (id : InstanceId) (entry : InstanceEntry) :
    (Table.put r id entry).keys.toFinset = Insert.insert id r.keys.toFinset := by
  ext other
  simp only [Finset.mem_insert,List.mem_toFinset,Table.memKeys,Table.getPut]
  split
  · rename_i same; simp only [same,Option.isSome_some,true_or]
  · rename_i different; simp only [different,false_or]

theorem removeKeys (r : InstanceRegistry) (id : InstanceId) : (r.remove id).1.keys.toFinset ⊆ r.keys.toFinset := by
  intro other
  simp only [remove,List.mem_toFinset,Table.memKeys]
  split
  · exact fun found => found
  · rw [Table.getDel]
    split
    · intro absent; cases absent
    · exact fun found => found

theorem lenCard (r : InstanceRegistry) : r.len = r.keys.toFinset.card :=
  (List.toFinset_card_of_nodup r.keys_nodup).symm

end InstanceRegistry

abbrev CallId := Nat

structure Creator where
  call : CallId
  config : InstanceConfig
  deriving DecidableEq, Repr

structure Sys where
  instances : InstanceRegistry
  checked : List Creator
  entered : List Creator
  calls : Nat

inductive Event where
  | check (config : InstanceConfig)
  | enter (call : CallId)
  | insert (call : CallId)
  | remove (id : InstanceId)

inductive Output where
  | created (call : CallId) (entry : InstanceEntry) (replaced : Option InstanceEntry)
  | refused (call : CallId) (error : VScreenError)
  | removed (result : Except VScreenError InstanceEntry)

namespace Sys
variable (shard : InstanceId → Nat) (maxInstances : Nat)

def locked (s : Sys) (id : InstanceId) : Bool := s.entered.any fun c => shard c.config.instanceId = shard id

def check (s : Sys) (config : InstanceConfig) : Sys × List Output :=
  match s.instances.admission config maxInstances with
  | .error e => ({s with calls := s.calls + 1},[.refused s.calls e])
  | .ok () => ({s with checked := ⟨s.calls,config⟩::s.checked, calls := s.calls + 1},[])

def enter (s : Sys) (c : Creator) : Sys × List Output :=
  let checked := s.checked.erase c
  match s.instances.vacant c.config with
  | .error e => ({s with checked := checked},[.refused c.call e])
  | .ok () => ({s with checked := checked, entered := c::s.entered},[])

def insert (s : Sys) (c : Creator) : Sys × List Output :=
  ({s with
    instances := s.instances.insert c.config
    entered := s.entered.erase c},
   [.created c.call (InstanceRegistry.newEntry c.config) (Table.get s.instances c.config.instanceId)])

def remove (s : Sys) (id : InstanceId) : Sys × List Output :=
  ({s with instances := (s.instances.remove id).1},[.removed (s.instances.remove id).2])

def step (s : Sys) : Event → Option (Sys × List Output)
  | .check config => some (s.check maxInstances config)
  | .enter call => match s.checked.find? (·.call = call) with
    | none => none
    | some c => if s.locked shard c.config.instanceId then none else some (s.enter c)
  | .insert call => match s.entered.find? (·.call = call) with
    | none => none
    | some c => some (s.insert c)
  | .remove id => if s.locked shard id then none else some (s.remove id)

end Sys

def registry (shard : InstanceId → Nat) (maxInstances : Nat) : Machine Sys Event Output where
  init := ⟨∅,[],[],0⟩
  step := Sys.step shard maxInstances

def claimed (s : Sys) : Finset InstanceId :=
  s.instances.keys.toFinset ∪ ((s.checked ++ s.entered).map (·.config.instanceId)).toFinset

theorem memClaimed {s : Sys} {id : InstanceId} : id ∈ claimed s ↔
    id ∈ s.instances.keys.toFinset ∨ ∃ c, (c ∈ s.checked ∨ c ∈ s.entered) ∧ c.config.instanceId = id := by
  simp only [claimed,Finset.mem_union,List.mem_toFinset,List.mem_map,List.mem_append]

/-- A check of the limit passes only while there is room for every running call and one more. -/
def Spaced (maxInstances : Nat) (s : Sys) : Event → Prop
  | .check config => s.instances.admission config maxInstances = .ok () →
      (Insert.insert config.instanceId (claimed s)).card ≤ maxInstances
  | _ => True

theorem vacantOk {r : InstanceRegistry} {config : InstanceConfig} (ok : r.vacant config = .ok ()) :
    Table.get r config.instanceId = none := by
  simp only [InstanceRegistry.vacant] at ok
  split at ok
  · cases ok
  · rename_i free; exact free

section Steps
variable {shard : InstanceId → Nat} {maxInstances : Nat} {s s' : Sys} {event : Event} {out : List Output}

theorem stepCases (taken : (registry shard maxInstances).step s event = some (s',out)) :
    (∃ config, event = .check config ∧ s.check maxInstances config = (s',out)) ∨
      (∃ c, c ∈ s.checked ∧ s.locked shard c.config.instanceId = false ∧ s.enter c = (s',out)) ∨
      (∃ c, c ∈ s.entered ∧ s.insert c = (s',out)) ∨
      ∃ id, s.locked shard id = false ∧ s.remove id = (s',out) := by
  cases event with
  | check config => exact .inl ⟨config,rfl,Option.some.inj taken⟩
  | enter call =>
    change (match s.checked.find? (·.call = call) with
      | none => none
      | some c => if s.locked shard c.config.instanceId then none else some (s.enter c)) = some (s',out) at taken
    split at taken
    · cases taken
    · rename_i c found
      split at taken
      · cases taken
      · rename_i free
        exact .inr (.inl ⟨c,List.mem_of_find?_eq_some found,by simpa using free,Option.some.inj taken⟩)
  | insert call =>
    change (match s.entered.find? (·.call = call) with
      | none => none
      | some c => some (s.insert c)) = some (s',out) at taken
    split at taken
    · cases taken
    · rename_i c found
      exact .inr (.inr (.inl ⟨c,List.mem_of_find?_eq_some found,Option.some.inj taken⟩))
  | remove id =>
    change (if s.locked shard id then none else some (s.remove id)) = some (s',out) at taken
    split at taken
    · cases taken
    · rename_i free
      exact .inr (.inr (.inr ⟨id,by simpa using free,Option.some.inj taken⟩))

theorem enterClaims {c : Creator} (member : c ∈ s.checked) : claimed (s.enter c).1 = claimed s := by
  have same := List.perm_cons_erase member
  ext id
  simp only [Sys.enter]
  split
  · rename_i taken
    simp only [memClaimed,same.mem_iff,List.mem_cons]
    have there : c.config.instanceId ∈ s.instances.keys.toFinset := by
      simp only [InstanceRegistry.vacant] at taken
      split at taken
      · rename_i entry found
        rw [List.mem_toFinset,Table.memKeys,found]; rfl
      · cases taken
    constructor
    · rintro (known | ⟨other,running,rfl⟩)
      · exact .inl known
      · exact .inr ⟨other,running.imp_left .inr,rfl⟩
    · rintro (known | ⟨other,(rfl | running) | running,rfl⟩)
      · exact .inl known
      · exact .inl there
      · exact .inr ⟨other,.inl running,rfl⟩
      · exact .inr ⟨other,.inr running,rfl⟩
  · simp only [memClaimed,same.mem_iff,List.mem_cons]
    constructor
    · rintro (known | ⟨other,running | rfl | running,rfl⟩)
      · exact .inl known
      · exact .inr ⟨other,.inl (.inr running),rfl⟩
      · exact .inr ⟨other,.inl (.inl rfl),rfl⟩
      · exact .inr ⟨other,.inr running,rfl⟩
    · rintro (known | ⟨other,(rfl | running) | running,rfl⟩)
      · exact .inl known
      · exact .inr ⟨other,.inr (.inl rfl),rfl⟩
      · exact .inr ⟨other,.inl running,rfl⟩
      · exact .inr ⟨other,.inr (.inr running),rfl⟩

theorem insertClaims {c : Creator} (member : c ∈ s.entered) : claimed (s.insert c).1 = claimed s := by
  have same := List.perm_cons_erase member
  ext id
  simp only [Sys.insert,memClaimed,InstanceRegistry.insert,InstanceRegistry.putKeys,Finset.mem_insert,same.mem_iff,
    List.mem_cons]
  constructor
  · rintro ((rfl | known) | ⟨other,running | running,rfl⟩)
    · exact .inr ⟨c,.inr (.inl rfl),rfl⟩
    · exact .inl known
    · exact .inr ⟨other,.inl running,rfl⟩
    · exact .inr ⟨other,.inr (.inr running),rfl⟩
  · rintro (known | ⟨other,running | rfl | running,rfl⟩)
    · exact .inl (.inr known)
    · exact .inr ⟨other,.inl running,rfl⟩
    · exact .inl (.inl rfl)
    · exact .inr ⟨other,.inr running,rfl⟩

theorem removeClaims (id : InstanceId) : claimed (s.remove id).1 ⊆ claimed s := by
  intro other
  simp only [memClaimed]
  intro claims
  rcases claims with known | running
  · exact .inl (InstanceRegistry.removeKeys s.instances id known)
  · exact .inr running

theorem checkClaims (s : Sys) (maxInstances : Nat) (config : InstanceConfig) : claimed (s.check maxInstances config).1 =
    if s.instances.admission config maxInstances = .ok () then Insert.insert config.instanceId (claimed s)
    else claimed s := by
  simp only [Sys.check]
  split
  · rename_i e refused
    rw [refused,if_neg (fun absurd => by cases absurd)]
    rfl
  · rename_i passed
    rw [if_pos passed]
    ext id
    simp only [memClaimed,List.mem_cons,Finset.mem_insert]
    constructor
    · rintro (known | ⟨other,(rfl | running) | running,rfl⟩)
      · exact .inr (.inl known)
      · exact .inl rfl
      · exact .inr (.inr ⟨other,.inl running,rfl⟩)
      · exact .inr (.inr ⟨other,.inr running,rfl⟩)
    · rintro (rfl | known | ⟨other,running | running,rfl⟩)
      · exact .inr ⟨_,.inl (.inl rfl),rfl⟩
      · exact .inl known
      · exact .inr ⟨other,.inl (.inr running),rfl⟩
      · exact .inr ⟨other,.inr running,rfl⟩

end Steps

theorem claimsBounded {shard : InstanceId → Nat} {maxInstances : Nat} {s : Sys} {trace : List Output}
    (run : Machine.Run (registry shard maxInstances) (Spaced maxInstances) s trace) :
    (claimed s).card ≤ maxInstances := by
  refine Machine.runInvariant (fun s _ => (claimed s).card ≤ maxInstances) (Nat.zero_le _) ?_ run
  intro s trace event s' out bounded spaced taken
  rcases stepCases taken with ⟨config,rfl,same⟩ | ⟨c,member,-,same⟩ | ⟨c,member,same⟩ | ⟨id,-,same⟩
  · have claims := checkClaims s maxInstances config
    rw [same] at claims
    rw [claims]
    split
    · rename_i passed; exact spaced passed
    · exact bounded
  · have claims := enterClaims member
    rw [same] at claims
    rw [claims]; exact bounded
  · have claims := insertClaims member
    rw [same] at claims
    rw [claims]; exact bounded
  · have claims := removeClaims (s := s) id
    rw [same] at claims
    exact (Finset.card_le_card claims).trans bounded

theorem lenClaimed (s : Sys) : s.instances.len ≤ (claimed s).card := by
  rw [InstanceRegistry.lenCard]
  exact Finset.card_le_card fun id known => memClaimed.mpr (.inl known)

end Vscreen.Registry
