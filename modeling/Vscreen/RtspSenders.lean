import Mathlib.Data.List.Range
import Vscreen.RtspHandler

/-! What holds of every RTSP session and of every sender task in any order of
requests. A step replaces at most one entry of the table, and the tasks it starts
and stops are those that its entry gains and loses: the account of the tasks is
kept from that alone. -/
namespace Vscreen.Rtsp

def TrackInfo.hasUdpPorts (t : TrackInfo) : Prop :=
  t.clientRtpPort ≠ 0 ∨ t.clientRtcpPort ≠ 0 ∨ t.serverRtpPort ≠ 0 ∨ t.serverRtcpPort ≠ 0

structure TrackInfo.Sound (t : TrackInfo) : Prop where
  kind : (t.trackId = 0 ∧ t.mediaType = .video) ∨ (t.trackId = 1 ∧ t.mediaType = .audio)
  transport : Xor (t.interleavedChannels.isSome = true) t.hasUdpPorts

structure RtspSession.Sound (key : Text) (s : RtspSession) : Prop where
  keyed : s.id.name = key
  distinct : (s.tracks.map (·.trackId)).Nodup
  tracks : ∀ t ∈ s.tracks, t.Sound
  playing : ∀ t ∈ s.tracks, t.rtpTask.isSome = true → s.state = .playing

def HeldBy (tracks : List TrackInfo) (task : TaskId) (trackId : UInt8) : Prop :=
  ∃ t ∈ tracks, t.trackId = trackId ∧ t.rtpTask = some task

def tracksOf (entry : Option RtspSession) : List TrackInfo := (entry.map (·.tracks)).getD []

structure Accounts (key : Text) (before after : List TrackInfo) (next : TaskId) (senders : List Sender)
    (stopped : List TaskId) : Prop where
  gained : ∀ n i, HeldBy after n i →
    (HeldBy before n i ∧ n ∉ stopped) ∨ ∃ x ∈ senders, x.task = n ∧ x.trackId = i
  lost : ∀ n i, HeldBy before n i → n ∈ stopped ∨ HeldBy after n i
  started : ∀ x ∈ senders, HeldBy after x.task x.trackId ∧ x.session.name = key
  owned : ∀ n ∈ stopped, ∃ i, HeldBy before n i
  numbered : senders.map (·.task) = List.range' next senders.length

inductive Change (m m' : RtspSessionManager) : Prop where
  | quiet (sessions : m'.sessions = m.sessions) (spawned : m'.spawned = m.spawned)
      (aborted : m'.aborted = m.aborted)
  | entry (key : Text) (new : Option RtspSession) (senders : List Sender) (stopped : List TaskId)
      (after : ∀ k, m'.get k = if k = key then new else m.get k)
      (spawned : m'.spawned = m.spawned ++ senders) (aborted : m'.aborted = stopped ++ m.aborted)
      (accounts : (∀ s, m.get key = some s → s.Sound key) →
        Accounts key (tracksOf (m.get key)) (tracksOf new) m.spawned.length senders stopped)
      (sound : (∀ s, m.get key = some s → s.Sound key) → ∀ s, new = some s → s.Sound key)

theorem accountsSame {key : Text} {before after : List TrackInfo} {next : TaskId}
    (same : ∀ n i, HeldBy after n i ↔ HeldBy before n i) : Accounts key before after next [] [] where
  gained n i held := .inl ⟨(same n i).mp held,by simp⟩
  lost n i held := .inr ((same n i).mpr held)
  started := by simp
  owned := by simp
  numbered := rfl

theorem heldAppendIdle {tracks : List TrackInfo} {t : TrackInfo} (idle : t.rtpTask = none) (n : TaskId) (i : UInt8) :
    HeldBy (tracks ++ [t]) n i ↔ HeldBy tracks n i := by
  simp [HeldBy,or_and_right,exists_or,idle]

theorem notHeldCleared (tracks : List TrackInfo) (n : TaskId) (i : UInt8) : ¬ HeldBy (clearTasks tracks) n i := by
  rintro ⟨t,member,-,held⟩
  obtain ⟨t',-,rfl⟩ := List.mem_map.mp member
  simp at held

theorem notHeldNil (n : TaskId) (i : UInt8) : ¬ HeldBy [] n i := by
  rintro ⟨t,member,-⟩
  contradiction

theorem heldTask {tracks : List TrackInfo} {n : TaskId} : n ∈ tasksOf tracks ↔ ∃ i, HeldBy tracks n i := by
  simp [tasksOf,HeldBy]

theorem accountsStopped {key : Text} {before after : List TrackInfo} {next : TaskId}
    (idle : ∀ n i, ¬ HeldBy after n i) : Accounts key before after next [] (tasksOf before) where
  gained n i held := (idle n i held).elim
  lost n i held := .inl (heldTask.mpr ⟨i,held⟩)
  started := by simp
  owned n stopped := heldTask.mp stopped
  numbered := rfl

section Senders
variable {lookup : InstanceLookup} {s : RtspSession}

theorem startSendersTracks (lookup : InstanceLookup) (s : RtspSession) (next : TaskId) (tracks : List TrackInfo) :
    (startSenders lookup s next tracks).1.map (fun t => {t with rtpTask := none}) = clearTasks tracks := by
  induction tracks generalizing next with
  | nil => rfl
  | cons t rest ih =>
    rw [startSenders]
    split <;> simp [clearTasks,ih]

theorem heldCons {t : TrackInfo} {rest : List TrackInfo} {n : TaskId} {i : UInt8} :
    HeldBy (t::rest) n i ↔ (t.trackId = i ∧ t.rtpTask = some n) ∨ HeldBy rest n i := by
  simp [HeldBy]

theorem startSendersAccounts {key : Text} (keyed : s.id.name = key) (next : TaskId) (tracks : List TrackInfo) :
    Accounts key tracks (startSenders lookup s next tracks).1 next (startSenders lookup s next tracks).2 [] := by
  induction tracks generalizing next with
  | nil => exact accountsSame fun _ _ => Iff.rfl
  | cons t rest ih =>
    rw [startSenders]
    split
    · have tail := ih next
      constructor
      · intro n i held
        rcases heldCons.mp held with here | there
        · exact .inl ⟨heldCons.mpr (.inl here),by simp⟩
        · rcases tail.gained n i there with ⟨old,-⟩ | new
          · exact .inl ⟨heldCons.mpr (.inr old),by simp⟩
          · exact .inr new
      · intro n i held
        rcases heldCons.mp held with here | there
        · exact .inr (heldCons.mpr (.inl here))
        · exact (tail.lost n i there).imp_right fun kept => heldCons.mpr (.inr kept)
      · intro x started
        exact (tail.started x started).imp_left fun held => heldCons.mpr (.inr held)
      · simp
      · exact tail.numbered
    · rename_i idle
      have idle : t.rtpTask = none := by
        cases found : t.rtpTask with
        | none => rfl
        | some n => simp [found] at idle
      have tail := ih (next + 1)
      constructor
      · intro n i held
        rcases heldCons.mp held with ⟨same,task⟩ | there
        · exact .inr ⟨senderFor s t next,List.mem_cons_self,Option.some.inj task,same⟩
        · rcases tail.gained n i there with ⟨old,-⟩ | ⟨x,started,facts⟩
          · exact .inl ⟨heldCons.mpr (.inr old),by simp⟩
          · exact .inr ⟨x,List.mem_cons_of_mem _ started,facts⟩
      · intro n i held
        rcases heldCons.mp held with ⟨-,task⟩ | there
        · rw [idle] at task
          contradiction
        · exact (tail.lost n i there).imp_right fun kept => heldCons.mpr (.inr kept)
      · intro x started
        rcases List.mem_cons.mp started with rfl | started
        · exact ⟨heldCons.mpr (.inl ⟨rfl,rfl⟩),keyed⟩
        · exact (tail.started x started).imp_left fun held => heldCons.mpr (.inr held)
      · simp
      · simp [tail.numbered,List.range'_succ,senderFor]

end Senders

theorem soundOfCleared {tracks tracks' : List TrackInfo} (same : clearTasks tracks' = clearTasks tracks)
    (sound : ∀ t ∈ tracks, t.Sound) : ∀ t ∈ tracks', t.Sound := by
  intro t member
  have cleared : {t with rtpTask := none} ∈ clearTasks tracks := same ▸ List.mem_map_of_mem member
  obtain ⟨t',member',equal⟩ := List.mem_map.mp cleared
  have original := sound t' member'
  cases t
  cases t'
  simp only [TrackInfo.mk.injEq] at equal
  obtain ⟨rfl,rfl,rfl,rfl,rfl,rfl,rfl,-⟩ := equal
  exact ⟨original.kind,original.transport⟩

theorem idsOfCleared {tracks tracks' : List TrackInfo} (same : clearTasks tracks' = clearTasks tracks) :
    tracks'.map (·.trackId) = tracks.map (·.trackId) := by
  have ids : ∀ l : List TrackInfo, l.map (·.trackId) = (clearTasks l).map (·.trackId) := by
    simp [clearTasks]
  rw [ids,same,← ids]

theorem clearedTwice (tracks : List TrackInfo) : clearTasks (clearTasks tracks) = clearTasks tracks := by
  simp [clearTasks]

structure Accounted (m : RtspSessionManager) : Prop where
  numbered : m.spawned.map (·.task) = List.range m.spawned.length
  past : ∀ n ∈ m.aborted, n < m.spawned.length
  live : ∀ x ∈ m.spawned, x.task ∉ m.aborted → HeldBy (tracksOf (m.get x.session.name)) x.task x.trackId
  held : ∀ k n i, HeldBy (tracksOf (m.get k)) n i →
    n ∉ m.aborted ∧ ∃ x ∈ m.spawned, x.task = n ∧ x.session.name = k ∧ x.trackId = i

namespace Accounted
variable {m m' : RtspSessionManager}

theorem taskBelow (ok : Accounted m) {x : Sender} (member : x ∈ m.spawned) : x.task < m.spawned.length := by
  have listed : x.task ∈ m.spawned.map (·.task) := List.mem_map_of_mem member
  rw [ok.numbered] at listed
  exact List.mem_range.mp listed

theorem taskUnique (ok : Accounted m) {x y : Sender} (first : x ∈ m.spawned) (second : y ∈ m.spawned)
    (same : x.task = y.task) : x = y := by
  have distinct : (m.spawned.map (·.task)).Nodup := ok.numbered ▸ List.nodup_range
  exact List.inj_on_of_nodup_map distinct first second same

theorem heldBelow (ok : Accounted m) {k : Text} {n : TaskId} {i : UInt8}
    (held : HeldBy (tracksOf (m.get k)) n i) : n < m.spawned.length := by
  obtain ⟨-,x,member,rfl,-⟩ := ok.held k n i held
  exact ok.taskBelow member

theorem heldUnique (ok : Accounted m) {k k' : Text} {n : TaskId} {i i' : UInt8}
    (first : HeldBy (tracksOf (m.get k)) n i) (second : HeldBy (tracksOf (m.get k')) n i') : k = k' ∧ i = i' := by
  obtain ⟨-,x,member,task,rfl,rfl⟩ := ok.held k n i first
  obtain ⟨-,y,member',task',rfl,rfl⟩ := ok.held k' n i' second
  cases ok.taskUnique member member' (task.trans task'.symm)
  exact ⟨rfl,rfl⟩

theorem change (ok : Accounted m) (sound : ∀ k s, m.get k = some s → s.Sound k) (step : Change m m') :
    Accounted m' := by
  cases step with
  | quiet sessions spawned aborted =>
    have same : ∀ k, m'.get k = m.get k := fun k => by simp only [RtspSessionManager.get,sessions]
    exact ⟨by rw [spawned]; exact ok.numbered,by rw [spawned,aborted]; exact ok.past,
      by simp only [spawned,aborted,same]; exact ok.live,by simp only [spawned,aborted,same]; exact ok.held⟩
  | entry key new senders stopped after spawned aborted accounts _ =>
    have accounts := accounts (sound key)
    have fresh : ∀ x ∈ senders, m.spawned.length ≤ x.task := by
      intro x started
      have listed : x.task ∈ senders.map (·.task) := List.mem_map_of_mem started
      rw [accounts.numbered] at listed
      exact (List.mem_range'_1.mp listed).1
    have stoppedBelow : ∀ n ∈ stopped, n < m.spawned.length := by
      intro n ended
      obtain ⟨i,held⟩ := accounts.owned n ended
      exact ok.heldBelow held
    constructor
    · rw [spawned,List.map_append,ok.numbered,accounts.numbered,List.length_append,List.range_eq_range',
        List.range_eq_range',← List.range'_append_1,Nat.zero_add]
    · intro n member
      rw [aborted] at member
      rw [spawned,List.length_append]
      rcases List.mem_append.mp member with ended | earlier
      · exact Nat.lt_add_right _ (stoppedBelow n ended)
      · exact Nat.lt_add_right _ (ok.past n earlier)
    · intro x member alive
      rw [aborted,List.mem_append,not_or] at alive
      rw [spawned,List.mem_append] at member
      rw [after]
      rcases member with member | started
      · have held := ok.live x member alive.2
        split
        · rename_i here
          exact (accounts.lost _ _ (here ▸ held)).resolve_left alive.1
        · exact held
      · obtain ⟨held,here⟩ := accounts.started x started
        rw [if_pos here]
        exact held
    · intro k n i held
      rw [after] at held
      rw [aborted,spawned]
      split at held
      · rename_i here
        subst here
        rcases accounts.gained n i held with ⟨old,running⟩ | ⟨x,started,rfl,track⟩
        · obtain ⟨alive,x,member,facts⟩ := ok.held k n i old
          exact ⟨by simp [running,alive],x,List.mem_append_left _ member,facts⟩
        · refine ⟨?_,x,List.mem_append_right _ started,rfl,(accounts.started x started).2,track⟩
          intro ended
          have late := fresh x started
          rcases List.mem_append.mp ended with ended | earlier
          · exact Nat.not_le_of_lt (stoppedBelow _ ended) late
          · exact Nat.not_le_of_lt (ok.past _ earlier) late
      · rename_i other
        obtain ⟨alive,x,member,facts⟩ := ok.held k n i held
        refine ⟨?_,x,List.mem_append_left _ member,facts⟩
        intro ended
        rcases List.mem_append.mp ended with ended | earlier
        · obtain ⟨i',old⟩ := accounts.owned n ended
          exact other (ok.heldUnique held old).1
        · exact alive earlier

end Accounted

theorem soundChange {m m' : RtspSessionManager} (sound : ∀ k s, m.get k = some s → s.Sound k) (step : Change m m') :
    ∀ k s, m'.get k = some s → s.Sound k := by
  intro k s found
  cases step with
  | quiet sessions _ _ =>
    rw [RtspSessionManager.get,sessions] at found
    exact sound k s found
  | entry key new senders stopped after _ _ _ kept =>
    rw [after] at found
    split at found
    · rename_i here
      subst here
      exact kept (sound k) s found
    · exact sound k s found

end Vscreen.Rtsp
