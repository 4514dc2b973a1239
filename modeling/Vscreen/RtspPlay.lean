import Vscreen.RtspInvariant

/-! Media behind the sessions: the broadcast channels of the instances, which a
supervisor restart replaces, the channel that each sender task was subscribed to when
PLAY spawned it, and the tasks that have returned, at their start or later. -/
namespace Vscreen.Rtsp
open Text

def QualityTier.channels : QualityTier → UInt16
  | .low => 1
  | .medium => 1
  | .standard => 2
  | .high => 2
  | .custom _ channels => channels

structure Audiopus where
  decoder : Bool
  encoder : (channels : UInt16) → Bool
  setBitrate : (channels : UInt16) → (bps : Int32) → Bool

namespace OpusTranscoder

def channelsFromCount (ch : UInt16) : Option UInt16 := match ch with
  | 1 => some 1
  | 2 => some 2
  | _ => none

def new (opus : Audiopus) (tier : QualityTier) : Bool :=
  opus.decoder && match channelsFromCount tier.channels with
    | none => false
    | some target => opus.encoder target && opus.setBitrate target tier.bitrateBps.toInt32

end OpusTranscoder

-- What a spawned task finds: the writer of the connection that sent the PLAY, the
-- binds of its two ports, audiopus.
structure StartUp where
  tcpWriter : Bool
  bind : UInt16 → Bool
  opus : Audiopus

namespace Sender

def opensStream (found : StartUp) (x : Sender) : Bool := match x.interleaved with
  | some _ => found.tcpWriter
  | none => found.bind x.serverRtpPort && found.bind x.serverRtcpPort

def opensTranscoder (found : StartUp) (x : Sender) : Bool :=
  !x.quality.needsTranscode || OpusTranscoder.new found.opus x.quality

def starts (found : StartUp) (x : Sender) : Bool := match x.mediaType with
  | .video => x.opensStream found
  | .audio => x.opensStream found && x.opensTranscoder found

end Sender

abbrev SourceId := Nat

-- `feeds` is what each task was subscribed to, in the order of spawning; `cancelled` is
-- the server's own token, whose children the sessions hold.
structure Streaming where
  manager : RtspSessionManager
  sources : Table (Text × MediaType) SourceId
  drawn : Nat
  feeds : List (Option SourceId)
  ended : List TaskId
  cancelled : Bool

inductive StreamingEvent where
  -- with what the tasks that the request spawns find, by their tracks
  | server (e : Event) (found : UInt8 → StartUp)
  | ended (task : TaskId)
  | opened (instanceId : Text) (kind : MediaType)
  | closed (instanceId : Text) (kind : MediaType)
  | cancelled

namespace Streaming

def subscription (w : Streaming) (kind : MediaType) (instanceId : Text) : Option SourceId :=
  w.sources.get (instanceId,kind)

def lookup (w : Streaming) (l : InstanceLookup) : InstanceLookup :=
  {l with
    subscribeAudio := fun id => (w.subscription .audio id).isSome
    subscribeVideo := fun id => (w.subscription .video id).isSome}

def atRequest (w : Streaming) : Event → Event
  | .request x => .request {x with lookup := w.lookup x.lookup}
  | e => e

def newTasks (w : Streaming) (m : RtspSessionManager) : List Sender := m.spawned.drop w.manager.spawned.length

def failedTasks (w : Streaming) (found : UInt8 → StartUp) (m : RtspSessionManager) : List TaskId :=
  ((w.newTasks m).filter fun x => !x.starts (found x.trackId)).map (·.task)

-- Each new task keeps the receiver that its PLAY subscribed, and those whose start fails
-- return at once.
def serve (w : Streaming) (found : UInt8 → StartUp) (m : RtspSessionManager) : Streaming :=
  {w with
    manager := m
    feeds := w.feeds ++ (w.newTasks m).map fun x => w.subscription x.mediaType x.instanceId.name
    ended := w.failedTasks found m ++ w.ended}

def step (u : CaseMapping) (timeout : Duration) (w : Streaming) :
    StreamingEvent → Option (Streaming × List RtspResponse)
  | .server e found => ((server u timeout).step w.manager (w.atRequest e)).map fun r => (w.serve found r.1,r.2)
  | .ended task => if task < w.manager.spawned.length then some ({w with ended := task::w.ended},[]) else none
  | .opened instanceId kind =>
    some ({w with sources := w.sources.put (instanceId,kind) w.drawn, drawn := w.drawn + 1},[])
  | .closed instanceId kind => some ({w with sources := w.sources.del (instanceId,kind)},[])
  | .cancelled => some ({w with cancelled := true},[])

def machine (u : CaseMapping) (timeout : Duration) : Machine Streaming StreamingEvent RtspResponse :=
  ⟨⟨.withTimeout timeout,∅,0,[],[],false⟩,step u timeout⟩

def FreshId (w : Streaming) : StreamingEvent → Prop
  | .server e _ => Rtsp.FreshId w.manager e
  | _ => True

def Running (w : Streaming) (task : TaskId) : Prop :=
  task ∉ w.ended ∧ task ∉ w.manager.aborted ∧ w.cancelled = false

def Fed (w : Streaming) (s : RtspSession) (t : TrackInfo) (task : TaskId) : Prop :=
  ∃ source, w.feeds[task]? = some (some source) ∧ w.subscription t.mediaType s.instanceId.name = some source

def Served (w : Streaming) (s : RtspSession) (t : TrackInfo) : Prop :=
  ∃ task, t.rtpTask = some task ∧ w.Running task ∧ w.Fed s t task

def Flows (w : Streaming) (sessionId : Text) : Prop :=
  ∃ s, w.manager.get sessionId = some s ∧ ∀ t ∈ s.tracks, w.Served s t

/-- A track has no task, its source can be subscribed and a sender for it would start, or
its task has not ended and the source is still the one it was subscribed to. -/
def Startable (w : Streaming) (found : UInt8 → StartUp) (s : RtspSession) (t : TrackInfo) : Prop :=
  w.cancelled = false ∧ match t.rtpTask with
    | none => (w.subscription t.mediaType s.instanceId.name).isSome ∧
        (senderFor s t w.manager.spawned.length).starts (found t.trackId) = true
    | some task => task ∉ w.ended ∧ w.Fed s t task

def Ready (w : Streaming) (found : UInt8 → StartUp) (sessionId : Text) : Prop :=
  ∃ s, w.manager.get sessionId = some s ∧ ∀ t ∈ s.tracks, w.Startable found s t

variable {u : CaseMapping} {timeout : Duration} {w w' : Streaming} {x : Exchange} {found : UInt8 → StartUp}

theorem lookupSubscribe (w : Streaming) (l : InstanceLookup) (kind : MediaType) (instanceId : Text) :
    (w.lookup l).subscribe kind instanceId = (w.subscription kind instanceId).isSome := by
  cases kind <;> rfl

theorem freshAtRequest {e : Event} (fresh : Rtsp.FreshId w.manager e) : Rtsp.FreshId w.manager (w.atRequest e) := by
  cases e <;> exact fresh

theorem failedMember {m : RtspSessionManager} {n : TaskId} :
    n ∈ w.failedTasks found m ↔ ∃ x ∈ w.newTasks m, x.starts (found x.trackId) = false ∧ x.task = n := by
  simp [failedTasks,and_assoc]

structure Booked (w : Streaming) : Prop where
  kept : Kept w.manager
  feeds : w.feeds.length = w.manager.spawned.length
  ended : ∀ n ∈ w.ended, n < w.manager.spawned.length

theorem spawnedGrows {m m' : RtspSessionManager} (change : Change m m') : ∃ senders, m'.spawned = m.spawned ++ senders := by
  cases change with
  | quiet _ spawned _ => exact ⟨[],by rw [spawned,List.append_nil]⟩
  | entry _ _ senders _ _ spawned _ _ _ => exact ⟨senders,spawned⟩

theorem serveBooked (booked : w.Booked) {m : RtspSessionManager} (change : Change w.manager m) : (w.serve found m).Booked := by
  obtain ⟨senders,spawned⟩ := spawnedGrows change
  have kept : Kept m :=
    ⟨soundChange booked.kept.sound change,booked.kept.accounted.change booked.kept.sound change⟩
  refine ⟨kept,?_,?_⟩
  · simp [serve,newTasks,spawned,booked.feeds]
  · intro n member
    rcases List.mem_append.mp member with failed | earlier
    · obtain ⟨x,new,-,rfl⟩ := failedMember.mp failed
      exact kept.accounted.taskBelow (List.mem_of_mem_drop new)
    · have below := booked.ended n earlier
      rw [serve,spawned,List.length_append]
      exact Nat.lt_add_right _ below

theorem stepBooked {e : StreamingEvent} {out} (booked : w.Booked) (fresh : FreshId w e)
    (taken : w.step u timeout e = some (w',out)) : w'.Booked := by
  cases e with
  | server e found =>
    obtain ⟨r,moved,same⟩ := Option.map_eq_some_iff.mp taken
    cases same
    exact serveBooked booked (stepChange (freshAtRequest fresh) moved)
  | ended task =>
    simp only [step] at taken
    split at taken
    · rename_i below
      cases taken
      exact ⟨booked.kept,booked.feeds,List.forall_mem_cons.mpr ⟨below,booked.ended⟩⟩
    · contradiction
  | opened instanceId kind => cases taken; exact ⟨booked.kept,booked.feeds,booked.ended⟩
  | closed instanceId kind => cases taken; exact ⟨booked.kept,booked.feeds,booked.ended⟩
  | cancelled => cases taken; exact ⟨booked.kept,booked.feeds,booked.ended⟩

theorem runBooked {trace} (run : (machine u timeout).Run FreshId w trace) : w.Booked :=
  Machine.runInvariant (fun w _ => w.Booked) ⟨@runKept u timeout _ _ .start,rfl,by simp [machine]⟩
    (fun booked fresh taken => stepBooked booked fresh taken) run

end Streaming

inductive Started (lookup : InstanceLookup) (s : RtspSession) (next : TaskId) (senders : List Sender) :
    TrackInfo → TrackInfo → Prop where
  | holds {t n} (held : t.rtpTask = some n) : Started lookup s next senders t t
  | unavailable {t} (idle : t.rtpTask = none) (closed : lookup.subscribe t.mediaType s.instanceId.name = false) :
      Started lookup s next senders t t
  | spawned {t i} (idle : t.rtpTask = none) (available : lookup.subscribe t.mediaType s.instanceId.name = true)
      (sender : senders[i]? = some (senderFor s t (next + i))) :
      Started lookup s next senders t {t with rtpTask := some (next + i)}

theorem Started.later {lookup : InstanceLookup} {s : RtspSession} {next : TaskId} {senders : List Sender} {first : Sender}
    {t t' : TrackInfo} (started : Started lookup s (next + 1) senders t t') :
    Started lookup s next (first::senders) t t' := by
  cases started with
  | holds held => exact .holds held
  | unavailable idle closed => exact .unavailable idle closed
  | @spawned i idle available sender =>
    have number : next + 1 + i = next + (i + 1) := by rw [Nat.add_assoc,Nat.add_comm 1 i]
    rw [number] at sender ⊢
    exact .spawned idle available sender

theorem startSendersEach (lookup : InstanceLookup) (s : RtspSession) (next : TaskId) (tracks : List TrackInfo) :
    List.Forall₂ (Started lookup s next (startSenders lookup s next tracks).2) tracks
      (startSenders lookup s next tracks).1 := by
  induction tracks generalizing next with
  | nil => exact .nil
  | cons t rest ih =>
    rw [startSenders]
    split
    · rename_i skipped
      refine .cons ?_ (ih next)
      cases held : t.rtpTask with
      | some n => exact .holds held
      | none => exact .unavailable held (by simpa [held] using skipped)
    · rename_i taken
      obtain ⟨idle,available⟩ : t.rtpTask = none ∧ lookup.subscribe t.mediaType s.instanceId.name = true := by
        simpa [not_or] using taken
      refine .cons (.spawned (i := 0) idle available rfl) ?_
      exact (ih (next + 1)).imp fun _ _ started => started.later

theorem forallRelated {α β : Type} {R : α → β → Prop} {p : α → Prop} {q : β → Prop} {l : List α} {l' : List β}
    (related : List.Forall₂ R l l') (each : ∀ a ∈ l, ∀ b, R a b → (q b ↔ p a)) : (∀ b ∈ l', q b) ↔ ∀ a ∈ l, p a := by
  induction related with
  | nil => simp
  | cons head _ ih =>
    rw [List.forall_mem_cons,List.forall_mem_cons,each _ List.mem_cons_self _ head,
      ih fun a member => each a (List.mem_cons_of_mem _ member)]

structure Played (m m' : RtspSessionManager) (lookup : InstanceLookup) (sessionId : Text) (s s' : RtspSession) : Prop where
  found : m.get sessionId = some s
  after : m'.get sessionId = some s'
  instanceId : s'.instanceId = s.instanceId
  quality : s'.quality = s.quality
  aborted : m'.aborted = m.aborted
  spawned : m'.spawned = m.spawned ++ (startSenders lookup s' m.spawned.length s.tracks).2
  tracks : s'.tracks = (startSenders lookup s' m.spawned.length s.tracks).1

theorem playUnread {s s' : RtspSession} {now : Time} (played : s.play now = .ok s') :
    s'.instanceId = s.instanceId ∧ s'.quality = s.quality := by
  unfold RtspSession.play at played
  split at played <;> cases played <;> exact ⟨rfl,rfl⟩

theorem starterUnread {s s' : RtspSession} (quality : s'.quality = s.quality) (t : TrackInfo) (n n' : TaskId)
    (found : StartUp) : (senderFor s' t n).starts found = (senderFor s t n').starts found := by
  simp only [Sender.starts,Sender.opensStream,Sender.opensTranscoder,senderFor,quality]

theorem startSendersSession (lookup : InstanceLookup) (s : RtspSession) (tracks' : List TrackInfo) (next : TaskId)
    (tracks : List TrackInfo) :
    startSenders lookup {s with tracks := tracks'} next tracks = startSenders lookup s next tracks := by
  induction tracks generalizing next with
  | nil => rfl
  | cons t rest ih =>
    simp only [startSenders,ih]
    rfl

theorem handlePlaySpec {m : RtspSessionManager} {x : Exchange} {sessionId : SessionId}
    (named : x.request.session = some sessionId) (answered : (handlePlay m x).2.status = 200) :
    ∃ s s', Played m (handlePlay m x).1 x.lookup sessionId.name s s' := by
  rcases playCases m x with ⟨status,_,refused,same⟩ | ⟨sessionId',s,s',named',found,played,done⟩
  · rw [same] at answered
    exact absurd answered refused
  · cases named.symm.trans named'
    obtain ⟨-,tracks,-⟩ := playSpec played
    have unread := startSendersSession x.lookup s' (startSenders x.lookup s' m.spawned.length s'.tracks).1
      m.spawned.length s'.tracks
    rw [done]
    refine ⟨s,{s' with tracks := (startSenders x.lookup s' m.spawned.length s'.tracks).1},found,?_,
      (playUnread played).1,(playUnread played).2,rfl,?_,?_⟩
    · rw [getUpdate,if_pos rfl]
    · rw [← tracks,unread]
      rfl
    · rw [← tracks,unread]

namespace Streaming
variable {u : CaseMapping} {timeout : Duration} {w : Streaming} {found : UInt8 → StartUp}

theorem newTaskLate {m' : RtspSessionManager} (accounted : Accounted m') {y : Sender} (new : y ∈ w.newTasks m') :
    w.manager.spawned.length ≤ y.task := by
  have listed : y.task ∈ (m'.spawned.map (·.task)).drop w.manager.spawned.length := by
    rw [← List.map_drop]
    exact List.mem_map_of_mem new
  rw [accounted.numbered,List.range_eq_range',List.drop_range'] at listed
  simpa using (List.mem_range'_1.mp listed).1

theorem endedEarlier {m' : RtspSessionManager} (accounted : Accounted m') {n : TaskId}
    (below : n < w.manager.spawned.length) : n ∈ (w.serve found m').ended ↔ n ∈ w.ended := by
  refine List.mem_append.trans (or_iff_right fun failed => ?_)
  obtain ⟨y,new,-,rfl⟩ := failedMember.mp failed
  exact Nat.not_le_of_lt below (newTaskLate accounted new)

variable (found) in
theorem endedNew (booked : w.Booked) {m' : RtspSessionManager} (accounted : Accounted m') {y : Sender}
    (new : y ∈ w.newTasks m') : y.task ∉ (w.serve found m').ended ↔ y.starts (found y.trackId) = true := by
  have late := newTaskLate accounted new
  have earlier : y.task ∉ w.ended := fun ended => Nat.not_le_of_lt (booked.ended _ ended) late
  rw [serve,List.mem_append,failedMember]
  constructor
  · intro running
    by_contra stopped
    exact running (.inl ⟨y,new,by simpa using stopped,rfl⟩)
  · rintro starts (⟨y',new',failed,same⟩ | ended)
    · have unique := accounted.taskUnique (List.mem_of_mem_drop new') (List.mem_of_mem_drop new) same
      rw [unique,starts] at failed
      contradiction
    · exact earlier ended

variable (found) in
theorem trackServed (booked : w.Booked) {lookup : InstanceLookup} {key : Text} {s s' : RtspSession}
    {m' : RtspSessionManager} (accounted : Accounted m') (played : Played w.manager m' (w.lookup lookup) key s s')
    {t t' : TrackInfo} (member : t ∈ s.tracks)
    (started : Started (w.lookup lookup) s' w.manager.spawned.length
      (startSenders (w.lookup lookup) s' w.manager.spawned.length s.tracks).2 t t') :
    (w.serve found m').Served s' t' ↔ w.Startable found s t := by
  have new : w.newTasks m' = (startSenders (w.lookup lookup) s' w.manager.spawned.length s.tracks).2 := by
    rw [newTasks,played.spawned,List.drop_left]
  cases started with
  | @holds n held =>
    have old : HeldBy (tracksOf (w.manager.get key)) n t.trackId := by
      rw [played.found]
      exact ⟨t,member,rfl,held⟩
    have below := booked.kept.accounted.heldBelow old
    have kept : n ∉ m'.aborted := played.aborted ▸ (booked.kept.accounted.held _ _ _ old).1
    have fed : (w.serve found m').Fed s' t n ↔ w.Fed s t n := by
      rw [Fed,Fed,serve,List.getElem?_append_left (booked.feeds ▸ below),played.instanceId]
      rfl
    rw [Startable,held]
    constructor
    · rintro ⟨n',same,⟨running,-,live⟩,receives⟩
      cases Option.some.inj (held.symm.trans same)
      exact ⟨live,fun ended => running ((endedEarlier accounted below).mpr ended),fed.mp receives⟩
    · rintro ⟨live,running,receives⟩
      exact ⟨n,held,⟨fun ended => running ((endedEarlier accounted below).mp ended),kept,live⟩,fed.mpr receives⟩
  | unavailable idle closed =>
    -- PLAY answers 200 all the same, and the track has no task
    rw [lookupSubscribe,played.instanceId] at closed
    rw [Startable,idle]
    constructor
    · rintro ⟨n,held,-⟩
      rw [idle] at held
      contradiction
    · rintro ⟨-,available,-⟩
      rw [closed] at available
      contradiction
  | @spawned i idle available sender =>
    rw [lookupSubscribe] at available
    obtain ⟨source,subscribed⟩ := Option.isSome_iff_exists.mp available
    have listed : senderFor s' t (w.manager.spawned.length + i) ∈ w.newTasks m' :=
      new ▸ List.mem_of_getElem? sender
    have running := endedNew found booked accounted listed
    rw [starterUnread played.quality t _ w.manager.spawned.length] at running
    -- the new task's number is past every task that was aborted
    have kept : w.manager.spawned.length + i ∉ m'.aborted := by
      intro aborted
      rw [played.aborted] at aborted
      exact Nat.not_lt_of_le (Nat.le_add_right ..) (booked.kept.accounted.past _ aborted)
    have fed : (w.serve found m').feeds[w.manager.spawned.length + i]? = some (some source) := by
      rw [serve,List.getElem?_append_right (by rw [booked.feeds]; exact Nat.le_add_right _ _),booked.feeds,
        Nat.add_sub_cancel_left,new,List.getElem?_map,sender]
      exact congrArg some subscribed
    rw [Startable,idle]
    constructor
    · rintro ⟨n,same,⟨alive,-,live⟩,-⟩
      cases Option.some.inj same
      exact ⟨live,by rw [← played.instanceId]; exact available,running.mp alive⟩
    · rintro ⟨live,-,starts⟩
      exact ⟨_,rfl,⟨running.mpr starts,kept,live⟩,source,fed,subscribed⟩

theorem playServes {trace} (run : (machine u timeout).Run FreshId w trace) {x : Exchange} {sessionId : SessionId}
    (play : x.request.method = .play) (named : x.request.session = some sessionId) {w' : Streaming} {r : RtspResponse}
    (taken : w.step u timeout (.server (.request x) found) = some (w',[r])) (answered : r.status = 200) :
    w'.Flows sessionId.name ↔ w.Ready found sessionId.name := by
  have booked := runBooked run
  have handled : ∀ l, handleRequest u w.manager {x with lookup := l} = handlePlay w.manager {x with lookup := l} := by
    intro l
    rw [handleRequest,play]
  cases taken
  rw [handled] at answered ⊢
  obtain ⟨s,s',played⟩ := handlePlaySpec (x := {x with lookup := w.lookup x.lookup}) named answered
  have accounted := booked.kept.accounted.change booked.kept.sound (changePlay w.manager {x with lookup := w.lookup x.lookup})
  have each := forallRelated (startSendersEach (w.lookup x.lookup) s' w.manager.spawned.length s.tracks)
    fun t member t' started => trackServed found booked accounted played member started
  rw [← played.tracks] at each
  have flows : Flows (w.serve found (handlePlay w.manager {x with lookup := w.lookup x.lookup}).1) sessionId.name ↔
      ∀ t ∈ s'.tracks, Served (w.serve found (handlePlay w.manager {x with lookup := w.lookup x.lookup}).1) s' t := by
    rw [Flows,serve,played.after]
    simp
  have ready : w.Ready found sessionId.name ↔ ∀ t ∈ s.tracks, w.Startable found s t := by
    rw [Ready,played.found]
    simp
  exact flows.trans (each.trans ready.symm)

section Run

def playVideo : Exchange := exchangeOf (playRequest ['a']) ['b']

def freePorts : UInt8 → StartUp := fun _ => ⟨true,fun _ => true,true,fun _ => true,fun _ bps => 0 < bps⟩

theorem playServesRun : ∃ (w w' : Streaming) (r : RtspResponse),
    w.step .ascii 0 (.server (.request playBoth) freePorts) = some (w',[r]) ∧ r.status = 200 ∧ w'.Flows ['a'] := by
  have pictures := Machine.runStep (.start : (machine .ascii 0).Run FreshId _ _) (.opened "dev".toList .video) trivial rfl
  have sounds := Machine.runStep pictures (.opened "dev".toList .audio) trivial rfl
  have video := Machine.runStep sounds (.server (.request setupVideo) freePorts) rfl rfl
  have audio := Machine.runStep video (.server (.request setupAudio) freePorts) rfl rfl
  refine ⟨_,_,_,rfl,rfl,(playServes (x := playBoth) audio rfl rfl rfl rfl).mpr ⟨_,rfl,?_⟩⟩
  exact List.forall_mem_cons.mpr ⟨⟨rfl,rfl,rfl⟩,List.forall_mem_singleton.mpr ⟨rfl,rfl,rfl⟩⟩

theorem endedTaskKept : ¬ ∀ (w : Streaming) (trace : List RtspResponse), (machine .ascii 0).Run FreshId w trace →
    ∀ (x : Exchange) (found : UInt8 → StartUp) (sessionId : SessionId) (w' : Streaming) (r : RtspResponse),
      x.request.method = .play → x.request.session = some sessionId →
      w.step .ascii 0 (.server (.request x) found) = some (w',[r]) → r.status = 200 → w'.Flows sessionId.name := by
  intro flows
  have opened := Machine.runStep (.start : (machine .ascii 0).Run FreshId _ _) (.opened "dev".toList .video) trivial rfl
  have ready := Machine.runStep opened (.server (.request setupVideo) freePorts) rfl rfl
  have playing := Machine.runStep ready (.server (.request playVideo) freePorts) rfl rfl
  have stopped := Machine.runStep playing (.ended 0) trivial rfl
  obtain ⟨s,found,served⟩ := flows _ _ stopped playVideo freePorts ⟨['a']⟩ _ _ rfl rfl rfl rfl
  obtain rfl := Option.some.inj found
  obtain ⟨n,held,running,-⟩ := served _ List.mem_cons_self
  obtain rfl := Option.some.inj held
  exact running.1 List.mem_cons_self

end Run

end Streaming
end Vscreen.Rtsp
